import Waymark.Descriptor.Reading
import Waymark.Proofs.Accounting
import Waymark.Proofs.ImportPlan
import Waymark.Proofs.Names
import Waymark.Proofs.SyntaxEquality

/-! # Where clients come from

    A client is compiled from a root of a descriptor, and the descriptor is read from a
    source (`CompiledFrom`). This module collects what is known of a client because of
    that (`ClientRoot.Traced`):

    * its scope says of each name what the last statement says that binds it
      (`Scope.lookup_ofStatements`), and all names in it are identifiers;
    * its root is bound, and its operations refer to capabilities by their paths from
      the root;
    * the names in the types of its operations are bound or defined everywhere, and every
      `POST` has a parameter type;
    * no unit offers a verb twice or has two units of one name in it.
-/

namespace Waymark

open Waymark.Grammar

/-! ## The last entry of a name -/

/-- What the last entry of a name says. -/
def lastEntry {α : Type} (name : String) (entries : List (String × α)) : Option α :=
  entries.reverse.lookup name

@[simp] theorem lastEntry_nil {α : Type} (name : String) :
    lastEntry name ([] : List (String × α)) = none := rfl

theorem lastEntry_append {α : Type} (name : String) (xs ys : List (String × α)) :
    lastEntry name (xs ++ ys) = (lastEntry name ys).or (lastEntry name xs) := by
  unfold lastEntry
  rw [List.reverse_append, List.lookup_append]

theorem lastEntry_singleton {α : Type} (name key : String) (value : α) :
    lastEntry name [(key, value)] = if name = key then some value else none := by
  unfold lastEntry
  by_cases h : name = key
  · simp [h]
  · simp [h, List.lookup_cons, beq_eq_false_iff_ne.mpr h]

theorem mem_of_lastEntry {α : Type} {name : String} {entries : List (String × α)} {value : α}
    (h : lastEntry name entries = some value) : (name, value) ∈ entries := by
  unfold lastEntry at h
  obtain ⟨before, after, heq, -⟩ := List.lookup_eq_some_iff.mp h
  rw [← List.mem_reverse, heq]
  simp

/-! ## Scopes -/

/-- The bindings that a statement adds to a scope, in order. -/
def Grammar.Statement.bindings (module : String) (isPackage : Bool) : Statement → List Binding
  | .importModules items => items.map fun item =>
    { name := item.newName.getD (topName item.name), kind := .importedModule
      originModule := item.name }
  | .importItems level written items =>
    match importedModule module isPackage level written with
    | none => []
    | some origin => (items.filter fun item => item.name ≠ "*").map fun item =>
      { name := item.newName.getD item.name, kind := .imported, originModule := origin
        originName := some item.name }
  | .classDef name _ _ _ _ =>
    [{ name, kind := .localClass, originModule := module, originName := some name }]
  | .functionDef name _ _ =>
    [{ name, kind := .localFunction, originModule := module, originName := some name }]
  | .assign targets value => (targets.filterMap Expr.name?).map fun name =>
    { name, kind := if makesTypeVariable value then .typeVariable else .assigned
      originModule := module, originName := some name }
  | .annotate target _ value => ([target].filterMap Expr.name?).map fun name =>
    { name, kind := if value.any makesTypeVariable then .typeVariable else .assigned
      originModule := module, originName := some name }
  | .compound _ | .simple => []

namespace Scope

@[simp] theorem module_foldl_bind (bs : List Binding) (s : Scope) :
    (bs.foldl bind s).module = s.module := by
  induction bs generalizing s with
  | nil => rfl
  | cons b rest ih => rw [List.foldl_cons, ih, module_bind]

/-- After some bindings a name means what the last of them says that binds it. -/
theorem lookup_foldl_bind (bs : List Binding) (s : Scope) (name : String) :
    (bs.foldl bind s).lookup name
      = (lastEntry name (bs.map fun b => (b.name, b))).or (s.lookup name) := by
  induction bs generalizing s with
  | nil => simp
  | cons b rest ih =>
    rw [List.foldl_cons, ih, lookup_bind, List.map_cons, ← List.singleton_append, lastEntry_append,
      lastEntry_singleton]
    by_cases h : name = b.name
    · simp [h]
    · simp [h]

theorem foldl_bindItem (origin : String) (items : List Alias) (s : Scope) :
    items.foldl (fun s item => s.bindItem origin item) s
      = ((items.filter fun item => item.name ≠ "*").map fun item =>
          { name := item.newName.getD item.name, kind := .imported, originModule := origin
            originName := some item.name : Binding }).foldl bind s := by
  induction items generalizing s with
  | nil => rfl
  | cons item rest ih =>
    rw [List.foldl_cons, ih]
    unfold bindItem
    by_cases h : item.name = "*"
    · simp [h]
    · simp [h]

theorem bindTargets_eq (s : Scope) (kind : BindingKind) (targets : List Expr) :
    s.bindTargets kind targets
      = ((targets.filterMap Expr.name?).map fun name =>
          { name, kind, originModule := s.module, originName := some name : Binding }).foldl bind s := by
  unfold bindTargets
  generalize targets.filterMap Expr.name? = names
  induction names generalizing s with
  | nil => rfl
  | cons name rest ih =>
    rw [List.foldl_cons, ih]
    rfl

/-- A statement binds its bindings one after the other. -/
theorem bindStatement_eq (isPackage : Bool) (s : Scope) (st : Statement) :
    s.bindStatement isPackage st = (st.bindings s.module isPackage).foldl bind s := by
  cases st with
  | importModules items =>
    simp only [bindStatement, Statement.bindings, List.foldl_map]
    rfl
  | importItems level written items =>
    simp only [bindStatement, Statement.bindings]
    cases importedModule s.module isPackage level written with
    | none => rfl
    | some origin => exact foldl_bindItem origin items s
  | classDef name bases decorators body line => rfl
  | functionDef name decorators body => rfl
  | assign targets value => exact bindTargets_eq s _ targets
  | annotate target typeExpr value => exact bindTargets_eq s _ [target]
  | compound body => rfl
  | simple => rfl

theorem foldl_bindStatement (isPackage : Bool) (body : List Statement) (s : Scope) :
    body.foldl (bindStatement isPackage) s
      = (body.flatMap (Statement.bindings s.module isPackage)).foldl bind s := by
  induction body generalizing s with
  | nil => rfl
  | cons st rest ih =>
    rw [List.foldl_cons, ih, bindStatement_eq, module_foldl_bind, List.flatMap_cons,
      List.foldl_append]

@[simp] theorem module_ofStatements (module : String) (isPackage : Bool) (body : List Statement) :
    (ofStatements module isPackage body).module = module := by
  unfold ofStatements
  rw [foldl_bindStatement, module_foldl_bind]

/-- **A name means what the last statement says that binds it.** -/
theorem lookup_ofStatements (module : String) (isPackage : Bool) (body : List Statement)
    (name : String) :
    (ofStatements module isPackage body).lookup name
      = lastEntry name
          ((body.flatMap (Statement.bindings module isPackage)).map fun b => (b.name, b)) := by
  unfold ofStatements
  rw [foldl_bindStatement, lookup_foldl_bind]
  exact Option.or_none

end Scope

/-! ## Names without blanks -/

theorem Grammar.Dotted.blank_not_mem {name : String} (h : Dotted name) : ' ' ∉ name.toList := by
  obtain ⟨parts, -, hparts, rfl⟩ := h
  induction parts with
  | nil => simp
  | cons part rest ih =>
    have hpart := Text.blank_not_mem_of_isIdentifier (hparts part List.mem_cons_self)
    have hrest := ih fun other hother => hparts other (List.mem_cons_of_mem _ hother)
    cases rest with
    | nil => simpa using hpart
    | cons next more =>
      rw [String.intercalate_cons_cons, String.toList_append, String.toList_append,
        List.mem_append, List.mem_append]
      rintro ((hmem | hmem) | hmem)
      · exact hpart hmem
      · simp at hmem
      · exact hrest hmem

/-- The name that an import of the binding writes first has no blanks. -/
def Binding.Legible (b : Binding) : Prop :=
  match b.kind with
  | .importedModule => ' ' ∉ b.originModule.toList
  | .imported => ' ' ∉ (b.originName.getD "None").toList
  | _ => ' ' ∉ b.name.toList

theorem legible_of_own {b : Binding} (hmodule : b.kind ≠ .importedModule)
    (hitem : b.kind ≠ .imported) (h : Text.isIdentifier b.name = true) : b.Legible := by
  have hblank := Text.blank_not_mem_of_isIdentifier h
  unfold Binding.Legible
  split
  · next hkind => exact absurd hkind hmodule
  · next hkind => exact absurd hkind hitem
  · exact hblank

/-- The targets of an assignment that are plain names are identifiers. -/
theorem isIdentifier_of_target {targets : List Expr} (h : ∀ target ∈ targets, target.Named)
    {name : String} (hname : name ∈ targets.filterMap Expr.name?) :
    Text.isIdentifier name = true := by
  obtain ⟨target, htarget, hid⟩ := List.mem_filterMap.mp hname
  cases target with
  | name id =>
    cases hid
    exact h _ htarget name rfl
  | literal value => cases hid
  | apply form parts => cases hid

theorem bindings_legible {module : String} {isPackage : Bool} {st : Statement} (h : st.Named)
    {b : Binding} (hb : b ∈ st.bindings module isPackage) : b.Legible := by
  cases st with
  | importModules items =>
    obtain ⟨item, hitem, rfl⟩ := List.mem_map.mp hb
    exact (h item hitem).1.blank_not_mem
  -- a star binds nothing, and all other items are identifiers
  | importItems level written items =>
    cases hmodule : importedModule module isPackage level written with
    | none =>
      simp only [Statement.bindings, hmodule] at hb
      cases hb
    | some origin =>
      simp only [Statement.bindings, hmodule] at hb
      obtain ⟨item, hitem, rfl⟩ := List.mem_map.mp hb
      obtain ⟨hmem, hstar⟩ := List.mem_filter.mp hitem
      rcases h item hmem with ⟨hname, -⟩ | ⟨hname, -⟩
      · exact absurd hname (of_decide_eq_true hstar)
      · exact Text.blank_not_mem_of_isIdentifier hname
  | classDef name bases decorators body line =>
    cases List.mem_singleton.mp hb
    exact legible_of_own BindingKind.noConfusion BindingKind.noConfusion h.1
  | functionDef name decorators body =>
    cases List.mem_singleton.mp hb
    exact legible_of_own BindingKind.noConfusion BindingKind.noConfusion h
  | assign targets value =>
    obtain ⟨name, hname, rfl⟩ := List.mem_map.mp hb
    refine legible_of_own ?_ ?_ (isIdentifier_of_target h hname)
    · dsimp only; split <;> exact BindingKind.noConfusion
    · dsimp only; split <;> exact BindingKind.noConfusion
  | annotate target typeExpr value =>
    obtain ⟨name, hname, rfl⟩ := List.mem_map.mp hb
    have htarget : ∀ e ∈ [target], e.Named := by
      intro e he
      cases List.mem_singleton.mp he
      exact h
    refine legible_of_own ?_ ?_ (isIdentifier_of_target htarget hname)
    · dsimp only; split <;> exact BindingKind.noConfusion
    · dsimp only; split <;> exact BindingKind.noConfusion
  | compound body => cases hb
  | simple => cases hb

/-! ## Endpoints as they are read -/

/-- The endpoint, what is nested in it and its capabilities are named by their places: each by
    the path of what it is nested in and its own name. -/
inductive Endpoint.Placed : String → Endpoint → Prop
  | intro {path : String} {e : Endpoint} (qualname : e.qualname = path ++ e.name)
      (capabilities : ∀ cap ∈ e.capabilities,
        cap.qualname = e.qualname ++ "." ++ cap.name ∧ Text.isIdentifier cap.name = true)
      (children : ∀ c ∈ e.children, Endpoint.Placed (e.qualname ++ ".") c) : Endpoint.Placed path e

theorem Endpoint.Placed.qualname_eq {path : String} {e : Endpoint} (h : e.Placed path) :
    e.qualname = path ++ e.name := by
  cases h with
  | intro hqualname _ _ => exact hqualname

/-- All capabilities of a tree have names that begin with the path of its outermost endpoint. -/
theorem Endpoint.Placed.exists_rest {path : String} {e : Endpoint} (h : e.Placed path)
    {d : Endpoint} (hd : d ∈ e.walk) {cap : Capability} (hcap : cap ∈ d.capabilities) :
    ∃ rest, cap.qualname = e.qualname ++ "." ++ rest := by
  induction e using Endpoint.tree_induction generalizing path with
  | step e ih =>
    cases h with
    | intro _ hcapabilities hchildren =>
      rw [Endpoint.walk_eq, List.mem_cons, List.mem_flatMap] at hd
      rcases hd with rfl | ⟨c, hc, hd⟩
      · exact ⟨cap.name, (hcapabilities cap hcap).1⟩
      · have hplaced := hchildren c hc
        obtain ⟨rest, hrest⟩ := ih c hc hplaced hd
        -- the name of the child stands in between
        refine ⟨c.name ++ "." ++ rest, ?_⟩
        cases hplaced with
        | intro hqualname _ _ =>
          rw [hrest, hqualname]
          simp only [String.append_assoc]

theorem read?_eq_some {scope : Scope} {path name : String} {bases decorators : List Expr}
    {line : Nat} {cap : Capability}
    (h : Capability.read? scope path name bases decorators line = some cap) :
    cap.qualname = path ++ name ∧ cap.name = name := by
  unfold Capability.read? at h
  dsimp only at h
  split at h
  · cases h
    exact ⟨rfl, rfl⟩
  · cases h

/-- By induction on the reading: classes go through their bodies, bodies through their
    statements. -/
theorem read_placed (scope : Scope) :
    (∀ (path : String) (s : Statement), s.Named → ∀ e : Endpoint,
      (Endpoint.read scope path s).value = some e → e.Placed path) ∧
    ∀ (path : String) (body : List Statement), allNamed body →
      (∀ c ∈ (Members.read scope path body).value.children, c.Placed path) ∧
      ∀ cap ∈ (Members.read scope path body).value.capabilities,
        cap.qualname = path ++ cap.name ∧ Text.isIdentifier cap.name = true := by
  apply Endpoint.read.mutual_induct scope
    (fun path s => s.Named → ∀ e, (Endpoint.read scope path s).value = some e → e.Placed path)
    (fun path body => allNamed body →
      (∀ c ∈ (Members.read scope path body).value.children, c.Placed path) ∧
      ∀ cap ∈ (Members.read scope path body).value.capabilities,
        cap.qualname = path ++ cap.name ∧ Text.isIdentifier cap.name = true)
  case case1 =>
    intro path name bases decorators body line hnone _ e h
    simp only [Endpoint.read, hnone] at h
    cases h
  case case2 =>
    intro path name bases decorators body line decorator hdecorator hsegment _ e h
    simp only [Endpoint.read, hdecorator, hsegment] at h
    cases h
  case case3 =>
    intro path name bases decorators body line decorator hdecorator qualname codes hsegment ih hnamed
      e h
    simp only [Endpoint.read, hdecorator, hsegment] at h
    obtain ⟨hchildren, hcapabilities⟩ := ih hnamed.2
    cases h
    exact .intro rfl hcapabilities hchildren
  case case4 =>
    intro st path hne _ e h
    cases st with
    | classDef name bases decorators body line => exact (hne name bases decorators body line rfl).elim
    | _ =>
      simp only [Endpoint.read] at h
      cases h
  case case5 =>
    intro path _
    simp [Members.read]
  case case6 =>
    intro path rest name typeExpr value ih hnamed
    simpa [Members.read] using ih hnamed.2
  -- a class that is an endpoint is one more child
  case case7 =>
    intro path rest name bases decorators body line hclass hone ih hnamed
    have hlater := ih hnamed.2
    simp only [Members.read, hclass, if_true, Report.value_bind, Report.value_pure]
    refine ⟨fun c hc => ?_, hlater.2⟩
    rcases List.mem_append.mp hc with hc | hc
    · exact hone hnamed.1 c (Option.mem_toList.mp hc)
    · exact hlater.1 c hc
  -- any other class may be a capability
  case case8 =>
    intro path rest name bases decorators body line hclass ih hnamed
    have hlater := ih hnamed.2
    simp only [Members.read, hclass]
    refine ⟨hlater.1, fun cap hcap => ?_⟩
    rcases List.mem_append.mp hcap with hcap | hcap
    · obtain ⟨hqualname, hname⟩ := read?_eq_some (Option.mem_toList.mp hcap)
      rw [hqualname, hname]
      exact ⟨rfl, hnamed.1.1⟩
    · exact hlater.2 cap hcap
  case case9 =>
    intro path st rest hannotate hclass ih hnamed
    cases st with
    | classDef name bases decorators body line =>
      exact (hclass name bases decorators body line rfl).elim
    | annotate target typeExpr value =>
      cases target with
      | name id => exact (hannotate id typeExpr value rfl).elim
      | _ => simpa only [Members.read] using ih hnamed.2
    | _ => simpa only [Members.read] using ih hnamed.2

/-- An endpoint is read from a class, which has its name. -/
theorem read_classDef {scope : Scope} {path : String} {st : Statement} {e : Endpoint}
    (h : (Endpoint.read scope path st).value = some e) :
    ∃ bases decorators inner line, st = .classDef e.name bases decorators inner line := by
  cases st with
  | classDef name bases decorators body line =>
    refine ⟨bases, decorators, body, line, ?_⟩
    -- a class without the decorator or without a segment gives no endpoint
    cases hdecorator : endpointDecorator scope decorators with
    | none =>
      simp only [Endpoint.read, hdecorator] at h
      cases h
    | some decorator =>
      cases hsegment : segmentCodes decorator with
      | none =>
        simp only [Endpoint.read, hdecorator, hsegment] at h
        cases h
      | some codes =>
        simp only [Endpoint.read, hdecorator, hsegment] at h
        cases h
        rfl
  | _ =>
    simp only [Endpoint.read] at h
    cases h

/-- The outermost endpoints are classes of the module. -/
theorem readRoots_spec {scope : Scope} {body : List Statement} (hnamed : ∀ s ∈ body, s.Named)
    {e : Endpoint} (h : e ∈ (readRoots scope body).value) :
    e.Placed "" ∧ ∃ bases decorators inner line,
      Statement.classDef e.name bases decorators inner line ∈ body := by
  induction body with
  | nil => cases h
  | cons st rest ih =>
    unfold readRoots at h
    simp only [Report.value_bind, Report.value_pure] at h
    rcases List.mem_append.mp h with h | h
    · have hread := Option.mem_toList.mp h
      obtain ⟨bases, decorators, inner, line, rfl⟩ := read_classDef hread
      exact ⟨(read_placed scope).1 "" _ (hnamed _ List.mem_cons_self) e hread, bases, decorators,
        inner, line, List.mem_cons_self⟩
    · obtain ⟨hplaced, bases, decorators, inner, line, hmem⟩ :=
        ih (fun s hs => hnamed s (List.mem_cons_of_mem _ hs)) h
      exact ⟨hplaced, bases, decorators, inner, line, List.mem_cons_of_mem _ hmem⟩

/-! ## Compiled clients -/

/-- The client is compiled from an outermost endpoint of the source of a module. -/
inductive CompiledFrom (module : String) (isPackage : Bool) (source : String) (client : ClientRoot) :
    Prop where
  | intro {complaint : String} {report : Report (Option Descriptor)} {d : Descriptor}
      {e : Endpoint} (read : Descriptor.ofSource module isPackage source complaint = .ok report)
      (parsed : report.value = some d) (root : e ∈ d.roots)
      (compiled : (RootRequest.compile { endpoint := e, scope := d.scope }).value = some client)

/-- What is known of a client because it is compiled from statements of a module. -/
structure ClientRoot.Traced (module : String) (isPackage : Bool) (body : List Statement)
    (client : ClientRoot) : Prop where
  named : ∀ s ∈ body, s.Named
  scope : client.scope = Scope.ofStatements module isPackage body
  rootNamed : Text.isIdentifier client.root.name = true
  rootBound : ∃ b, client.scope.lookup client.root.name = some b
  qualified : ∀ op ∈ client.root.allOperations, ∃ rest,
    op.capability = client.root.name ++ "." ++ rest
  bound : ∀ op ∈ client.root.allOperations, ∀ name ∈ op.names,
    client.scope.lookup name = none → isBuiltin name = true
  complete : ∀ op ∈ client.root.allOperations, op.verb = .post → op.paramType ≠ none
  distinct : ∀ u ∈ client.root.walk,
    (u.operations.map Operation.verb).Nodup ∧ (u.children.map ClientUnit.name).Nodup

/-- An operation of a compiled tree is what a capability of the declared tree resolves to. -/
theorem exists_capability {scope : Scope} {isRoot : Bool} {e : Endpoint} {u : ClientUnit}
    (hvalue : (e.compile scope isRoot).value = some u) {op : Operation}
    (hop : op ∈ u.allOperations) :
    ∃ d ∈ e.walk, ∃ cap ∈ d.capabilities, cap.resolve scope d = .ok op := by
  obtain ⟨visits, hledger⟩ := Endpoint.exists_ledger scope isRoot e
  have hoperations := hledger.operations
  rw [hvalue, Option.toList_some, List.flatMap_singleton] at hoperations
  rw [hoperations] at hop
  obtain ⟨v, hv, hop⟩ := List.mem_flatMap.mp hop
  obtain ⟨fate, hfate, hbound⟩ := List.mem_filterMap.mp hop
  have hwalk := Endpoint.mem_walk_iff.mpr ⟨_, hledger.found v hv⟩
  have hfair := hledger.fair v hv
  -- only where a visit is sound are there operations
  cases hfair with
  | sound _ each =>
    obtain ⟨cap, hcap, hdeserved⟩ := exists_left_of_forall₂ each hfate
    cases hdeserved with
    | bound resolved =>
      cases hbound
      exact ⟨_, hwalk, cap, hcap, resolved⟩
    | refused _ _ _ => cases hbound
  | clashing _ _ _ => cases hfate
  | orphan _ _ _ => cases hfate

/-- In a compiled tree no unit offers a verb twice or has two units of one name in it. -/
theorem distinct_of_compile {scope : Scope} {isRoot : Bool} {e : Endpoint} {u : ClientUnit}
    (hvalue : (e.compile scope isRoot).value = some u) :
    ∀ v ∈ u.walk, (v.operations.map Operation.verb).Nodup ∧ (v.children.map ClientUnit.name).Nodup := by
  induction e using Endpoint.tree_induction generalizing isRoot u with
  | step e ih =>
    intro v hv
    rw [ClientUnit.walk_eq, List.mem_cons, List.mem_flatMap] at hv
    rcases hv with rfl | ⟨child, hchild, hv⟩
    -- only the first operation of each verb was kept
    · refine ⟨?_, Endpoint.nodup_children_of_compile hvalue⟩
      obtain ⟨-, rfl⟩ := Endpoint.compile_eq_some hvalue
      exact nodup_firstOfEachVerb _
    · obtain ⟨-, rfl⟩ := Endpoint.compile_eq_some hvalue
      dsimp only at hchild
      rw [Endpoint.compileNested_value] at hchild
      obtain ⟨c, hc, hunit⟩ := List.mem_filterMap.mp hchild
      exact ih c hc (Endpoint.nestedUnit_eq_some.mp hunit).1 v hv

/-- The scope knows what the name stands for: it is bound, and not to a type variable, or it is
    unbound and defined everywhere. -/
def Scope.Knows (scope : Scope) (name : String) : Prop :=
  (∃ b, scope.lookup name = some b ∧ b.kind ≠ .typeVariable) ∨
    scope.lookup name = none ∧ isBuiltin name = true

/-- A scope has nothing against the names that it knows. -/
theorem Scope.nameFault_eq_none_iff {scope : Scope} {name : String} :
    scope.nameFault name = none ↔ scope.Knows name := by
  unfold Scope.nameFault Scope.Knows
  cases hlookup : scope.lookup name with
  | none => simp
  | some b => simp

namespace Capability

variable {scope : Scope} {cap : Capability} {e : Endpoint} {op : Operation}

/-- Where nothing is wrong with an argument, its names are known. -/
theorem knows_of_fault_eq_none {argument : TypeArgument} (h : argument.fault scope = none)
    {name : String} (hname : name ∈ argument.names) : scope.Knows name := by
  have hnames : argument.names.findSome? scope.nameFault = none := by
    unfold TypeArgument.fault at h
    split at h
    · split at h
      · exact h
      · cases h
    · exact h
  exact Scope.nameFault_eq_none_iff.mp (List.findSome?_eq_none_iff.mp hnames name hname)

/-- Each slot of the contract that a resolved capability extends has an argument in order. -/
theorem exists_argument {verb : Verb} {arguments : List TypeArgument}
    (h : verb.slots.zipIdx.findSome? (slotFault scope verb arguments) = none) {index : Nat}
    {slot : Slot} (hslot : verb.slots[index]? = some slot) :
    ∃ argument, arguments[index]? = some argument ∧ argument.fault scope = none := by
  have hmem : (slot, index) ∈ verb.slots.zipIdx := List.mem_zipIdx_iff_getElem?.mpr hslot
  have hnone := List.findSome?_eq_none_iff.mp h _ hmem
  unfold slotFault at hnone
  cases hargument : arguments[index]? with
  | none => simp [hargument] at hnone
  | some argument =>
    simp only [hargument, Option.map_eq_none_iff] at hnone
    exact ⟨argument, rfl, hnone⟩

/-- The names of an operation are known. -/
theorem knows_of_resolve (h : cap.resolve scope e = .ok op) {name : String}
    (hname : name ∈ op.names) : scope.Knows name := by
  obtain ⟨verb, arguments, -, hslots, hlength, -, rfl⟩ := resolve_eq_ok_iff.mp h
  obtain ⟨argument, hargument, hmem⟩ := List.mem_flatMap.mp (Text.mem_sortDistinct.mp hname)
  obtain ⟨index, hindex⟩ := List.getElem?_of_mem hargument
  have hlt : index < verb.slots.length := by
    have hbound := (List.getElem?_eq_some_iff.mp hindex).1
    exact Nat.lt_of_lt_of_le hbound hlength
  obtain ⟨found, hfound, hfault⟩ := exists_argument hslots (List.getElem?_eq_getElem hlt)
  obtain rfl : argument = found := Option.some.inj (hindex.symm.trans hfound)
  exact knows_of_fault_eq_none hfault hmem

/-- The names of an operation that are unbound are defined everywhere. -/
theorem isBuiltin_of_resolve (h : cap.resolve scope e = .ok op) {name : String}
    (hname : name ∈ op.names) (hunbound : scope.lookup name = none) : isBuiltin name = true := by
  rcases knows_of_resolve h hname with ⟨b, hbound, -⟩ | ⟨-, hbuiltin⟩
  · rw [hunbound] at hbound
    cases hbound
  · exact hbuiltin

/-- A `POST` has a parameter type. -/
theorem paramType_ne_none (h : cap.resolve scope e = .ok op) (hverb : op.verb = .post) :
    op.paramType ≠ none := by
  obtain ⟨verb, arguments, -, hslots, -, -, rfl⟩ := resolve_eq_ok_iff.mp h
  obtain rfl : verb = .post := hverb
  obtain ⟨param, hparam, -⟩ := exists_argument hslots (show Verb.post.slots[1]? = some .param from rfl)
  intro hnone
  match arguments, hparam with
  | first :: second :: rest, _ => cases hnone

end Capability

/-- A class statement binds the name of the class. -/
theorem exists_lookup_of_classDef {module : String} {isPackage : Bool} {body : List Statement}
    {name : String} {bases decorators : List Expr} {inner : List Statement} {line : Nat}
    (h : .classDef name bases decorators inner line ∈ body) :
    ∃ b, (Scope.ofStatements module isPackage body).lookup name = some b := by
  rw [Scope.lookup_ofStatements, ← Option.isSome_iff_exists]
  obtain ⟨before, after, rfl⟩ := List.append_of_mem h
  rw [List.flatMap_append, List.map_append, lastEntry_append, List.flatMap_cons, List.map_append,
    lastEntry_append]
  simp only [Statement.bindings, List.map_cons, List.map_nil, lastEntry_singleton, if_true,
    Option.isSome_or, Option.isSome_some, Bool.or_true, Bool.true_or]

/-- What a root compiles to is traced. -/
theorem traced_of_compile {module : String} {isPackage : Bool} {body : List Statement}
    {e : Endpoint} {client : ClientRoot} (hnamed : ∀ s ∈ body, s.Named)
    (hroot : e ∈ (readRoots (Scope.ofStatements module isPackage body) body).value)
    (hcompiled : (RootRequest.compile
      { endpoint := e, scope := Scope.ofStatements module isPackage body }).value = some client) :
    client.Traced module isPackage body := by
  obtain ⟨hplaced, bases, decorators, inner, line, hclass⟩ := readRoots_spec hnamed hroot
  unfold RootRequest.compile at hcompiled
  rw [Report.value_bind, Report.value_pure, Option.map_eq_some_iff] at hcompiled
  obtain ⟨u, hvalue, rfl⟩ := hcompiled
  -- the unit has the name of the endpoint
  have hname : u.name = e.name := by
    obtain ⟨-, rfl⟩ := Endpoint.compile_eq_some hvalue
    rfl
  refine ⟨hnamed, rfl, ?_, ?_, ?_, ?_, ?_, distinct_of_compile hvalue⟩
  · show Text.isIdentifier u.name = true
    rw [hname]
    exact (hnamed _ hclass).1
  · show ∃ b, (Scope.ofStatements module isPackage body).lookup u.name = some b
    rw [hname]
    exact exists_lookup_of_classDef hclass
  · intro op hop
    obtain ⟨d, hd, cap, hcap, hresolve⟩ := exists_capability hvalue hop
    obtain ⟨rest, hrest⟩ := hplaced.exists_rest hd hcap
    refine ⟨rest, ?_⟩
    rw [(Capability.resolve_names hresolve).1, hrest]
    show e.qualname ++ "." ++ rest = u.name ++ "." ++ rest
    cases hplaced with
    | intro hqualname _ _ => rw [hqualname, hname, String.empty_append]
  · intro op hop name hmem hunbound
    obtain ⟨d, -, cap, -, hresolve⟩ := exists_capability hvalue hop
    exact Capability.isBuiltin_of_resolve hresolve hmem hunbound
  · intro op hop hverb
    obtain ⟨d, -, cap, -, hresolve⟩ := exists_capability hvalue hop
    exact Capability.paramType_ne_none hresolve hverb

/-- The root of which a client is compiled is among those of the statements of the source. -/
theorem CompiledFrom.exists_root {module : String} {isPackage : Bool} {source : String}
    {client : ClientRoot} (h : CompiledFrom module isPackage source client) :
    ∃ body, parseModule source.toList = .ok body ∧
      ∃ e ∈ (readRoots (Scope.ofStatements module isPackage body) body).value,
        (RootRequest.compile
          { endpoint := e, scope := Scope.ofStatements module isPackage body }).value = some client := by
  obtain ⟨hread, hparsed, hroot, hcompiled⟩ := h
  unfold Descriptor.ofSource at hread
  split at hread
  · cases hread
  · split at hread
    · cases hread
      cases hparsed
    · next body hbody =>
      split at hread
      · cases hread
      · cases hread
        cases hparsed
        exact ⟨body, hbody, _, hroot, hcompiled⟩

/-- **What is known of compiled clients.** -/
theorem CompiledFrom.traced {module : String} {isPackage : Bool} {source : String}
    {client : ClientRoot} (h : CompiledFrom module isPackage source client) :
    ∃ body, parseModule source.toList = .ok body ∧ client.Traced module isPackage body := by
  obtain ⟨body, hbody, e, hroot, hcompiled⟩ := h.exists_root
  exact ⟨body, hbody, traced_of_compile (parseModule_named hbody) hroot hcompiled⟩

/-! ## What clients import -/

/-- The imports that do not come from the descriptor: the response type and the functions
    of the transport. -/
def Client.ownImports (ops : List Operation) (transport : String) : List Client.Import :=
  .item responseModule responseType none
    :: (verbsOf ops).map fun v => .item transport v.method (some (primitive v))

theorem Client.mem_imports_iff {scope : Scope} {rootName : String} {ops : List Operation}
    {transport : String} {i : Client.Import} :
    i ∈ imports scope rootName ops transport ↔
      i ∈ ownImports ops transport ∨
        ∃ name ∈ mentioned rootName ops, importOf scope name = some i := by
  unfold imports ownImports
  rw [List.mem_append, List.mem_filterMap]

namespace ClientRoot

/-- Everything that a client imports, for the operations of all its units. -/
def imports (client : ClientRoot) (transport : String) : List Client.Import :=
  Client.imports client.scope client.root.name client.root.allOperations transport

/-- The imports of a client in the order in which they are written. -/
def plan (client : ClientRoot) (transport : String) : List Client.Import :=
  Client.importPlan (client.imports transport)

/-- The descriptor names that a client mentions. -/
def mentioned (client : ClientRoot) : List String :=
  Client.mentioned client.root.name client.root.allOperations

/-- The imports of a client that do not come from the descriptor. -/
def ownImports (client : ClientRoot) (transport : String) : List Client.Import :=
  Client.ownImports client.root.allOperations transport

variable {module : String} {isPackage : Bool} {body : List Statement} {client : ClientRoot}
  {transport : String} {i : Client.Import}

/-- Everything that a traced client imports from where the descriptor has it is legible. -/
theorem Traced.importOf_legible (h : client.Traced module isPackage body) {name : String}
    (hi : Client.importOf client.scope name = some i) : i.Legible := by
  obtain ⟨b, hlookup, rfl⟩ := Option.map_eq_some_iff.mp hi
  rw [h.scope, Scope.lookup_ofStatements] at hlookup
  obtain ⟨b, hmem, heq⟩ := List.mem_map.mp (mem_of_lastEntry hlookup)
  cases heq
  obtain ⟨st, hst, hb⟩ := List.mem_flatMap.mp hmem
  -- the record comes from a statement whose names are all legible
  have hlegible := bindings_legible (h.named st hst) hb
  unfold Binding.Legible at hlegible
  cases hkind : b.kind with
  | importedModule =>
    rw [hkind] at hlegible
    exact hlegible
  | imported =>
    rw [hkind] at hlegible
    exact hlegible
  | _ =>
    rw [hkind] at hlegible
    exact hlegible

/-- All that the client imports is legible. -/
theorem Traced.imports_legible (h : client.Traced module isPackage body) :
    ∀ i ∈ client.imports transport, i.Legible := by
  intro i hi
  rcases Client.mem_imports_iff.mp hi with hown | ⟨name, -, himport⟩
  · rcases List.mem_cons.mp hown with rfl | hprimitive
    · show ' ' ∉ Client.responseType.toList
      decide
    · obtain ⟨v, -, rfl⟩ := List.mem_map.mp hprimitive
      show ' ' ∉ v.method.toList
      cases v <;> decide
  · exact h.importOf_legible himport

/-- What is planned is what comes with every client and what the mentioned names need. -/
theorem Traced.mem_plan_iff (h : client.Traced module isPackage body) :
    i ∈ client.plan transport ↔
      i ∈ client.ownImports transport ∨
        ∃ name ∈ client.mentioned, Client.importOf client.scope name = some i := by
  unfold plan
  rw [Client.mem_importPlan_iff h.imports_legible]
  exact Client.mem_imports_iff

end ClientRoot

/-! ## A short descriptor

    A source with one root, read and compiled step by step. It shows that there are compiled
    clients, and its names are used below where names matter. -/

namespace Sample

/-- A short source. Its root has one capability, which mentions a class of the module and a
    type from a renamed module. -/
def source : String :=
  "import shapi.api as s\nimport t.m as t\nclass AClient: 0\n"
    ++ "@s.resources.resource('')\nclass A:\n class G(s.contracts.GET[A,AClient,t.T]): 0\n"

/-- The decorator of the root. -/
def decorator : Expr :=
  .apply (.call 1 [])
    [.apply (.attribute "resource") [.apply (.attribute "resources") [.name "s"]],
      .literal (.text [] false)]

/-- The third type argument. -/
def errorType : Expr :=
  .apply (.attribute "T") [.name "t"]

/-- What the capability extends. -/
def contract : Expr :=
  .apply .subscript
    [.apply (.attribute "GET") [.apply (.attribute "contracts") [.name "s"]],
      .apply .tuple [.name "A", .name "AClient", errorType]]

/-- The statements of the source. -/
def body : List Statement :=
  [.importModules [{ name := "shapi.api", newName := some "s" }],
    .importModules [{ name := "t.m", newName := some "t" }],
    .classDef "AClient" [] [] [.simple] 3,
    .classDef "A" [] [decorator] [.classDef "G" [contract] [] [.simple] 6] 5]

def scope : Scope :=
  Scope.ofStatements "app.api" false body

/-- The contract as it is read. -/
def supertype : Supertype :=
  { display := "s.contracts.GET[A, AClient, t.T]"
    target := some "shapi.api.contracts.GET"
    arguments := some [{ source := "A", names := ["A"] },
      { source := "AClient", names := ["AClient"] }, { source := "t.T", names := ["t"] }] }

/-- The root as it is read. -/
def endpoint : Endpoint :=
  { name := "A", qualname := "A", segment := ""
    capabilities := [{ name := "G", qualname := "A.G", supertypes := [supertype], line := 6 }]
    line := 5 }

/-- The operation of the root. -/
def operation : Operation :=
  { node := "A", capability := "A.G", verb := .get, requestType := "A", resultType := "AClient"
    errorType := "t.T", names := ["A", "AClient", "t"] }

/-- The client of the root. -/
def client : ClientRoot :=
  { module := "app.api"
    root := { name := "A", qualname := "A", segment := "", operations := [operation] }
    scope }

theorem parseModule_source : parseModule source.toList = .ok body := by
  have hchars : source.toList = _ :=
    Text.toList_append_eq String.toList_ofList String.toList_ofList
  exact (congrArg parseModule hchars).trans (by decide +kernel)

theorem moduleFault_body : moduleFault? scope body = none := by
  cbv

theorem source_no_null : source.toList.contains '\x00' = false := by
  have hchars : source.toList = _ :=
    Text.toList_append_eq String.toList_ofList String.toList_ofList
  exact (congrArg (List.contains · '\x00') hchars).trans (by cbv)

theorem read_argument {scope : Scope} {e : Expr} {text : String} {names : List String}
    (htype : TypeArgument.typeOf scope e = .ok e) (htext : e.print false Level.test = text)
    (hnames : Text.sortDistinct e.names = names) :
    TypeArgument.read scope e = { source := text, names } := by
  unfold TypeArgument.read
  rw [htype]
  simp only [htext, hnames]

theorem read_contract : Supertype.read scope contract = supertype := by
  have hA : TypeArgument.read scope (.name "A") = { source := "A", names := ["A"] } :=
    read_argument (by cbv) (by cbv) rfl
  have hClient : TypeArgument.read scope (.name "AClient")
      = { source := "AClient", names := ["AClient"] } :=
    read_argument (by cbv) (by cbv) rfl
  have hT : TypeArgument.read scope errorType = { source := "t.T", names := ["t"] } :=
    read_argument (by cbv) (by cbv) rfl
  have hdisplay : contract.print false Level.test = "s.contracts.GET[A, AClient, t.T]" := by
    cbv
  have htarget : scope.denoted (.apply (.attribute "GET") [.apply (.attribute "contracts") [.name "s"]])
      = some "shapi.api.contracts.GET" := by
    rfl
  unfold Supertype.read
  rw [hdisplay]
  simp only [contract, indexArguments, List.map_cons, List.map_nil, hA, hClient, hT, htarget]
  rfl

theorem readRoots_body : (readRoots scope body).value = [endpoint] := by
  have hcapability : Capability.read? scope "A." "G" [contract] [] 6
      = some { name := "G", qualname := "A.G", supertypes := [supertype], line := 6 } := by
    unfold Capability.read?
    simp only [List.map_cons, List.map_nil, read_contract]
    rfl
  have hmembers : (Members.read scope "A." [.classDef "G" [contract] [] [.simple] 6]).value
      = { capabilities := endpoint.capabilities } := by
    simp only [Members.read, hcapability]
    rfl
  have hroot : (Endpoint.read scope "" (.classDef "A" [] [decorator]
      [.classDef "G" [contract] [] [.simple] 6] 5)).value = some endpoint := by
    have hdecorator : endpointDecorator scope [decorator] = some decorator := rfl
    have hsegment : segmentCodes decorator = some [] := rfl
    simp only [Endpoint.read, hdecorator, hsegment, Report.value_bind, Report.value_pure]
    have hpath : "" ++ "A" ++ "." = "A." := by decide
    rw [hpath, hmembers]
    rfl
  simp only [body, readRoots, Report.value_bind, Report.value_pure, hroot]
  rfl

theorem mem_readRoots : endpoint ∈ (readRoots scope body).value := by
  rw [readRoots_body]
  exact List.mem_cons_self

theorem compile_endpoint : (RootRequest.compile { endpoint, scope }).value = some client := by
  rfl

/-- The source is read. -/
theorem exists_report (complaint : String) :
    ∃ report, Descriptor.ofSource "app.api" false source complaint = .ok report ∧
      report.value = some (Descriptor.ofStatements "app.api" false body).value := by
  unfold Descriptor.ofSource
  rw [source_no_null, parseModule_source]
  simp only [Bool.false_eq_true, if_false]
  rw [show Scope.ofStatements "app.api" false body = scope from rfl, moduleFault_body]
  exact ⟨_, rfl, rfl⟩

theorem compiledFrom : CompiledFrom "app.api" false source client := by
  obtain ⟨report, hreport, hvalue⟩ := exists_report ""
  exact .intro hreport hvalue mem_readRoots compile_endpoint

end Sample

end Waymark

import Waymark.Proofs.ArgumentEdit
import Waymark.Proofs.LeadingNames
import Waymark.Proofs.NameClashes

/-! # Fields and the names of their types

    An annotated name in the body of an endpoint declares a field, unless its annotation is taken
    for that of a class variable. Whether it is so taken is decided in part by the text of the
    annotation, and the text is a matter of the name that the annotation begins with
    (`Declaration.isClassVariable`).

    * Every endpoint class with a literal path, nested in others at any depth, is read as a node at
      a position of its root (`Statement.NestedIn.exists_at`).
    * The fields of the node are the declarations in the body that are left, in order
      (`Members.read_fields`).
    * Positions that are visited have names of their own (`Endpoint.Visited.eq_of_qualname`), so the
      report of a missing field can be told from all others
      (`Endpoint.missingParent_mem_diagnostics_iff`).

    The main result is `Descriptor.parent_field_seen`.
-/

namespace Waymark

open Waymark.Grammar

/-! ## Declarations -/

/-- An annotated name in the body of a class. -/
structure Declaration where
  name : String
  typeExpr : Expr
  value : Option Expr

/-- The declaration that a statement is, if it is one. -/
def Grammar.Statement.declaration? : Statement → Option Declaration
  | .annotate (.name name) typeExpr value => some { name, typeExpr, value }
  | _ => none

namespace Declaration

variable (scope : Scope) (a : Declaration)

/-- Is the declaration taken for that of a class variable? It is one if its annotation is the form
    for class variables, or a subscript of it. It is taken for one as well if the annotation begins
    with a name that starts with `ClassVar`. -/
def isClassVariable : Bool :=
  isOneOf classVariableForms (scope.denoted (typeHead a.typeExpr))
    || (a.typeExpr.leadingName? Level.test).any fun id => id.startsWith "ClassVar"

/-- Is the value a call of `parent`? -/
def isParent : Bool :=
  a.value.any (isParentCall scope)

/-- The field that is declared. -/
def field : Field :=
  { name := a.name, typeText := a.typeExpr.print false Level.test, isParent := a.isParent scope
    hasDefault := a.value.isSome && !a.isParent scope }

end Declaration

/-- The declarations of fields in a class body, in order. -/
def fieldDeclarations (scope : Scope) (body : List Statement) : List Declaration :=
  (body.filterMap Statement.declaration?).filter fun a => !a.isClassVariable scope

section

variable {scope : Scope} {path place : String} {st : Statement} {body : List Statement}

/-- What a declaration of a well-formed type declares. -/
theorem Field.read?_eq {a : Declaration} (h : a.typeExpr.Formed) :
    Field.read? scope a.name a.typeExpr a.value
      = if a.isClassVariable scope then none else some (a.field scope) := by
  obtain ⟨_, h⟩ := h
  unfold Field.read? isClassVariable Declaration.isClassVariable
  rw [startsWith_print_eq h]
  rfl

/-- A single statement declares one field at most. -/
theorem Members.read_single_fields (h : st.Annotated) :
    (read scope path [st]).value.fields
      = (fieldDeclarations scope [st]).map (Declaration.field scope) := by
  cases st with
  | annotate target typeExpr value =>
    cases target with
    | name name =>
      have hfield := @Field.read?_eq scope { name, typeExpr, value } h
      simp only [read, Report.value_bind, Report.value_pure, hfield, fieldDeclarations,
        Statement.declaration?, List.filterMap_cons, List.filterMap_nil, List.filter_cons,
        List.filter_nil, List.append_nil]
      cases Declaration.isClassVariable scope { name, typeExpr, value } <;> rfl
    | _ => simp [read, fieldDeclarations, Statement.declaration?]
  | classDef name bases decorators body line =>
    by_cases hclass : isEndpointClass scope decorators = true
    · simp [read, hclass, fieldDeclarations, Statement.declaration?]
    · simp [read, hclass, fieldDeclarations, Statement.declaration?]
  | _ => simp [read, fieldDeclarations, Statement.declaration?]

theorem fieldDeclarations_append (scope : Scope) (before after : List Statement) :
    fieldDeclarations scope (before ++ after)
      = fieldDeclarations scope before ++ fieldDeclarations scope after := by
  simp [fieldDeclarations]

/-- **The fields are the declarations in the body that are not taken for class variables**, in
    order. -/
theorem Members.read_fields (h : ∀ st ∈ body, st.Annotated) :
    (read scope path body).value.fields
      = (fieldDeclarations scope body).map (Declaration.field scope) := by
  induction body with
  | nil => simp [read, fieldDeclarations]
  | cons st rest ih =>
    obtain ⟨hst, hrest⟩ := List.forall_mem_cons.mp h
    rw [read_cons_value, append, read_single_fields hst, ih hrest, ← List.map_append,
      ← fieldDeclarations_append, List.singleton_append]

/-! ## Classes nested at any depth -/

/-- The class stands among the statements, or in the body of a class that does. The classes around
    it are endpoints with literal paths, and `place` is what its own name is put behind. -/
inductive Grammar.Statement.NestedIn (scope : Scope) (place : String) (st : Statement) :
    (path : String) → List Statement → Prop
  | here {body : List Statement} (mem : st ∈ body) : Statement.NestedIn scope place st place body
  | inside {path name : String} {bases decorators : List Expr} {inner body : List Statement}
      {line : Nat} {decorator : Expr} {codes : List Nat}
      (mem : .classDef name bases decorators inner line ∈ body)
      (decorated : endpointDecorator scope decorators = some decorator)
      (known : segmentCodes decorator = some codes)
      (further : Statement.NestedIn scope place st (path ++ name ++ ".") inner) :
      Statement.NestedIn scope place st path body

namespace Grammar.Statement.NestedIn

/-- By induction on the nesting: the class is read as a node of the tree of one of the
    statements. -/
theorem exists_at (h : Statement.NestedIn scope place st path body) {o : Endpoint}
    (hread : Endpoint.ReadFrom scope place st o) :
    ∃ st' ∈ body, ∃ e, Endpoint.ReadFrom scope path st' e ∧ ∃ way, e.at? way = some o := by
  induction h with
  | here mem => exact ⟨st, mem, o, hread, [], rfl⟩
  | @inside path name _ _ inner _ _ _ _ mem decorated known _ ih =>
    obtain ⟨st', hst', c, hc, way, hat⟩ := ih
    refine ⟨_, mem, _, .intro decorated known, ?_⟩
    have hchild : c ∈ (Members.read scope (path ++ name ++ ".") inner).value.children := by
      rw [Members.read_children]
      exact List.mem_filterMap.mpr ⟨st', hst', Endpoint.read_eq_some_iff.mpr hc⟩
    obtain ⟨i, hi⟩ := List.getElem?_of_mem hchild
    exact ⟨i :: way, Endpoint.at?_cons_eq_some.mpr ⟨c, hi, hat⟩⟩

theorem annotated (h : Statement.NestedIn scope place st path body)
    (hbody : ∀ st ∈ body, st.Annotated) : st.Annotated := by
  induction h with
  | here mem => exact hbody st mem
  | inside mem _ _ _ ih => exact ih (allAnnotated_iff.mp (hbody _ mem))

end Grammar.Statement.NestedIn

end

/-! ## Reports of a missing field -/

theorem Scope.locate_inj {scope : Scope} {a b : String} (h : scope.locate a = scope.locate b) :
    a = b := by
  unfold Scope.locate at h
  exact String.append_right_inj _ |>.mp h

/-- A text that begins with another letter is not that of a missing field. -/
theorem append_ne_missingParent {text : String} {c : Char} (htext : text.toList.head? = some c)
    (hc : c ≠ 'n') (rest : String) : text ++ rest ≠ Misfit.missingParent.message := by
  intro heq
  have hmissing : Misfit.missingParent.message.toList.head? = some 'n' := by decide
  rw [← heq, head?_toList_append htext] at hmissing
  exact hc (Option.some.inj hmissing)

theorem Rejection.message_ne_missingParent (r : Rejection) :
    r.message ≠ Misfit.missingParent.message := by
  unfold message
  -- the first letters are different
  cases r with
  | noSupertype => decide
  | severalSupertypes displays =>
    simp only [String.append_assoc]
    exact append_ne_missingParent (c := 'c') (by decide) (by decide) _
  | unknownSupertype display =>
    simp only [String.append_assoc]
    exact append_ne_missingParent (c := 's') (by decide) (by decide) _
  | missingArgument verb index slot =>
    simp only [String.append_assoc]
    cases verb with
    | get => exact append_ne_missingParent (c := 'G') (by decide) (by decide) _
    | post => exact append_ne_missingParent (c := 'P') (by decide) (by decide) _
  | faultyArgument index slot fault =>
    simp only [String.append_assoc]
    exact append_ne_missingParent (c := 'u') (by decide) (by decide) _
  | surplusArgument verb =>
    simp only [String.append_assoc]
    exact append_ne_missingParent (c := 'u') (by decide) (by decide) _
  | foreignNode given expected =>
    simp only [String.append_assoc]
    exact append_ne_missingParent (c := 't') (by decide) (by decide) _

theorem Misfit.duplicateName_message_ne_missingParent (name : String) :
    (Misfit.duplicateName name).message ≠ Misfit.missingParent.message := by
  change "duplicate nested name " ++ Text.quoted name ++ "; subtree skipped" ≠ _
  rw [String.append_assoc]
  exact append_ne_missingParent (c := 'd') (by decide) (by decide) _

theorem Misfit.repeatedVerb_message_ne_missingParent {node first : String} {verb : Verb} :
    (Misfit.repeatedVerb node verb first).message ≠ Misfit.missingParent.message := by
  intro heq
  -- the node comes first, so it is the last words that differ
  have hlast : "y skipped".toList <:+ "); capability skipped".toList := by decide
  have hsuffix : "y skipped".toList <:+ Misfit.missingParent.message.toList := by
    rw [← heq]
    unfold message
    rw [String.toList_append]
    exact hlast.trans (List.suffix_append _ _)
  have hnot : ¬ "y skipped".toList <:+ Misfit.missingParent.message.toList := by decide
  exact hnot hsuffix

/-- No rejected capability and no repeated verb is worded as a missing field. -/
theorem Deserved.ne_missingParent {scope : Scope} {e : Endpoint} {cap : Capability}
    {x : Diagnostic} (h : Deserved scope e cap (.refused x)) {qualname : String} {line : Int} :
    x ≠ Misfit.missingParent.diagnostic scope qualname line := by
  intro heq
  have hmessage := congrArg Diagnostic.message heq
  cases h with
  | refused _ _ reason =>
    rcases reason with ⟨r, _, rfl⟩ | ⟨op, first, _, rfl⟩
    · exact r.message_ne_missingParent hmessage
    · exact Misfit.repeatedVerb_message_ne_missingParent hmessage

namespace Endpoint

variable {scope : Scope} {isRoot : Bool} {path : String} {root e o : Endpoint} {way other : List Nat}

/-- What is nested in an endpoint has a longer name. -/
theorem Placed.qualname_ne_of_child (hplaced : root.Placed path) {c : Endpoint}
    (hc : c ∈ root.children) (ho : o ∈ c.walk) : root.qualname ≠ o.qualname := by
  intro hsame
  cases hplaced with
  | intro _ _ hchildren =>
    have hle := ((hchildren c hc).isUnder ho).length_le
    rw [← hsame, (hchildren c hc).qualname_eq, String.length_append, String.length_append] at hle
    have hone : ".".length = 1 := rfl
    omega

/-- **Visited endpoints have names of their own.** By induction on the way to the visited one: where
    another way branches off, the two go on in children with different names. -/
theorem Visited.eq_of_qualname (h : Visited isRoot root way) (hplaced : root.Placed path)
    (hdots : ∀ d ∈ root.walk, '.' ∉ d.name.toList) (hat : root.at? way = some e)
    (hother : root.at? other = some o) (hsame : e.qualname = o.qualname) : way = other := by
  induction h generalizing path other with
  | here =>
    obtain rfl := Option.some.inj hat
    cases other with
    | nil => rfl
    | cons i other =>
      obtain ⟨c, hi, hc⟩ := at?_cons_eq_some.mp hother
      exact absurd hsame (hplaced.qualname_ne_of_child (List.mem_of_getElem? hi)
        (mem_walk_iff.mpr ⟨other, hc⟩))
  | @deeper isRoot root c i way hsound hchild _ ih =>
    obtain ⟨c', hc', hat⟩ := at?_cons_eq_some.mp hat
    obtain rfl : c = c' := Option.some.inj (hchild.symm.trans hc')
    have hc : c ∈ root.children := List.mem_of_getElem? hchild
    cases other with
    | nil =>
      obtain rfl := Option.some.inj hother
      exact absurd hsame.symm (hplaced.qualname_ne_of_child hc (mem_walk_iff.mpr ⟨way, hat⟩))
    | cons j other =>
      obtain ⟨d, hj, hother⟩ := at?_cons_eq_some.mp hother
      have hd : d ∈ root.children := List.mem_of_getElem? hj
      cases hplaced with
      | intro _ _ hchildren =>
        have hnodup : root.nestedNames.Nodup := by
          by_contra hnodup
          exact hsound (.inl hnodup)
        -- both are below a child, and the children on the way to them have the same name
        have hmine := (hchildren c hc).isUnder (mem_walk_iff.mpr ⟨way, hat⟩)
        have hothers := (hchildren d hd).isUnder (mem_walk_iff.mpr ⟨other, hother⟩)
        rw [(hchildren c hc).qualname_eq] at hmine
        rw [(hchildren d hd).qualname_eq, ← hsame] at hothers
        have hname : c.name = d.name := eq_of_isUnder
          (hdots c (mem_walk_of_child hc (mem_walk_self c)))
          (hdots d (mem_walk_of_child hd (mem_walk_self d))) hmine hothers
        -- no two children have the same name, or the endpoint above would be fatal
        have hindex : i = j := by
          have hnames := (List.nodup_append.mp hnodup).1
          have hlt : i < (root.children.map Endpoint.name).length := by
            rw [List.length_map]
            exact (List.getElem?_eq_some_iff.mp hchild).1
          refine (List.getElem?_inj hlt hnames).mp ?_
          rw [List.getElem?_map, List.getElem?_map, hchild, hj, Option.map_some, Option.map_some, hname]
        subst hindex
        obtain rfl : c = d := Option.some.inj (hchild.symm.trans hj)
        rw [ih (hchildren c hc) (fun f hf => hdots f (mem_walk_of_child hc hf)) hat hother]

/-- **A missing field is reported of an endpoint exactly if it is missing**, the endpoint is nested
    and visited, and names do not clash in it. -/
theorem missingParent_mem_diagnostics_iff (hplaced : root.Placed path)
    (hdots : ∀ d ∈ root.walk, '.' ∉ d.name.toList) (hat : root.at? way = some e) :
    Misfit.missingParent.diagnostic scope e.qualname e.line ∈ (root.compile scope true).diagnostics ↔
      way ≠ [] ∧ Visited true root way ∧ ¬ e.Clashing ∧ e.parentField = none := by
  obtain ⟨visits, hledger⟩ := exists_ledger scope true root
  rw [hledger.diagnostics, List.mem_flatMap]
  constructor
  · rintro ⟨v, hv, hreported⟩
    have hvisited := (hledger.covers v.path).mp (List.mem_map_of_mem hv)
    have hfound := hledger.found v hv
    have hfair := hledger.fair v hv
    -- of all that is reported only orphans have this message
    cases hfair with
    | sound _ each =>
      obtain ⟨fate, hfate, heq⟩ := List.mem_filterMap.mp hreported
      obtain ⟨cap, -, hdeserved⟩ := exists_left_of_forall₂ each hfate
      cases fate with
      | bound op => cases heq
      | refused x => exact absurd (Option.some.inj heq) hdeserved.ne_missingParent
    | clashing _ _ _ =>
      rw [Visit.errors, Visit.refusals, List.filterMap_nil, List.append_nil] at hreported
      obtain ⟨name, -, heq⟩ := List.mem_map.mp hreported
      exact absurd (congrArg Diagnostic.message heq)
        (Misfit.duplicateName_message_ne_missingParent name)
    | orphan nested distinct noParent =>
      rw [Visit.errors, Visit.refusals, List.filterMap_nil, List.append_nil,
        List.mem_singleton] at hreported
      have hsame := Scope.locate_inj (congrArg Diagnostic.location hreported)
      obtain rfl := hvisited.eq_of_qualname hplaced hdots hfound hat hsame.symm
      obtain rfl := Option.some.inj (hfound.symm.trans hat)
      exact ⟨by simpa using nested, hvisited, distinct, noParent⟩
  · rintro ⟨hne, hvisited, hdistinct, hnone⟩
    obtain ⟨v, hv, hway⟩ := List.mem_map.mp ((hledger.covers way).mpr hvisited)
    refine ⟨v, hv, ?_⟩
    have hfound := hledger.found v hv
    rw [hway, hat] at hfound
    obtain rfl := Option.some.inj hfound
    have hfair := hledger.fair v hv
    have hnested : (true && v.path.isEmpty) = false := by simp [hway, hne]
    rw [hnested] at hfair
    cases hfair with
    | sound sound _ => exact absurd (.inr ⟨rfl, hnone⟩) sound
    | clashing clashing _ _ => exact absurd clashing hdistinct
    | orphan _ _ _ => exact List.mem_append_left _ (List.mem_singleton.mpr rfl)

/-- What becomes of the capabilities of a visited endpoint that is not fatal: each is bound to an
    operation of the compiled tree, or reported. -/
theorem exists_fates_of_visited (hvisited : Visited true root way) (hat : root.at? way = some e)
    (hsound : ¬ e.Fatal way.isEmpty) :
    ∃ fates, List.Forall₂ (Deserved scope e) e.capabilities fates ∧
      (∀ op, .bound op ∈ fates →
        op ∈ (root.compile scope true).value.toList.flatMap ClientUnit.allOperations) ∧
      ∀ x, .refused x ∈ fates → x ∈ (root.compile scope true).diagnostics := by
  obtain ⟨visits, hledger⟩ := exists_ledger scope true root
  obtain ⟨v, hv, hway⟩ := List.mem_map.mp ((hledger.covers way).mpr hvisited)
  have hfound := hledger.found v hv
  rw [hway, hat] at hfound
  obtain rfl := Option.some.inj hfound
  have hfair := hledger.fair v hv
  rw [hway, Bool.true_and] at hfair
  rw [hledger.operations, hledger.diagnostics]
  cases hfair with
  | @sound _ _ fates _ each =>
    refine ⟨fates, each, fun op hop => ?_, fun x hx => ?_⟩
    · exact List.mem_flatMap.mpr ⟨_, hv, List.mem_filterMap.mpr ⟨_, hop, rfl⟩⟩
    · exact List.mem_flatMap.mpr ⟨_, hv, List.mem_append_right _ (List.mem_filterMap.mpr ⟨_, hx, rfl⟩)⟩
  | clashing clashing _ _ => exact absurd (.inl clashing) hsound
  | orphan nested _ noParent => exact absurd (.inr ⟨nested, noParent⟩) hsound

end Endpoint

/-! ## Main result -/

/-- The node is that of a class with this name, line and body: it has a field for each declaration
    in the body that is left, in order, and refers to the endpoint around by the first of them
    whose value is a call of `parent`. -/
structure Endpoint.IsNodeOf (scope : Scope) (qualname : String) (line : Nat) (body : List Statement)
    (e : Endpoint) : Prop where
  qualname : e.qualname = qualname
  line : e.line = line
  fields : e.fields = (fieldDeclarations scope body).map (Declaration.field scope)
  parentField : e.parentField
    = ((fieldDeclarations scope body).find? (Declaration.isParent scope)).map (Declaration.field scope)

theorem Endpoint.ReadFrom.isNodeOf {scope : Scope} {path name : String} {bases decorators : List Expr}
    {body : List Statement} {line : Nat} {e : Endpoint}
    (h : Endpoint.ReadFrom scope path (.classDef name bases decorators body line) e)
    (hbody : ∀ st ∈ body, st.Annotated) : e.IsNodeOf scope (path ++ name) line body := by
  cases h with
  | intro _ _ =>
    have hfields := @Members.read_fields scope (path ++ name ++ ".") body hbody
    refine ⟨rfl, rfl, hfields, ?_⟩
    unfold Endpoint.parentField
    rw [hfields, List.find?_map]
    rfl

/-- A node has no field for the endpoint around it if no declaration that is left calls `parent`. -/
theorem Endpoint.IsNodeOf.parentField_eq_none_iff {scope : Scope} {qualname : String} {line : Nat}
    {body : List Statement} {e : Endpoint} (h : e.IsNodeOf scope qualname line body) :
    e.parentField = none ↔ ∀ a ∈ fieldDeclarations scope body, a.isParent scope = false := by
  rw [h.parentField, Option.map_eq_none_iff, List.find?_eq_none]
  simp only [Bool.not_eq_true]

/-- **A field for the endpoint around is seen unless its annotation is taken for that of a class
    variable.** Whatever source is read, and whatever endpoint class with a literal path stands in
    it, at the top or nested in others: the class is read as a node of one of the roots, whose
    fields are the declarations in the body that are left. A missing field is reported of it when
    the root is compiled exactly if none of them calls `parent`, given that it is nested and
    visited and names do not clash in it. So if one does, each of its capabilities is bound or
    reported for a reason of its own. -/
theorem Descriptor.parent_field_seen {module source place name : String} {isPackage : Bool}
    {statements body : List Statement} {bases decorators : List Expr} {line : Nat} {decorator : Expr}
    {codes : List Nat} {d : Descriptor} {ds : List Diagnostic}
    (hparsed : parseModule source.toList = .ok statements)
    (hread : Descriptor.IsReadFrom module isPackage source d ds)
    (hnested : Statement.NestedIn d.scope place (.classDef name bases decorators body line) ""
      statements)
    (hdecorated : endpointDecorator d.scope decorators = some decorator)
    (hknown : segmentCodes decorator = some codes) :
    ∃ root ∈ d.roots, ∃ way e, root.at? way = some e ∧
      e.IsNodeOf d.scope (place ++ name) line body ∧
      (Misfit.missingParent.diagnostic d.scope e.qualname e.line
          ∈ (root.compile d.scope true).diagnostics ↔
        way ≠ [] ∧ root.Visited true way ∧ ¬ e.Clashing ∧
          ∀ a ∈ fieldDeclarations d.scope body, a.isParent d.scope = false) ∧
      ((∃ a ∈ fieldDeclarations d.scope body, a.isParent d.scope = true) →
        root.Visited true way → ¬ e.Clashing →
        ∃ fates, List.Forall₂ (Deserved d.scope e) e.capabilities fates ∧
          (∀ op, .bound op ∈ fates →
            op ∈ (root.compile d.scope true).value.toList.flatMap ClientUnit.allOperations) ∧
          ∀ x, .refused x ∈ fates → x ∈ (root.compile d.scope true).diagnostics) := by
  obtain rfl : d = (Descriptor.ofStatements module isPackage statements).value :=
    Option.some.inj (Descriptor.value_of_ofSource hparsed hread)
  have hbody : ∀ st ∈ body, st.Annotated := by
    refine Grammar.allAnnotated_iff.mp ?_
    exact hnested.annotated fun st hst => (parseModule_read hparsed st hst).annotated
  obtain ⟨e, he⟩ : ∃ e, Endpoint.ReadFrom _ place (.classDef name bases decorators body line) e :=
    ⟨_, .intro hdecorated hknown⟩
  -- the class stands below the class of a root, and so does its node
  obtain ⟨st, hst, root, hroot, way, hat⟩ := hnested.exists_at he
  have hvalue := Endpoint.read_eq_some_iff.mpr hroot
  have hmem : root ∈ (Descriptor.ofStatements module isPackage statements).value.roots := by
    show root ∈ (readRoots _ statements).value
    rw [readRoots_value]
    exact List.mem_filterMap.mpr ⟨st, hst, hvalue⟩
  have hnamed := parseModule_named hparsed
  have hplaced := (readRoots_spec hnamed hmem).1
  have hdots : ∀ f ∈ root.walk, '.' ∉ f.name.toList := fun f hf =>
    Endpoint.dot_not_mem_name hvalue (hnamed st hst) hf
  have hnode := he.isNodeOf hbody
  refine ⟨root, hmem, way, e, hat, hnode, ?_, ?_⟩
  · rw [Endpoint.missingParent_mem_diagnostics_iff hplaced hdots hat, hnode.parentField_eq_none_iff]
  · rintro ⟨a, ha, hparent⟩ hvisited hdistinct
    refine Endpoint.exists_fates_of_visited hvisited hat ?_
    intro hfatal
    -- with a parent field and distinct names the node is not fatal
    rcases hfatal with hclashing | ⟨-, hnone⟩
    · exact hdistinct hclashing
    · have hnot := hnode.parentField_eq_none_iff.mp hnone a ha
      rw [hparent] at hnot
      cases hnot

/-! ## A field that is taken for a class variable -/

namespace Sample.Overlooked

/-- A short source. The outermost class has a name that goes on after `ClassVar`. The first class in
    it names it in the annotation of its field, and the second one spells the annotation as a
    text. -/
def source : String :=
  "import shapi.api.resources as s\n@s.resource('')\nclass ClassVars:\n"
    ++ " @s.resource('b')\n class B:\n  p: ClassVars = s.parent()\n"
    ++ " @s.resource('c')\n class C:\n  n: ClassVar[int] = 0\n  p: 'ClassVars' = s.parent()\n"

/-- The decorator of an endpoint with this path. -/
def decorator (path : List Nat) : Expr :=
  .apply (.call 1 []) [.apply (.attribute "resource") [.name "s"], .literal (.text path false)]

/-- The value of both fields. -/
def value : Expr :=
  .apply (.call 0 []) [.apply (.attribute "parent") [.name "s"]]

/-- The field of the first nested class. -/
def named : Declaration :=
  { name := "p", typeExpr := .name "ClassVars", value := some value }

/-- The field of the second nested class. -/
def quoted : Declaration :=
  { name := "p", typeExpr := .literal (.text [67, 108, 97, 115, 115, 86, 97, 114, 115] false)
    value := some value }

/-- The body of the first nested class. -/
def namedBody : List Statement :=
  [.annotate (.name "p") named.typeExpr (some value)]

/-- The body of the second nested class. -/
def quotedBody : List Statement :=
  [.annotate (.name "n") (.apply .subscript [.name "ClassVar", .name "int"])
      (some (.literal (.integer 0))),
    .annotate (.name "p") quoted.typeExpr (some value)]

/-- The body of the outermost class. -/
def members : List Statement :=
  [.classDef "B" [] [decorator [98]] namedBody 5, .classDef "C" [] [decorator [99]] quotedBody 8]

/-- The statements of the source. -/
def body : List Statement :=
  [.importModules [{ name := "shapi.api.resources", newName := some "s" }],
    .classDef "ClassVars" [] [decorator []] members 3]

/-- The names of the module. -/
def scope : Scope :=
  { module := "app.api"
    bindings := [
      ("s", { name := "s", kind := .importedModule, originModule := "shapi.api.resources" }),
      ("ClassVars", { name := "ClassVars", kind := .localClass, originModule := "app.api"
                      originName := some "ClassVars" })] }

/-- The node of the first nested class. -/
def orphan : Endpoint :=
  { name := "B", qualname := "ClassVars.B", segment := "b", line := 5 }

/-- The node of the second nested class. -/
def child : Endpoint :=
  { name := "C", qualname := "ClassVars.C", segment := "c", line := 8
    fields := [{ name := "p", typeText := "'ClassVars'", isParent := true }] }

/-- The root as it is read. -/
def root : Endpoint :=
  { name := "ClassVars", qualname := "ClassVars", segment := "", children := [orphan, child]
    line := 3 }

/-- The module as it is read. -/
def descriptor : Descriptor :=
  { module := "app.api", scope, roots := [root] }

theorem parseModule_source : parseModule source.toList = .ok body := by
  have hchars : source.toList = _ :=
    Text.toList_append_eq (Text.toList_append_eq String.toList_ofList String.toList_ofList)
      String.toList_ofList
  exact (congrArg parseModule hchars).trans (by decide +kernel)

theorem ofStatements_body : Scope.ofStatements "app.api" false body = scope := by
  rfl

theorem fieldDeclarations_quotedBody : fieldDeclarations scope quotedBody = [quoted] := by
  cbv

theorem readRoots_body : (readRoots scope body).value = [root] := by
  cbv

theorem moduleFault_body : moduleFault? scope body = none := by
  cbv

theorem isReadFrom : ∃ ds, Descriptor.IsReadFrom "app.api" false source descriptor ds := by
  have hnull : source.toList.contains '\x00' = false := by
    have hchars : source.toList = _ :=
        Text.toList_append_eq (Text.toList_append_eq String.toList_ofList String.toList_ofList)
          String.toList_ofList
    exact (congrArg (List.contains · '\x00') hchars).trans (by cbv)
  unfold Descriptor.IsReadFrom Descriptor.ofSource
  rw [hnull, parseModule_source]
  simp only [Bool.false_eq_true, if_false, ofStatements_body, moduleFault_body]
  refine ⟨_, congrArg Except.ok (Report.ext ?_ rfl)⟩
  simp only [Descriptor.ofStatements, Report.value_bind, Report.value_pure, ofStatements_body,
    readRoots_body]
  rfl

theorem nestedIn {st : Statement} (h : st ∈ members) :
    Statement.NestedIn scope "ClassVars." st "" body := by
  have hdecorated : endpointDecorator scope [decorator []] = some (decorator []) := rfl
  have hplace : "" ++ "ClassVars" ++ "." = "ClassVars." := by decide
  exact .inside (.tail _ (.head _)) hdecorated rfl (hplace ▸ .here h)

end Sample.Overlooked

open Sample.Overlooked in
/-- The field of the second nested class is seen: no missing field is reported of it. -/
theorem Descriptor.parent_field_seen_sample :
    parseModule source.toList = .ok body ∧
      Statement.NestedIn descriptor.scope "ClassVars."
        (.classDef "C" [] [decorator [99]] quotedBody 8) "" body ∧
      endpointDecorator descriptor.scope [decorator [99]] = some (decorator [99]) ∧
      segmentCodes (decorator [99]) = some [99] ∧
      ∃ ds, Descriptor.IsReadFrom "app.api" false source descriptor ds ∧
        ∃ root ∈ descriptor.roots, ∃ way e, root.at? way = some e ∧
          e.IsNodeOf descriptor.scope "ClassVars.C" 8 quotedBody ∧
          Misfit.missingParent.diagnostic descriptor.scope e.qualname e.line
            ∉ (root.compile descriptor.scope true).diagnostics := by
  have hnested : Statement.NestedIn descriptor.scope "ClassVars."
      (.classDef "C" [] [decorator [99]] quotedBody 8) "" body := nestedIn (.tail _ (.head _))
  obtain ⟨ds, hread⟩ := isReadFrom
  obtain ⟨root, hroot, way, e, hat, hnode, hreport, -⟩ :=
    Descriptor.parent_field_seen (d := descriptor) parseModule_source hread hnested rfl rfl
  refine ⟨parseModule_source, hnested, rfl, rfl, ds, hread, root, hroot, way, e, hat, hnode, ?_⟩
  intro hmem
  obtain ⟨-, -, -, hnone⟩ := hreport.mp hmem
  have hquoted : quoted ∈ fieldDeclarations descriptor.scope quotedBody :=
    fieldDeclarations_quotedBody ▸ List.mem_cons_self
  exact Bool.noConfusion (hnone quoted hquoted)

open Sample.Overlooked in
/-- The first nested class declares a field for the class around it. The name in the annotation is
    that of a class of the module, and no form for class variables, but goes on after `ClassVar`.
    So the node has no fields, and a missing field is reported of it. -/
theorem Sample.Overlooked.parent_field_overlooked :
    (∃ ds, Descriptor.IsReadFrom "app.api" false source descriptor ds) ∧
      Statement.NestedIn scope "ClassVars." (.classDef "B" [] [decorator [98]] namedBody 5) "" body ∧
      namedBody.filterMap Grammar.Statement.declaration? = [named] ∧ named.isParent scope = true ∧
      scope.denoted named.typeExpr = some "app.api.ClassVars" ∧
      "app.api.ClassVars" ∉ classVariableForms ∧ named.isClassVariable scope = true ∧
      root.at? [0] = some orphan ∧ orphan.fields = [] ∧ orphan.parentField = none ∧
      Misfit.missingParent.diagnostic scope "ClassVars.B" 5
        ∈ (root.compile scope true).diagnostics := by
  refine ⟨isReadFrom, nestedIn (.head _), rfl, rfl, rfl, by decide, by decide +kernel, rfl,
    rfl, rfl, ?_⟩
  have hreport : (root.compile scope true).diagnostics
      = [Misfit.missingParent.diagnostic scope "ClassVars.B" 5] := by
    rfl
  rw [hreport]
  exact List.mem_cons_self

end Waymark

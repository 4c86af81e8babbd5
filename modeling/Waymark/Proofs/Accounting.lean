import Waymark.Proofs.Compilation
import Waymark.Proofs.ItemByItem

/-! # Nothing is dropped silently

    Compilation visits an endpoint when no endpoint around it is fatal. For every visit
    it can be said what was reported and why, and these accounts, put one after the
    other, are all that compilation hands back.

    * A capability of a visited endpoint that is not fatal has one of two fates: it is
      bound to an operation, or it leaves an error at its own place (`Deserved`).
    * A visited endpoint that is fatal leaves an error for each clashing name, or one
      for its missing field if no names clash, and none of its capabilities counts.
    * Dropping a unit drops no operation, since only units without any are dropped
      (`allOperations_eq_nil`).

    The main result is `compile_accounts_for_all`.
-/

namespace Waymark

/-! ## Visits -/

/-- What becomes of a capability. -/
inductive Fate where
  /-- It is one of the operations of a unit. -/
  | bound (op : Operation)
  /-- It is reported. -/
  | refused (error : Diagnostic)

namespace Fate

/-- The operation that a capability became, if it became one. -/
def operation? : Fate → Option Operation
  | bound op => some op
  | refused _ => none

/-- The error that a capability left, if it left one. -/
def error? : Fate → Option Diagnostic
  | bound _ => none
  | refused error => some error

end Fate

/-- The account of one visited endpoint: where it stands, what is reported about the
    endpoint itself, and the fates of its capabilities. -/
structure Visit where
  path : List Nat
  endpoint : Endpoint
  complaints : List Diagnostic := []
  fates : List Fate := []

namespace Visit

/-- The operations that capabilities of the endpoint became. -/
def operations (v : Visit) : List Operation :=
  v.fates.filterMap Fate.operation?

/-- The errors that capabilities of the endpoint left. -/
def refusals (v : Visit) : List Diagnostic :=
  v.fates.filterMap Fate.error?

/-- All errors of the visit. -/
def errors (v : Visit) : List Diagnostic :=
  v.complaints ++ v.refusals

/-- The same visit, seen from the endpoint around. -/
def below (i : Nat) (v : Visit) : Visit :=
  { v with path := i :: v.path }

@[simp] theorem below_path (i : Nat) (v : Visit) : (v.below i).path = i :: v.path := rfl

@[simp] theorem below_endpoint (i : Nat) (v : Visit) : (v.below i).endpoint = v.endpoint := rfl

@[simp] theorem below_operations (i : Nat) (v : Visit) :
    (v.below i).operations = v.operations := rfl

@[simp] theorem below_errors (i : Nat) (v : Visit) : (v.below i).errors = v.errors := rfl

end Visit

/-- A fate that the capability may have. It is bound to what it resolves to, or there is
    an error at its place: it does not resolve, or its verb is taken. -/
inductive Deserved (scope : Scope) (e : Endpoint) (cap : Capability) : Fate → Prop where
  | bound {op : Operation} (resolved : cap.resolve scope e = .ok op) :
      Deserved scope e cap (.bound op)
  | refused {d : Diagnostic} (severity : d.severity = .error)
      (location : d.location = scope.locate cap.qualname)
      (reason : (∃ r, cap.resolve scope e = .error r ∧ d = cap.rejected scope r) ∨
        ∃ op first, cap.resolve scope e = .ok op ∧
          d = (Misfit.repeatedVerb e.qualname op.verb first).diagnostic scope cap.qualname cap.line) :
      Deserved scope e cap (.refused d)

/-- The account of a visit is the right one. -/
inductive Visit.Fair (scope : Scope) (isRoot : Bool) : Visit → Prop where
  /-- The endpoint is not fatal: each capability has its fate. -/
  | sound {path : List Nat} {e : Endpoint} {fates : List Fate} (sound : ¬ e.Fatal isRoot)
      (each : List.Forall₂ (Deserved scope e) e.capabilities fates) :
      Fair scope isRoot { path, endpoint := e, fates }
  /-- Names clash: there is one error for each of these names. -/
  | clashing {path : List Nat} {e : Endpoint} {names : List String} (clashing : e.Clashing)
      (nodup : names.Nodup) (exact : ∀ name, name ∈ names ↔ 1 < e.nestedNames.count name) :
      Fair scope isRoot
        { path, endpoint := e
          complaints := names.map fun name =>
            (Misfit.duplicateName name).diagnostic scope e.qualname e.line }
  /-- No names clash, but the endpoint does not refer to the one around it: there is one
      error. -/
  | orphan {path : List Nat} {e : Endpoint} (nested : isRoot = false) (distinct : ¬ e.Clashing)
      (noParent : e.parentField = none) :
      Fair scope isRoot
        { path, endpoint := e
          complaints := [Misfit.missingParent.diagnostic scope e.qualname e.line] }

theorem Visit.Fair.below {scope : Scope} {isRoot : Bool} {v : Visit} (h : v.Fair scope isRoot)
    (i : Nat) : (v.below i).Fair scope isRoot := by
  cases h with
  | sound sound each => exact .sound sound each
  | clashing clashing nodup exact => exact .clashing clashing nodup exact
  | orphan nested distinct noParent => exact .orphan nested distinct noParent

/-- All that is reported on a visit is an error. -/
theorem Visit.Fair.isError {scope : Scope} {isRoot : Bool} {v : Visit} (h : v.Fair scope isRoot)
    {d : Diagnostic} (hd : d ∈ v.errors) : d.isError = true := by
  -- each way in which a visit is fair names the errors that it may have
  cases h with
  | sound _ each =>
    obtain ⟨fate, hfate, hfound⟩ := List.mem_filterMap.mp hd
    obtain ⟨cap, -, hdeserved⟩ := exists_left_of_forall₂ each hfate
    cases hdeserved with
    | bound _ => cases hfound
    | refused severity _ _ =>
      cases hfound
      show (d.severity == .error) = true
      rw [severity]
      rfl
  | clashing _ _ _ =>
    simp only [Visit.errors, Visit.refusals, List.filterMap_nil, List.append_nil] at hd
    obtain ⟨name, -, rfl⟩ := List.mem_map.mp hd
    rfl
  | orphan _ _ _ =>
    simp only [Visit.errors, Visit.refusals, List.filterMap_nil, List.append_nil] at hd
    obtain rfl := List.mem_singleton.mp hd
    rfl

/-- Every capability has one fate, so operations and errors add up. -/
theorem length_operations_add_refusals (v : Visit) :
    v.operations.length + v.refusals.length = v.fates.length := by
  unfold Visit.operations Visit.refusals
  induction v.fates with
  | nil => rfl
  | cons fate rest ih =>
    cases fate with
    | bound op =>
      simp only [List.filterMap_cons, Fate.operation?, Fate.error?, List.length_cons]
      omega
    | refused error =>
      simp only [List.filterMap_cons, Fate.operation?, Fate.error?, List.length_cons]
      omega

/-- On a visit, operations and errors of capabilities are as many as capabilities, except
    that those of a fatal endpoint do not count. -/
theorem Visit.Fair.length_eq {scope : Scope} {isRoot : Bool} {v : Visit} (h : v.Fair scope isRoot) :
    v.operations.length + v.refusals.length
      = if v.endpoint.Fatal isRoot then 0 else v.endpoint.capabilities.length := by
  rw [length_operations_add_refusals]
  cases h with
  | sound sound each => rw [if_neg sound, each.length_eq]
  | clashing clashing _ _ => rw [if_pos (.inl clashing)]; rfl
  | orphan nested _ noParent => rw [if_pos (.inr ⟨nested, noParent⟩)]; rfl

namespace Endpoint

variable {scope : Scope}

/-! ## One endpoint -/

/-- Going through the capabilities of an endpoint gives each of them a fate. -/
theorem exists_fates (scope : Scope) (e : Endpoint) (taken : List (Verb × String)) (caps : List Capability) :
    ∃ fates, List.Forall₂ (Deserved scope e) caps fates ∧
      (e.operations scope taken caps).value = fates.filterMap Fate.operation? ∧
      (e.operations scope taken caps).diagnostics = fates.filterMap Fate.error? := by
  -- along the capabilities; the verbs that are taken grow with each one that is bound
  induction caps generalizing taken with
  | nil => exact ⟨[], .nil, rfl, rfl⟩
  | cons cap rest ih =>
    unfold operations
    simp only [Report.value_bind, Report.diagnostics_bind, Capability.resolveReport_value]
    cases hresolve : cap.resolve scope e with
    | error r =>
      obtain ⟨fates, heach, hvalue, hdiagnostics⟩ := ih taken
      refine ⟨.refused (cap.rejected scope r) :: fates, ?_, hvalue, ?_⟩
      · exact .cons (.refused rfl rfl (.inl ⟨r, hresolve, rfl⟩)) heach
      · rw [Capability.resolveReport_diagnostics_of_error hresolve]
        exact congrArg _ hdiagnostics
    | ok op =>
      rw [Capability.resolveReport_diagnostics_of_ok hresolve]
      simp only [Except.toOption]
      -- the operation is refused if an earlier one has its verb
      cases hlookup : taken.lookup op.verb with
      | some first =>
        obtain ⟨fates, heach, hvalue, hdiagnostics⟩ := ih taken
        refine ⟨.refused ((Misfit.repeatedVerb e.qualname op.verb first).diagnostic scope
          cap.qualname cap.line) :: fates, ?_, hvalue, ?_⟩
        · exact .cons (.refused rfl rfl (.inr ⟨op, first, hresolve, rfl⟩)) heach
        · show [] ++ (_ :: _) = _
          rw [List.nil_append]
          exact congrArg _ hdiagnostics
      | none =>
        obtain ⟨fates, heach, hvalue, hdiagnostics⟩ := ih ((op.verb, cap.qualname) :: taken)
        refine ⟨.bound op :: fates, .cons (.bound hresolve) heach, ?_, ?_⟩
        · exact congrArg _ hvalue
        · show _ ++ [] = _
          rw [List.append_nil]
          exact hdiagnostics

/-- A fatal endpoint leaves its misfits and nothing else. -/
theorem fair_of_fatal {e : Endpoint} {isRoot : Bool} (h : e.Fatal isRoot) :
    Visit.Fair scope isRoot
      { path := [], endpoint := e
        complaints := (e.misfits isRoot).map (Misfit.diagnostic scope e.qualname e.line) } := by
  unfold misfits
  by_cases hclash : e.clashes = []
  · have hdistinct : ¬ e.Clashing := fun hc => clashes_ne_nil_iff.mpr hc hclash
    rcases h with hclashing | ⟨rfl, hparent⟩
    · exact absurd hclashing hdistinct
    · simp only [hclash, hparent, ne_eq, not_true_eq_false, if_false, Bool.not_false,
        Option.isNone_none, Bool.and_self, if_true, List.map_cons, List.map_nil]
      exact .orphan rfl hdistinct hparent
  · rw [if_pos hclash, List.map_map]
    exact .clashing (clashes_ne_nil_iff.mp hclash) (Text.sortDistinct_nodup _)
      fun _ => mem_clashes_iff

/-! ## Visited positions -/

/-- A position is visited if there is an endpoint and no endpoint around it is fatal. -/
inductive Visited : Bool → Endpoint → List Nat → Prop where
  /-- Compilation begins here. -/
  | here {isRoot : Bool} {e : Endpoint} : Visited isRoot e []
  /-- It goes on in the children of an endpoint that is not fatal. -/
  | deeper {isRoot : Bool} {e c : Endpoint} {i : Nat} {path : List Nat} (sound : ¬ e.Fatal isRoot)
      (child : e.children[i]? = some c) (visited : Visited false c path) :
      Visited isRoot e (i :: path)

/-! ## Whole trees -/

/-- A unit that offers nothing holds no operations, and neither does anything below it. -/
theorem allOperations_eq_nil {u : ClientUnit} (h : u.offersAnything = false) :
    u.allOperations = [] := by
  simp only [ClientUnit.offersAnything, Bool.or_eq_false_iff, Bool.not_eq_false',
    List.isEmpty_iff] at h
  rw [ClientUnit.allOperations_eq, h.1, h.2]
  rfl

/-- No operation is lost with the units that are left out. -/
theorem compileNested_allOperations (es : List Endpoint) :
    (compileNested scope es).value.flatMap ClientUnit.allOperations
      = es.flatMap fun e =>
          (compile scope false e).value.toList.flatMap ClientUnit.allOperations := by
  rw [compileNested_value]
  induction es with
  | nil => rfl
  | cons e rest ih =>
    rw [List.flatMap_cons, ← ih]
    cases hvalue : (compile scope false e).value with
    | none =>
      have hnone : nestedUnit scope e = none := by
        simp [nestedUnit, hvalue]
      rw [List.filterMap_cons_none hnone]
      rfl
    | some u =>
      -- a unit without operations is left out, and nothing is lost with it
      cases hoffers : u.offersAnything with
      | true =>
        rw [List.filterMap_cons_some (nestedUnit_eq_some.mpr ⟨hvalue, hoffers⟩),
          List.flatMap_cons, Option.toList_some, List.flatMap_singleton]
      | false =>
        have hdropped : nestedUnit scope e = none := by
          simp [nestedUnit, hvalue, hoffers]
        rw [List.filterMap_cons_none hdropped, Option.toList_some,
          List.flatMap_singleton, allOperations_eq_nil hoffers, List.nil_append]

/-- The visits account for all that an endpoint compiles to, each position once. -/
structure Ledger (scope : Scope) (isRoot : Bool) (e : Endpoint) (visits : List Visit) : Prop where
  distinct : (visits.map Visit.path).Nodup
  covers : ∀ path, path ∈ visits.map Visit.path ↔ Visited isRoot e path
  found : ∀ v ∈ visits, e.at? v.path = some v.endpoint
  fair : ∀ v ∈ visits, v.Fair scope (isRoot && v.path.isEmpty)
  operations : (compile scope isRoot e).value.toList.flatMap ClientUnit.allOperations
    = visits.flatMap Visit.operations
  diagnostics : (compile scope isRoot e).diagnostics = visits.flatMap Visit.errors

/-- The ledger of a fatal endpoint has one visit. -/
theorem ledger_of_fatal {e : Endpoint} {isRoot : Bool} (h : e.Fatal isRoot) :
    Ledger scope isRoot e
      [{ path := [], endpoint := e
         complaints := (e.misfits isRoot).map (Misfit.diagnostic scope e.qualname e.line) }] where
  distinct := List.nodup_singleton _
  -- nothing below a fatal endpoint is visited
  covers := by
    intro path
    rw [List.map_singleton, List.mem_singleton]
    constructor
    · rintro rfl
      exact .here
    · intro hvisited
      cases hvisited with
      | here => rfl
      | deeper sound _ _ => exact absurd h sound
  found := by
    intro v hv
    obtain rfl := List.mem_singleton.mp hv
    rfl
  fair := by
    intro v hv
    obtain rfl := List.mem_singleton.mp hv
    simpa using fair_of_fatal h
  operations := by
    rw [(compile_of_fatal h).1]
    rfl
  diagnostics := by
    rw [(compile_of_fatal h).2]
    simp [Visit.errors, Visit.refusals]

/-- The visits below an endpoint, given those of each child. -/
def visitsBelow (e : Endpoint) (visitsOf : Endpoint → List Visit) : List Visit :=
  e.children.zipIdx.flatMap fun child => (visitsOf child.1).map (Visit.below child.2)

theorem mem_visitsBelow_iff {e : Endpoint} {visitsOf : Endpoint → List Visit} {v : Visit} :
    v ∈ e.visitsBelow visitsOf ↔
      ∃ i c, e.children[i]? = some c ∧ ∃ w ∈ visitsOf c, v = w.below i := by
  unfold visitsBelow
  rw [List.mem_flatMap]
  constructor
  · rintro ⟨⟨c, i⟩, hchild, hv⟩
    obtain ⟨w, hw, rfl⟩ := List.mem_map.mp hv
    exact ⟨i, c, List.mem_zipIdx_iff_getElem?.mp hchild, w, hw, rfl⟩
  · rintro ⟨i, c, hchild, w, hw, rfl⟩
    exact ⟨(c, i), List.mem_zipIdx_iff_getElem?.mpr hchild, List.mem_map_of_mem hw⟩

/-- What is listed for each visit is listed child by child. -/
theorem flatMap_visitsBelow {α : Type} (e : Endpoint) (visitsOf : Endpoint → List Visit)
    {f : Visit → List α} (hf : ∀ i v, f (v.below i) = f v) :
    (e.visitsBelow visitsOf).flatMap f = e.children.flatMap fun c => (visitsOf c).flatMap f := by
  unfold visitsBelow
  rw [List.flatMap_assoc]
  have hchild : ∀ child : Endpoint × Nat, ((visitsOf child.1).map (Visit.below child.2)).flatMap f
      = (visitsOf child.1).flatMap f := by
    intro child
    rw [List.flatMap_map]
    exact congrArg (fun g => (visitsOf child.1).flatMap g) (funext (hf child.2))
  simp only [hchild]
  rw [← List.flatMap_map Prod.fst (fun c => (visitsOf c).flatMap f), List.zipIdx_map_fst]

/-- Different children have different positions, so no position below is listed twice. -/
theorem visitsBelow_nodup {e : Endpoint} {visitsOf : Endpoint → List Visit}
    (h : ∀ c ∈ e.children, ((visitsOf c).map Visit.path).Nodup) :
    ((e.visitsBelow visitsOf).map Visit.path).Nodup := by
  unfold visitsBelow
  rw [List.map_flatMap, List.nodup_flatMap]
  constructor
  · rintro ⟨c, i⟩ hchild
    have hc := List.mem_of_getElem? (List.mem_zipIdx_iff_getElem?.mp hchild)
    show (((visitsOf c).map (Visit.below i)).map Visit.path).Nodup
    have hpaths : ((visitsOf c).map (Visit.below i)).map Visit.path
        = ((visitsOf c).map Visit.path).map (List.cons i) := by
      rw [List.map_map, List.map_map]
      rfl
    rw [hpaths]
    exact (h c hc).map List.cons_injective
  -- positions below different children differ in their first step
  · have hindices : (e.children.zipIdx.map Prod.snd).Nodup := by
      rw [List.zipIdx_map_snd]
      exact List.nodup_range'
    refine (List.pairwise_map.mp hindices).imp ?_
    intro a b hne path ha hb
    obtain ⟨v, hv, rfl⟩ := List.mem_map.mp ha
    obtain ⟨v, -, rfl⟩ := List.mem_map.mp hv
    obtain ⟨w, hw, hpath⟩ := List.mem_map.mp hb
    obtain ⟨w, -, rfl⟩ := List.mem_map.mp hw
    exact hne (List.cons.inj hpath).1.symm

/-- The visits of an endpoint that is not fatal are the one of itself and those below. -/
theorem ledger_of_not_fatal {e : Endpoint} {isRoot : Bool} (h : ¬ e.Fatal isRoot)
    {visitsOf : Endpoint → List Visit}
    (hchild : ∀ c ∈ e.children, Ledger scope false c (visitsOf c)) :
    ∃ fates, Ledger scope isRoot e
      ({ path := [], endpoint := e, fates } :: e.visitsBelow visitsOf) := by
  obtain ⟨fates, heach, hvalue, hdiagnostics⟩ := exists_fates scope e [] e.capabilities
  refine ⟨fates, ?_, ?_, ?_, ?_, ?_, ?_⟩
  · rw [List.map_cons, List.nodup_cons]
    constructor
    · -- the position of the endpoint itself is empty, all below are not
      intro hmem
      obtain ⟨v, hv, hpath⟩ := List.mem_map.mp hmem
      obtain ⟨i, c, -, w, -, rfl⟩ := mem_visitsBelow_iff.mp hv
      cases hpath
    · exact visitsBelow_nodup fun c hc => (hchild c hc).distinct
  · intro path
    rw [List.map_cons, List.mem_cons]
    constructor
    -- what is listed is visited, here or below a child
    · rintro (rfl | hmem)
      · exact .here
      · obtain ⟨v, hv, rfl⟩ := List.mem_map.mp hmem
        obtain ⟨i, c, hi, w, hw, rfl⟩ := mem_visitsBelow_iff.mp hv
        have hc := hchild c (List.mem_of_getElem? hi)
        exact .deeper h hi ((hc.covers w.path).mp (List.mem_map_of_mem hw))
    · intro hvisited
      cases hvisited with
      | here => exact .inl rfl
      | @deeper _ _ c i path _ child visited =>
        have hc := hchild c (List.mem_of_getElem? child)
        obtain ⟨w, hw, rfl⟩ := List.mem_map.mp ((hc.covers path).mpr visited)
        exact .inr (List.mem_map.mpr ⟨_, mem_visitsBelow_iff.mpr ⟨i, c, child, w, hw, rfl⟩, rfl⟩)
  · intro v hv
    rcases List.mem_cons.mp hv with rfl | hv
    · rfl
    · obtain ⟨i, c, hi, w, hw, rfl⟩ := mem_visitsBelow_iff.mp hv
      have hc := hchild c (List.mem_of_getElem? hi)
      exact at?_cons_eq_some.mpr ⟨c, hi, hc.found w hw⟩
  · intro v hv
    rcases List.mem_cons.mp hv with rfl | hv
    · simpa using Visit.Fair.sound h heach
    · obtain ⟨i, c, hi, w, hw, rfl⟩ := mem_visitsBelow_iff.mp hv
      have hc := (hchild c (List.mem_of_getElem? hi)).fair w hw
      simpa using hc.below i
  -- the operations are those of the endpoint, then those of its children in order
  · rw [(compile_of_not_fatal scope h).1, Option.toList_some, List.flatMap_singleton,
      ClientUnit.allOperations_eq, List.flatMap_cons, flatMap_visitsBelow _ _ (fun _ _ => rfl)]
    show firstOfEachVerb (e.accepted scope) ++ _ = _
    rw [← operations_nil_value, hvalue, compileNested_allOperations]
    congr 1
    exact List.flatMap_congr fun c hc => (hchild c hc).operations
  · rw [(compile_of_not_fatal scope h).2, hdiagnostics, List.flatMap_cons,
      flatMap_visitsBelow _ _ (fun _ _ => rfl)]
    congr 1
    exact List.flatMap_congr fun c hc => (hchild c hc).diagnostics

/-- Every endpoint has a ledger. -/
theorem exists_ledger (scope : Scope) (isRoot : Bool) (e : Endpoint) :
    ∃ visits, Ledger scope isRoot e visits := by
  induction e using tree_induction generalizing isRoot with
  | step e ih =>
    by_cases hfatal : e.Fatal isRoot
    · exact ⟨_, ledger_of_fatal hfatal⟩
    · choose! visitsOf hchild using fun c hc => ih c hc false
      obtain ⟨fates, hledger⟩ := ledger_of_not_fatal hfatal hchild
      exact ⟨_, hledger⟩

/-- The operations and the errors of capabilities on some visits are as many as the
    capabilities of those visited endpoints that are not fatal. -/
theorem length_operations_eq {isRoot : Bool} {visits : List Visit}
    (h : ∀ v ∈ visits, v.Fair scope (isRoot && v.path.isEmpty)) :
    (visits.flatMap Visit.operations).length + (visits.flatMap Visit.refusals).length
      = (visits.map fun v =>
          if v.endpoint.Fatal (isRoot && v.path.isEmpty) then 0
          else v.endpoint.capabilities.length).sum := by
  induction visits with
  | nil => rfl
  | cons v rest ih =>
    have hhead := (h v List.mem_cons_self).length_eq
    have htail := ih fun w hw => h w (List.mem_cons_of_mem _ hw)
    simp only [List.flatMap_cons, List.length_append, List.map_cons, List.sum_cons]
    omega

/-! ## Main result -/

/-- **Compilation accounts for all.** There is a list of visits, one for each visited
    position and no other, each with the right account of its endpoint. The operations of
    the compiled tree are those of the visits; what is reported is what had been reported
    before and then the errors of the visits. So if names do not clash in the root,
    operations and errors of capabilities are together as many as the capabilities of
    visited endpoints that are not fatal. -/
theorem compile_accounts_for_all (scope : Scope) (earlier : List Diagnostic) (root : Endpoint) :
    ∃ visits : List Visit,
      (visits.map Visit.path).Nodup ∧
      (∀ path, path ∈ visits.map Visit.path ↔ Visited true root path) ∧
      (∀ v ∈ visits, root.at? v.path = some v.endpoint ∧ v.Fair scope v.path.isEmpty ∧
        ∀ d ∈ v.errors, d.isError = true) ∧
      (root.compileAfter scope earlier).value.toList.flatMap ClientUnit.allOperations
        = visits.flatMap Visit.operations ∧
      (root.compileAfter scope earlier).diagnostics = earlier ++ visits.flatMap Visit.errors ∧
      (¬ root.Fatal true → ∃ u, (root.compileAfter scope earlier).value = some u ∧
        u.operationCount + (visits.flatMap Visit.refusals).length
          = (visits.map fun v =>
              if v.endpoint.Fatal v.path.isEmpty then 0
              else v.endpoint.capabilities.length).sum) := by
  obtain ⟨visits, hledger⟩ := exists_ledger scope true root
  -- each capability that is come to has an operation or a refusal
  have hcount := length_operations_eq hledger.fair
  simp only [Bool.true_and] at hcount
  refine ⟨visits, hledger.distinct, hledger.covers, ?_, hledger.operations, ?_, ?_⟩
  · intro v hv
    have hfair := hledger.fair v hv
    exact ⟨hledger.found v hv, by simpa using hfair, fun d hd => hfair.isError hd⟩
  · rw [compileAfter_diagnostics, hledger.diagnostics]
  · intro hsound
    obtain ⟨hvalue, -⟩ := compile_of_not_fatal scope hsound
    refine ⟨_, hvalue, ?_⟩
    have hoperations := hledger.operations
    rw [hvalue, Option.toList_some, List.flatMap_singleton] at hoperations
    unfold ClientUnit.operationCount
    rw [hoperations]
    exact hcount

end Endpoint

end Waymark

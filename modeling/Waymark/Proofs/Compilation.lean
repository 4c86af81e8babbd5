import Waymark.Proofs.EndpointTree

/-! # What compilation does at one endpoint

    The rules that proofs about compilation go by, so that none of them opens the
    definitions again.

    * A fatal endpoint compiles to nothing and reports its misfits.
    * Any other endpoint compiles to a unit with the operations of its capabilities and
      the units of its children, and reports what these report, in this order.
    * Of the operations that capabilities resolve to, the first of each verb is kept
      (`firstOfEachVerb`); every capability ends as one operation or as one error.
-/

namespace Waymark

namespace Report

@[simp] theorem value_tell (ds : List Diagnostic) : (tell ds).value = () := rfl

@[simp] theorem diagnostics_tell (ds : List Diagnostic) : (tell ds).diagnostics = ds := rfl

end Report

/-! ## Resolution -/

namespace Capability

variable {scope : Scope} {e : Endpoint} {cap : Capability}

theorem resolveReport_value :
    (cap.resolveReport scope e).value = (cap.resolve scope e).toOption := by
  unfold resolveReport
  cases cap.resolve scope e <;> rfl

theorem resolveReport_diagnostics_of_ok {op : Operation} (h : cap.resolve scope e = .ok op) :
    (cap.resolveReport scope e).diagnostics = [] := by
  unfold resolveReport
  rw [h]

theorem resolveReport_diagnostics_of_error {r : Rejection} (h : cap.resolve scope e = .error r) :
    (cap.resolveReport scope e).diagnostics = [cap.rejected scope r] := by
  unfold resolveReport
  rw [h]

/-- What a capability resolves to, in terms of the contract that it extends. -/
theorem resolve_eq_ok_iff {op : Operation} :
    cap.resolve scope e = .ok op ↔
      ∃ verb arguments, cap.contract = .ok (verb, arguments)
        ∧ verb.slots.zipIdx.findSome? (slotFault scope verb arguments) = none
        ∧ arguments.length ≤ verb.arity
        ∧ (cap.operation e verb arguments).requestType = e.qualname
        ∧ op = cap.operation e verb arguments := by
  unfold resolve
  cases hcontract : cap.contract with
  | error r => simp [bind, Except.bind]
  | ok given =>
    obtain ⟨verb, arguments⟩ := given
    simp only [bind, Except.bind, pure, Except.pure, throw, throwThe, MonadExceptOf.throw]
    -- the contract is known, so the right side speaks of this verb and these arguments
    have hright : (∃ v args, (Except.ok (verb, arguments) : Except Rejection _) = .ok (v, args)
          ∧ v.slots.zipIdx.findSome? (slotFault scope v args) = none
          ∧ args.length ≤ v.arity
          ∧ (cap.operation e v args).requestType = e.qualname
          ∧ op = cap.operation e v args) ↔
        verb.slots.zipIdx.findSome? (slotFault scope verb arguments) = none
          ∧ arguments.length ≤ verb.arity
          ∧ (cap.operation e verb arguments).requestType = e.qualname
          ∧ op = cap.operation e verb arguments := by
      constructor
      · rintro ⟨v, args, hgiven, h⟩
        cases hgiven
        exact h
      · exact fun h => ⟨verb, arguments, rfl, h⟩
    rw [hright]
    cases verb.slots.zipIdx.findSome? (slotFault scope verb arguments) with
    | some r => simp
    | none =>
      by_cases hlength : arguments.length > verb.arity
      · have hle : ¬ arguments.length ≤ verb.arity := by omega
        simp [hlength, hle]
      · have hle : arguments.length ≤ verb.arity := by omega
        by_cases hnode : (cap.operation e verb arguments).requestType = e.qualname
        · simp [hlength, hle, hnode, eq_comm]
        · simp [hlength, hnode]

/-- An operation names the capability and the endpoint that it was declared in. -/
theorem resolve_names {op : Operation} (h : cap.resolve scope e = .ok op) :
    op.capability = cap.qualname ∧ op.node = e.qualname ∧ op.requestType = e.qualname := by
  obtain ⟨verb, arguments, -, -, -, hnode, rfl⟩ := resolve_eq_ok_iff.mp h
  exact ⟨rfl, rfl, hnode⟩

end Capability

/-! ## The operations of an endpoint -/

/-- The operations that are the first of their verb, in order. -/
def firstOfEachVerb : List Operation → List Operation
  | [] => []
  | op :: later => op :: (firstOfEachVerb later).filter fun other => other.verb ≠ op.verb

theorem firstOfEachVerb_eq_nil_iff {ops : List Operation} : firstOfEachVerb ops = [] ↔ ops = [] := by
  cases ops <;> simp [firstOfEachVerb]

/-- No verb is kept twice. -/
theorem nodup_firstOfEachVerb (ops : List Operation) :
    ((firstOfEachVerb ops).map Operation.verb).Nodup := by
  induction ops with
  | nil => exact List.nodup_nil
  | cons op later ih =>
    unfold firstOfEachVerb
    rw [List.map_cons, List.nodup_cons]
    constructor
    · intro hmem
      obtain ⟨other, hother, hverb⟩ := List.mem_map.mp hmem
      have hne := (List.mem_filter.mp hother).2
      simp [hverb] at hne
    · exact ih.sublist (List.filter_sublist.map _)

/-- Where no verb is repeated, every operation is the first of its verb. -/
theorem firstOfEachVerb_eq_self {ops : List Operation} (h : (ops.map Operation.verb).Nodup) :
    firstOfEachVerb ops = ops := by
  induction ops with
  | nil => rfl
  | cons op later ih =>
    rw [List.map_cons, List.nodup_cons] at h
    unfold firstOfEachVerb
    rw [ih h.2]
    congr 1
    rw [List.filter_eq_self]
    intro other hmem
    have : other.verb ≠ op.verb := fun heq => h.1 (heq ▸ List.mem_map_of_mem hmem)
    simp [this]

namespace Endpoint

variable {scope : Scope}

/-- What the capabilities of the endpoint resolve to, as far as they do. -/
def accepted (scope : Scope) (e : Endpoint) : List Operation :=
  e.capabilities.filterMap fun cap => (cap.resolve scope e).toOption

/-- The operations that are kept while some verbs are taken already. -/
theorem operations_value (e : Endpoint) (taken : List (Verb × String)) (caps : List Capability) :
    (e.operations scope taken caps).value
      = (firstOfEachVerb (caps.filterMap fun cap => (cap.resolve scope e).toOption)).filter
          fun op => (taken.lookup op.verb).isNone := by
  induction caps generalizing taken with
  | nil => rfl
  | cons cap rest ih =>
    unfold operations
    rw [Report.value_bind, Capability.resolveReport_value]
    cases hresolve : cap.resolve scope e with
    | error r =>
      rw [List.filterMap_cons_none (by rw [hresolve]; rfl)]
      exact ih taken
    | ok op =>
      rw [List.filterMap_cons_some (by rw [hresolve]; rfl)]
      simp only [Except.toOption, firstOfEachVerb]
      cases hlookup : taken.lookup op.verb with
      | some first =>
        rw [Report.value_bind, ih taken, List.filter_cons_of_neg (by simp [hlookup]),
          List.filter_filter]
        -- a later operation of the verb is dropped for the same reason
        apply List.filter_congr
        intro other _
        by_cases hverb : other.verb = op.verb
        · simp [hverb, hlookup]
        · simp [hverb]
      | none =>
        rw [Report.value_bind, Report.value_pure, ih, List.filter_cons_of_pos (by simp [hlookup]),
          List.filter_filter]
        congr 1
        apply List.filter_congr
        intro other _
        by_cases hverb : other.verb = op.verb
        · simp [hverb]
        · simp [List.lookup_cons, hverb, beq_eq_false_iff_ne.mpr hverb]

theorem operations_nil_value (e : Endpoint) :
    (e.operations scope [] e.capabilities).value = firstOfEachVerb (e.accepted scope) := by
  rw [operations_value]
  simp [accepted]

/-! ## Compilation of an endpoint -/

/-- The unit that a nested endpoint leaves, if it compiles to one that offers something. -/
def nestedUnit (scope : Scope) (e : Endpoint) : Option ClientUnit :=
  (compile scope false e).value.filter ClientUnit.offersAnything

theorem nestedUnit_eq_some {e : Endpoint} {u : ClientUnit} :
    nestedUnit scope e = some u ↔
      (compile scope false e).value = some u ∧ u.offersAnything = true :=
  Option.filter_eq_some_iff

/-- The units of nested endpoints are those that offer something, in order. -/
theorem compileNested_value (es : List Endpoint) :
    (compileNested scope es).value = es.filterMap (nestedUnit scope) := by
  induction es with
  | nil => simp [compileNested]
  | cons e rest ih =>
    unfold compileNested
    rw [Report.value_bind, Report.value_bind, Report.value_pure, ih]
    show (nestedUnit scope e).toList ++ rest.filterMap (nestedUnit scope) = _
    cases h : nestedUnit scope e with
    | none =>
      rw [List.filterMap_cons_none h]
      rfl
    | some u =>
      rw [List.filterMap_cons_some h]
      rfl

/-- Nested endpoints report one after the other. -/
theorem compileNested_diagnostics (es : List Endpoint) :
    (compileNested scope es).diagnostics = es.flatMap fun e => (compile scope false e).diagnostics := by
  induction es with
  | nil => simp [compileNested]
  | cons e rest ih =>
    unfold compileNested
    rw [Report.diagnostics_bind, Report.diagnostics_bind, Report.diagnostics_pure, List.append_nil,
      List.flatMap_cons]
    exact congrArg _ ih

theorem compile_eq (e : Endpoint) (isRoot : Bool) :
    compile scope isRoot e =
      match e.misfits isRoot with
      | [] => do
        let ops ← e.operations scope [] e.capabilities
        let units ← compileNested scope e.children
        return some { name := e.name, qualname := e.qualname, segment := e.segment
                      operations := ops, children := units }
      | misfits => do
        Report.tell (misfits.map (Misfit.diagnostic scope e.qualname e.line))
        return none := by
  obtain ⟨name, qualname, segment, fields, children, capabilities, line⟩ := e
  unfold compile
  rfl

/-- A fatal endpoint compiles to nothing and reports its misfits. -/
theorem compile_of_fatal {e : Endpoint} {isRoot : Bool} (h : e.Fatal isRoot) :
    (compile scope isRoot e).value = none ∧
    (compile scope isRoot e).diagnostics
      = (e.misfits isRoot).map (Misfit.diagnostic scope e.qualname e.line) := by
  rw [compile_eq]
  split
  · next hnil => exact absurd h (misfits_eq_nil_iff.mp hnil)
  · simp

/-- An endpoint that is not fatal compiles to a unit and reports on its capabilities, then
    on what is nested in it. -/
theorem compile_of_not_fatal (scope : Scope) {e : Endpoint} {isRoot : Bool} (h : ¬ e.Fatal isRoot) :
    (compile scope isRoot e).value
      = some { name := e.name, qualname := e.qualname, segment := e.segment
               operations := firstOfEachVerb (e.accepted scope)
               children := (compileNested scope e.children).value } ∧
    (compile scope isRoot e).diagnostics
      = (e.operations scope [] e.capabilities).diagnostics
        ++ e.children.flatMap fun c => (compile scope false c).diagnostics := by
  rw [compile_eq, misfits_eq_nil_iff.mpr h]
  simp only [Report.value_bind, Report.value_pure, Report.diagnostics_bind,
    Report.diagnostics_pure, List.append_nil]
  rw [operations_nil_value, compileNested_diagnostics]
  exact ⟨rfl, rfl⟩

/-- What is known of an endpoint that compiles to a unit. -/
theorem compile_eq_some {e : Endpoint} {isRoot : Bool} {u : ClientUnit}
    (h : (compile scope isRoot e).value = some u) :
    ¬ e.Fatal isRoot ∧
    u = { name := e.name, qualname := e.qualname, segment := e.segment
          operations := firstOfEachVerb (e.accepted scope)
          children := (compileNested scope e.children).value } := by
  have hsound : ¬ e.Fatal isRoot := by
    intro hfatal
    rw [(compile_of_fatal hfatal).1] at h
    cases h
  rw [(compile_of_not_fatal scope hsound).1] at h
  exact ⟨hsound, (Option.some.inj h).symm⟩

/-- The units nested in a unit have different names. -/
theorem nodup_children_of_compile {e : Endpoint} {isRoot : Bool} {u : ClientUnit}
    (h : (compile scope isRoot e).value = some u) : (u.children.map ClientUnit.name).Nodup := by
  obtain ⟨hsound, rfl⟩ := compile_eq_some h
  have hnames : (e.children.map Endpoint.name).Nodup := by
    have hclash : e.nestedNames.Nodup := by
      by_contra hclash
      exact hsound (.inl hclash)
    exact (List.nodup_append.mp hclash).1
  refine hnames.sublist ?_
  show ((compileNested scope e.children).value.map ClientUnit.name).Sublist _
  -- a unit has the name of its endpoint, and some endpoints leave no unit
  rw [compileNested_value]
  clear h hsound hnames
  induction e.children with
  | nil => exact List.Sublist.slnil
  | cons c rest ih =>
    cases hunit : nestedUnit scope c with
    | none =>
      rw [List.filterMap_cons_none hunit]
      exact ih.cons _
    | some v =>
      rw [List.filterMap_cons_some hunit]
      have hname : v.name = c.name := by
        obtain ⟨-, rfl⟩ := compile_eq_some (nestedUnit_eq_some.mp hunit).1
        rfl
      rw [List.map_cons, List.map_cons, hname]
      exact ih.cons_cons _

/-- Compiles a root in a run that has reported `earlier` already. -/
def compileAfter (scope : Scope) (earlier : List Diagnostic) (e : Endpoint) :
    Report (Option ClientUnit) := do
  Report.tell earlier
  e.compile scope true

@[simp] theorem compileAfter_value (earlier : List Diagnostic) (e : Endpoint) :
    (compileAfter scope earlier e).value = (compile scope true e).value := rfl

@[simp] theorem compileAfter_diagnostics (earlier : List Diagnostic) (e : Endpoint) :
    (compileAfter scope earlier e).diagnostics
      = earlier ++ (compile scope true e).diagnostics := rfl

end Endpoint

end Waymark

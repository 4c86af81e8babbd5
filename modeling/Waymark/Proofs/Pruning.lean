import Waymark.Proofs.Compilation

/-! # Which endpoints become units

    Compilation keeps an endpoint for three reasons at once: nothing on the way down to
    it is fatal, something at it or below it can be called, and its own verbs are taken
    in order. This module says what the compiled tree is without mentioning how it is
    computed.

    * `Offers`: the endpoint, or one below it that is reached through endpoints that are
      not fatal, has a capability that resolves.
    * `Kept`: the positions that a unit is made for.
    * `Mirrors`: a unit is the copy of the endpoint at a position, and its children are
      the copies of the kept children of that endpoint, in order.

    The main result is `compile_mirrors_declaration`. In a tree without any flaw it comes
    down to counting (`walk_copies`).
-/

namespace Waymark

namespace Endpoint

/-- The endpoint, or one below it that is reached through endpoints that are not fatal,
    has a capability that resolves. -/
inductive Offers (scope : Scope) : Endpoint → Prop where
  /-- The endpoint has such a capability itself. -/
  | own {e : Endpoint} {cap : Capability} {op : Operation} (declared : cap ∈ e.capabilities)
      (resolved : cap.resolve scope e = .ok op) : Offers scope e
  /-- A child that is not fatal offers something. -/
  | nested {e c : Endpoint} (child : c ∈ e.children) (sound : ¬ c.Fatal false)
      (offers : Offers scope c) : Offers scope e

/-- A position that a unit is made for: the root's, and every other one with no fatal
    endpoint on the way down to it whose endpoint offers something. -/
def Kept (scope : Scope) (root : Endpoint) (path : List Nat) : Prop :=
  path = [] ∨
    (∀ q, q ≠ [] → q <+: path → ¬ root.FatalAt q) ∧ ∃ e, root.at? path = some e ∧ e.Offers scope

mutual
/-- The unit is made from the endpoint at the position: it has its names and its segment,
    the first operation of each verb, and its children are made from the kept children. -/
inductive Mirrors (scope : Scope) (root : Endpoint) : List Nat → ClientUnit → Prop where
  | copy {path : List Nat} {e : Endpoint} {u : ClientUnit} (found : root.at? path = some e)
      (name : u.name = e.name) (qualname : u.qualname = e.qualname)
      (segment : u.segment = e.segment)
      (operations : u.operations = firstOfEachVerb (e.accepted scope))
      (children : MirrorsAll scope root path 0 e.children u.children) :
      Mirrors scope root path u

/-- The units are made, in order, from those of the endpoints that are kept, where the
    endpoints are the children from the given index on of the one at the position. -/
inductive MirrorsAll (scope : Scope) (root : Endpoint) :
    List Nat → Nat → List Endpoint → List ClientUnit → Prop where
  | nil {path : List Nat} {i : Nat} : MirrorsAll scope root path i [] []
  | kept {path : List Nat} {i : Nat} {c : Endpoint} {cs : List Endpoint} {u : ClientUnit}
      {us : List ClientUnit} (kept : root.Kept scope (path ++ [i]))
      (head : Mirrors scope root (path ++ [i]) u)
      (tail : MirrorsAll scope root path (i + 1) cs us) :
      MirrorsAll scope root path i (c :: cs) (u :: us)
  | dropped {path : List Nat} {i : Nat} {c : Endpoint} {cs : List Endpoint}
      {us : List ClientUnit} (dropped : ¬ root.Kept scope (path ++ [i]))
      (tail : MirrorsAll scope root path (i + 1) cs us) :
      MirrorsAll scope root path i (c :: cs) us
end

variable {scope : Scope}

/-! ## What is offered -/

theorem accepted_ne_nil_iff {e : Endpoint} :
    e.accepted scope ≠ [] ↔ ∃ cap ∈ e.capabilities, ∃ op, cap.resolve scope e = .ok op := by
  unfold accepted
  rw [← List.length_pos_iff, List.length_pos_iff_exists_mem]
  constructor
  · rintro ⟨op, hop⟩
    obtain ⟨cap, hcap, hresolve⟩ := List.mem_filterMap.mp hop
    refine ⟨cap, hcap, op, ?_⟩
    cases h : cap.resolve scope e with
    | error r => rw [h] at hresolve; cases hresolve
    | ok found =>
      rw [h] at hresolve
      exact congrArg _ (Option.some.inj hresolve)
  · rintro ⟨cap, hcap, op, hresolve⟩
    exact ⟨op, List.mem_filterMap.mpr ⟨cap, hcap, by rw [hresolve]; rfl⟩⟩

/-- An endpoint offers something in one of two ways. -/
theorem offers_iff {e : Endpoint} :
    e.Offers scope ↔
      e.accepted scope ≠ [] ∨ ∃ c ∈ e.children, ¬ c.Fatal false ∧ c.Offers scope := by
  rw [accepted_ne_nil_iff]
  constructor
  · intro h
    cases h with
    | own declared resolved => exact .inl ⟨_, declared, _, resolved⟩
    | nested child sound offers => exact .inr ⟨_, child, sound, offers⟩
  · rintro (⟨cap, hcap, op, hop⟩ | ⟨c, hc, hsound, hoffers⟩)
    · exact .own hcap hop
    · exact .nested hc hsound hoffers

/-- The unit of an endpoint that offers something offers something, and only that one. -/
theorem offersAnything_iff {e : Endpoint} {isRoot : Bool} {u : ClientUnit}
    (h : (compile scope isRoot e).value = some u) :
    u.offersAnything = true ↔ e.Offers scope := by
  induction e using tree_induction generalizing isRoot u with
  | step e ih =>
    obtain ⟨-, rfl⟩ := compile_eq_some h
    rw [offers_iff]
    simp only [ClientUnit.offersAnything, Bool.or_eq_true, Bool.not_eq_true',
      List.isEmpty_eq_false_iff, ne_eq, firstOfEachVerb_eq_nil_iff]
    apply or_congr Iff.rfl
    -- something is left of the children exactly if one of them offers something
    rw [compileNested_value, ← ne_eq, ← List.length_pos_iff, List.length_pos_iff_exists_mem]
    constructor
    · rintro ⟨v, hv⟩
      obtain ⟨c, hc, hkept⟩ := List.mem_filterMap.mp hv
      obtain ⟨hvalue, hoffers⟩ := nestedUnit_eq_some.mp hkept
      exact ⟨c, hc, (compile_eq_some hvalue).1, (ih c hc hvalue).mp hoffers⟩
    · rintro ⟨c, hc, hsound, hoffers⟩
      have hvalue := (compile_of_not_fatal scope hsound).1
      have hkept := nestedUnit_eq_some.mpr ⟨hvalue, (ih c hc hvalue).mpr hoffers⟩
      exact ⟨_, List.mem_filterMap.mpr ⟨c, hc, hkept⟩⟩

/-- A nested endpoint leaves a unit if it compiles to one and offers something. -/
theorem nestedUnit_eq_some_iff {c : Endpoint} {u : ClientUnit} :
    nestedUnit scope c = some u ↔ (compile scope false c).value = some u ∧ c.Offers scope := by
  rw [nestedUnit_eq_some]
  constructor
  · exact fun ⟨hvalue, hoffers⟩ => ⟨hvalue, (offersAnything_iff hvalue).mp hoffers⟩
  · exact fun ⟨hvalue, hoffers⟩ => ⟨hvalue, (offersAnything_iff hvalue).mpr hoffers⟩

/-- A nested endpoint that is fatal or offers nothing leaves no unit. -/
theorem nestedUnit_eq_none {c : Endpoint} (h : ¬ (¬ c.Fatal false ∧ c.Offers scope)) :
    nestedUnit scope c = none := by
  rw [Option.eq_none_iff_forall_ne_some]
  intro u hu
  obtain ⟨hvalue, hoffers⟩ := nestedUnit_eq_some_iff.mp hu
  exact h ⟨(compile_eq_some hvalue).1, hoffers⟩

/-! ## The mirrored tree -/

/-- Below a way down on which nothing is fatal, a child is kept if it is not fatal itself
    and offers something. -/
theorem kept_child_iff {root c : Endpoint} {path : List Nat} {i : Nat}
    (hsafe : ∀ q, q ≠ [] → q <+: path → ¬ root.FatalAt q)
    (hfound : root.at? (path ++ [i]) = some c) :
    root.Kept scope (path ++ [i]) ↔ ¬ c.Fatal false ∧ c.Offers scope := by
  -- below the root an endpoint is fatal whatever its place is
  have hfatal : root.FatalAt (path ++ [i]) ↔ c.Fatal false := by
    have hroot : (path ++ [i]).isEmpty = false := by simp
    unfold FatalAt
    rw [hfound, hroot]
    simp
  unfold Kept
  rw [hfound]
  constructor
  · rintro (hnil | ⟨hdown, d, hd, hoffers⟩)
    · simp at hnil
    · cases hd
      exact ⟨fun h => hdown _ (by simp) List.prefix_rfl (hfatal.mpr h), hoffers⟩
  · rintro ⟨hsound, hoffers⟩
    refine .inr ⟨fun q hne hq => ?_, c, rfl, hoffers⟩
    rcases List.prefix_concat_iff.mp hq with rfl | hshort
    · exact fun h => hsound (hfatal.mp h)
    · exact hsafe q hne hshort

/-- What an endpoint compiles to mirrors it, at whatever position it stands, if nothing on
    the way down is fatal. -/
theorem mirrors_of_compile {root e : Endpoint} {path : List Nat} {isRoot : Bool} {u : ClientUnit}
    (hfound : root.at? path = some e) (hsafe : ∀ q, q ≠ [] → q <+: path → ¬ root.FatalAt q)
    (h : (compile scope isRoot e).value = some u) : root.Mirrors scope path u := by
  induction e using tree_induction generalizing path isRoot u with
  | step e ih =>
    obtain ⟨-, rfl⟩ := compile_eq_some h
    -- the children from the index `i` on, by induction on how many there are left
    have hchildren : ∀ (cs : List Endpoint) (i : Nat), e.children.drop i = cs →
        root.MirrorsAll scope path i cs (cs.filterMap (nestedUnit scope)) := by
      intro cs
      induction cs with
      | nil => intro i _; exact .nil
      | cons c cs ihcs =>
        intro i hdrop
        have hci : e.children[i]? = some c := by
          rw [← List.head?_drop, hdrop, List.head?_cons]
        have hrest : e.children.drop (i + 1) = cs := by
          rw [← List.tail_drop, hdrop, List.tail_cons]
        have hat : root.at? (path ++ [i]) = some c := by
          rw [at?_append_of_eq hfound, at?_cons, hci]
          rfl
        have htail := ihcs (i + 1) hrest
        by_cases hkept : root.Kept scope (path ++ [i])
        · obtain ⟨hsoundc, hoffers⟩ := (kept_child_iff hsafe hat).mp hkept
          have hvalue := (compile_of_not_fatal scope hsoundc).1
          have hunit := nestedUnit_eq_some_iff.mpr ⟨hvalue, hoffers⟩
          have hsafec : ∀ q, q ≠ [] → q <+: path ++ [i] → ¬ root.FatalAt q := by
            rcases hkept with hnil | ⟨hdown, -⟩
            · simp at hnil
            · exact hdown
          rw [List.filterMap_cons_some hunit]
          exact .kept hkept (ih c (List.mem_of_getElem? hci) hat hsafec hvalue) htail
        · have hnone := nestedUnit_eq_none (fun hc => hkept ((kept_child_iff hsafe hat).mpr hc))
          rw [List.filterMap_cons_none hnone]
          exact .dropped hkept htail
    refine .copy hfound rfl rfl rfl rfl ?_
    rw [compileNested_value]
    exact hchildren e.children 0 List.drop_zero

/-! ## Trees without a flaw -/

/-- The endpoint or one below it has a capability. -/
def bearsCapability (e : Endpoint) : Bool :=
  e.walk.any fun d => !d.capabilities.isEmpty

/-- The number of capabilities in a tree. -/
def capabilityCount (e : Endpoint) : Nat :=
  (e.walk.map fun d => d.capabilities.length).sum

/-- Nothing is wrong with a tree: no endpoint is fatal, every capability resolves, and no
    endpoint has two capabilities of one verb. -/
structure Flawless (scope : Scope) (isRoot : Bool) (e : Endpoint) : Prop where
  sound : ∀ path d, e.at? path = some d → ¬ d.Fatal (isRoot && path.isEmpty)
  resolved : ∀ d ∈ e.walk, ∀ cap ∈ d.capabilities, ∃ op, cap.resolve scope d = .ok op
  distinct : ∀ d ∈ e.walk, ((d.accepted scope).map Operation.verb).Nodup

/-- The unit has the names and the segment of the endpoint and one operation for each of
    its capabilities. -/
structure Copies (scope : Scope) (e : Endpoint) (u : ClientUnit) : Prop where
  name : u.name = e.name
  qualname : u.qualname = e.qualname
  segment : u.segment = e.segment
  operations : List.Forall₂ (fun cap op => cap.resolve scope e = .ok op) e.capabilities u.operations

theorem mem_walk_self (e : Endpoint) : e ∈ e.walk := by
  rw [walk_eq]
  exact List.mem_cons_self

theorem mem_walk_of_child {e c d : Endpoint} (hc : c ∈ e.children) (hd : d ∈ c.walk) :
    d ∈ e.walk := by
  rw [walk_eq]
  exact List.mem_cons_of_mem _ (List.mem_flatMap.mpr ⟨c, hc, hd⟩)

theorem bearsCapability_iff {e : Endpoint} :
    e.bearsCapability = true ↔ ∃ d ∈ e.walk, d.capabilities ≠ [] := by
  unfold bearsCapability
  rw [List.any_eq_true]
  simp only [Bool.not_eq_true', List.isEmpty_eq_false_iff, ne_eq]

/-- What an endpoint below bears, the endpoint bears. -/
theorem bearsCapability_of_mem_walk {e d : Endpoint} (hd : d ∈ e.walk)
    (h : d.bearsCapability = true) : e.bearsCapability = true := by
  obtain ⟨f, hf, hcaps⟩ := bearsCapability_iff.mp h
  obtain ⟨path, hpath⟩ := mem_walk_iff.mp hd
  obtain ⟨more, hmore⟩ := mem_walk_iff.mp hf
  have hat : e.at? (path ++ more) = some f := by
    rw [at?_append_of_eq hpath, hmore]
  exact bearsCapability_iff.mpr ⟨f, mem_walk_iff.mpr ⟨_, hat⟩, hcaps⟩

theorem Flawless.child {isRoot : Bool} {e c : Endpoint} (h : e.Flawless scope isRoot)
    (hc : c ∈ e.children) : c.Flawless scope false where
  sound := by
    intro path d hd
    obtain ⟨i, hi⟩ := List.getElem?_of_mem hc
    have hfatal := h.sound (i :: path) d (at?_cons_eq_some.mpr ⟨c, hi, hd⟩)
    simpa using hfatal
  resolved := fun d hd => h.resolved d (mem_walk_of_child hc hd)
  distinct := fun d hd => h.distinct d (mem_walk_of_child hc hd)

theorem Flawless.not_fatal {isRoot : Bool} {e : Endpoint} (h : e.Flawless scope isRoot) :
    ¬ e.Fatal isRoot := by
  have hfatal := h.sound [] e rfl
  simpa using hfatal

/-- In a tree without a flaw every capability is offered. -/
theorem Flawless.offers_iff {isRoot : Bool} {e : Endpoint} (h : e.Flawless scope isRoot) :
    e.Offers scope ↔ e.bearsCapability = true := by
  constructor
  · intro hoffers
    rw [bearsCapability_iff]
    clear h
    induction hoffers with
    | own declared _ => exact ⟨_, mem_walk_self _, List.ne_nil_of_mem declared⟩
    | nested child _ _ ih =>
      obtain ⟨d, hd, hcaps⟩ := ih
      exact ⟨d, mem_walk_of_child child hd, hcaps⟩
  · intro hbears
    obtain ⟨d, hd, hcaps⟩ := bearsCapability_iff.mp hbears
    clear hbears
    induction e using tree_induction generalizing isRoot with
    | step e ih =>
      rw [walk_eq, List.mem_cons, List.mem_flatMap] at hd
      -- in a flawless tree every capability resolves
      rcases hd with rfl | ⟨c, hc, hdc⟩
      · obtain ⟨cap, hcap⟩ := List.exists_mem_of_ne_nil _ hcaps
        obtain ⟨op, hop⟩ := h.resolved d (mem_walk_self d) cap hcap
        exact .own hcap hop
      · exact .nested hc (h.child hc).not_fatal (ih c hc (h.child hc) hdc)

/-- Where all capabilities resolve, the resolved operations stand for them one by one. -/
theorem forall₂_accepted {e : Endpoint}
    (h : ∀ cap ∈ e.capabilities, ∃ op, cap.resolve scope e = .ok op) :
    List.Forall₂ (fun cap op => cap.resolve scope e = .ok op) e.capabilities (e.accepted scope) := by
  unfold accepted
  generalize e.capabilities = caps at h ⊢
  induction caps with
  | nil => exact .nil
  | cons cap rest ih =>
    obtain ⟨op, hop⟩ := h cap List.mem_cons_self
    rw [List.filterMap_cons_some (by rw [hop]; rfl)]
    exact .cons hop (ih fun other hmem => h other (List.mem_cons_of_mem _ hmem))

/-- The units of a tree without a flaw are copies of the root and of the endpoints that
    bear a capability, in the order of the walk. -/
theorem Flawless.walk_copies {isRoot : Bool} {e : Endpoint} {u : ClientUnit}
    (h : e.Flawless scope isRoot) (hvalue : (compile scope isRoot e).value = some u) :
    List.Forall₂ (Copies scope) (e :: (e.children.flatMap walk).filter bearsCapability) u.walk := by
  induction e using tree_induction generalizing isRoot u with
  | step e ih =>
    obtain ⟨-, rfl⟩ := compile_eq_some hvalue
    have hchildren : ∀ cs : List Endpoint, (∀ c ∈ cs, c ∈ e.children) →
        List.Forall₂ (Copies scope) ((cs.flatMap walk).filter bearsCapability)
          ((cs.filterMap (nestedUnit scope)).flatMap ClientUnit.walk) := by
      intro cs
      induction cs with
      | nil => intro _; exact .nil
      | cons c cs ihcs =>
        intro hmem
        have hc := hmem c List.mem_cons_self
        have htail := ihcs fun d hd => hmem d (List.mem_cons_of_mem _ hd)
        have hflawless := h.child hc
        rw [List.flatMap_cons, List.filter_append]
        -- a child without capabilities is left out, and so is all that is below it
        by_cases hbears : c.bearsCapability = true
        · have hunit := (compile_of_not_fatal scope hflawless.not_fatal).1
          have hkept := nestedUnit_eq_some_iff.mpr ⟨hunit, hflawless.offers_iff.mpr hbears⟩
          rw [List.filterMap_cons_some hkept, List.flatMap_cons, walk_eq c,
            List.filter_cons_of_pos hbears]
          exact List.rel_append (ih c hc hflawless hunit) htail
        · have hdropped : nestedUnit scope c = none :=
            nestedUnit_eq_none fun hoffers => hbears (hflawless.offers_iff.mp hoffers.2)
          have hempty : c.walk.filter bearsCapability = [] := by
            rw [List.filter_eq_nil_iff]
            exact fun d hd hd' => hbears (bearsCapability_of_mem_walk hd hd')
          rw [List.filterMap_cons_none hdropped, hempty]
          exact htail
    -- no verb is repeated, so no operation is dropped
    have hcopy : firstOfEachVerb (e.accepted scope) = e.accepted scope :=
      firstOfEachVerb_eq_self (h.distinct e (mem_walk_self e))
    rw [ClientUnit.walk_eq]
    refine .cons ⟨rfl, rfl, rfl, ?_⟩ ?_
    · rw [hcopy]
      exact forall₂_accepted (h.resolved e (mem_walk_self e))
    · rw [compileNested_value]
      exact hchildren e.children fun _ hc => hc

/-- Endpoints that bear no capability do not count. -/
theorem sum_filter_bearsCapability (ds : List Endpoint) :
    ((ds.filter bearsCapability).map fun d => d.capabilities.length).sum
      = (ds.map fun d => d.capabilities.length).sum := by
  induction ds with
  | nil => rfl
  | cons d ds ih =>
    by_cases hbears : d.bearsCapability = true
    · rw [List.filter_cons_of_pos hbears]
      simp [ih]
    · have hnone : d.capabilities = [] := by
        by_contra hcaps
        exact hbears (bearsCapability_iff.mpr ⟨d, mem_walk_self d, hcaps⟩)
      rw [List.filter_cons_of_neg hbears]
      simp [ih, hnone]

/-- A tree without a flaw compiles to as many operations as it has capabilities. -/
theorem Flawless.operationCount_eq {isRoot : Bool} {e : Endpoint} {u : ClientUnit}
    (h : e.Flawless scope isRoot) (hvalue : (compile scope isRoot e).value = some u) :
    u.operationCount = e.capabilityCount := by
  have hsums : ∀ {ds : List Endpoint} {vs : List ClientUnit}, List.Forall₂ (Copies scope) ds vs →
      (vs.flatMap ClientUnit.operations).length = (ds.map fun d => d.capabilities.length).sum := by
    intro ds vs hcopies
    induction hcopies with
    | nil => rfl
    | cons hcopy _ ih =>
      rw [List.flatMap_cons, List.length_append, ih, List.map_cons, List.sum_cons,
        hcopy.operations.length_eq]
  unfold ClientUnit.operationCount ClientUnit.allOperations capabilityCount
  rw [hsums (h.walk_copies hvalue), walk_eq]
  simp only [List.map_cons, List.sum_cons, sum_filter_bearsCapability]

/-! ## Main result -/

/-- **What a root compiles to.** Nothing exactly when nested names clash in it; else a
    unit tree that mirrors the declared one: kept are the root and the positions with no
    fatal endpoint on the way down that offer something, each with its names, its segment
    and the first operation of each verb. A tree without a flaw has an operation for each
    capability and a unit for the root and for each endpoint that bears a capability. -/
theorem compile_mirrors_declaration (scope : Scope) (earlier : List Diagnostic) (root : Endpoint) :
    ((root.compileAfter scope earlier).value = none ↔ root.Clashing) ∧
    (∀ u, (root.compileAfter scope earlier).value = some u → root.Mirrors scope [] u) ∧
    (root.Flawless scope true → ∃ u, (root.compileAfter scope earlier).value = some u ∧
      u.operationCount = root.capabilityCount ∧
      List.Forall₂ (Copies scope) (root :: (root.children.flatMap walk).filter bearsCapability)
        u.walk) := by
  rw [compileAfter_value]
  refine ⟨?_, ?_, ?_⟩
  · rw [← fatal_root_iff]
    constructor
    · intro hnone
      by_contra hsound
      rw [(compile_of_not_fatal scope hsound).1] at hnone
      cases hnone
    · exact fun hfatal => (compile_of_fatal hfatal).1
  · intro u hvalue
    refine mirrors_of_compile rfl ?_ hvalue
    intro q hne hq
    exact absurd (List.prefix_nil.mp hq) hne
  · intro hflawless
    have hvalue := (compile_of_not_fatal scope hflawless.not_fatal).1
    exact ⟨_, hvalue, hflawless.operationCount_eq hvalue, hflawless.walk_copies hvalue⟩

end Endpoint

end Waymark

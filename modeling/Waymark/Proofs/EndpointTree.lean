import Mathlib
import Waymark.Client.Compilation

/-! # Positions in trees of endpoints

    An endpoint of a tree is named by its position, the list of child indices on the way
    to it from the root. Two endpoints of a tree may look the same; their positions
    differ.

    * `Endpoint.at?` finds the endpoint at a position, and `Endpoint.walk` lists a tree
      with every endpoint before what is nested in it.
    * An endpoint is fatal (`Endpoint.Fatal`) when nothing can be made of it: nested
      names clash, or it is nested and has no field for the endpoint around it.
    * `Endpoint.tree_induction` and `ClientUnit.tree_induction` are the induction
      principles that the proofs about trees use.
-/

namespace Waymark

/-! ## Induction over trees -/

theorem Endpoint.sizeOf_child_lt {e c : Endpoint} (h : c ∈ e.children) : sizeOf c < sizeOf e := by
  obtain ⟨name, qualname, segment, fields, children, capabilities, line⟩ := e
  have hc := List.sizeOf_lt_of_mem h
  simp only [Endpoint.mk.sizeOf_spec] at hc ⊢
  omega

/-- What holds of an endpoint as soon as it holds of its children holds of all. -/
theorem Endpoint.tree_induction {P : Endpoint → Prop}
    (step : ∀ e : Endpoint, (∀ c ∈ e.children, P c) → P e) (e : Endpoint) : P e :=
  step e fun c hc =>
    have := Endpoint.sizeOf_child_lt hc
    Endpoint.tree_induction step c
termination_by sizeOf e

theorem ClientUnit.sizeOf_child_lt {u c : ClientUnit} (h : c ∈ u.children) :
    sizeOf c < sizeOf u := by
  obtain ⟨name, qualname, segment, operations, children⟩ := u
  have hc := List.sizeOf_lt_of_mem h
  simp only [ClientUnit.mk.sizeOf_spec] at hc ⊢
  omega

/-- What holds of a unit as soon as it holds of its children holds of all. -/
theorem ClientUnit.tree_induction {P : ClientUnit → Prop}
    (step : ∀ u : ClientUnit, (∀ c ∈ u.children, P c) → P u) (u : ClientUnit) : P u :=
  step u fun c hc =>
    have := ClientUnit.sizeOf_child_lt hc
    ClientUnit.tree_induction step c
termination_by sizeOf u

namespace ClientUnit

theorem walkAll_eq_flatMap (us : List ClientUnit) : walkAll us = us.flatMap walk := by
  induction us with
  | nil => rfl
  | cons u us ih => rw [walkAll, ih, List.flatMap_cons]

/-- A walk begins at the unit and goes through its children in order. -/
theorem walk_eq (u : ClientUnit) : u.walk = u :: u.children.flatMap walk := by
  obtain ⟨name, qualname, segment, operations, children⟩ := u
  rw [walk, walkAll_eq_flatMap]

theorem mem_walk_self (u : ClientUnit) : u ∈ u.walk := by
  rw [walk_eq]
  exact List.mem_cons_self

/-- What is nested in a unit of the walk is walked through as well. -/
theorem mem_walk_of_child {u v w : ClientUnit} (hv : v ∈ u.walk) (hw : w ∈ v.children) :
    w ∈ u.walk := by
  induction u using tree_induction with
  | step u ih =>
    rw [walk_eq, List.mem_cons, List.mem_flatMap] at hv
    rw [walk_eq, List.mem_cons, List.mem_flatMap]
    rcases hv with rfl | ⟨c, hc, hv⟩
    · exact .inr ⟨w, hw, mem_walk_self w⟩
    · exact .inr ⟨c, hc, ih c hc hv⟩

theorem allOperations_eq (u : ClientUnit) :
    u.allOperations = u.operations ++ u.children.flatMap allOperations := by
  unfold allOperations
  rw [walk_eq, List.flatMap_cons, List.flatMap_assoc]

end ClientUnit

namespace Endpoint

/-! ## Positions -/

/-- The endpoint at a position. -/
def at? (e : Endpoint) : List Nat → Option Endpoint
  | [] => some e
  | i :: path => e.children[i]?.bind fun c => c.at? path

@[simp] theorem at?_nil (e : Endpoint) : e.at? [] = some e := rfl

theorem at?_cons (e : Endpoint) (i : Nat) (path : List Nat) :
    e.at? (i :: path) = e.children[i]?.bind fun c => c.at? path := rfl

theorem at?_cons_eq_some {e d : Endpoint} {i : Nat} {path : List Nat} :
    e.at? (i :: path) = some d ↔ ∃ c, e.children[i]? = some c ∧ c.at? path = some d := by
  rw [at?_cons, Option.bind_eq_some_iff]

/-- Going along one position and then along another is going along both. -/
theorem at?_append (e : Endpoint) (path more : List Nat) :
    e.at? (path ++ more) = (e.at? path).bind fun d => d.at? more := by
  induction path generalizing e with
  | nil => rfl
  | cons i path ih =>
    rw [List.cons_append, at?_cons, at?_cons]
    cases e.children[i]? with
    | none => rfl
    | some c => exact ih c

theorem at?_append_of_eq {e d : Endpoint} {path : List Nat} (h : e.at? path = some d)
    (more : List Nat) : e.at? (path ++ more) = d.at? more := by
  rw [at?_append, h, Option.bind_some]

/-! ## Walks -/

mutual
/-- The endpoint and all endpoints below it, each before its children. -/
def walk (e : Endpoint) : List Endpoint :=
  match e with
  | ⟨name, qualname, segment, fields, children, capabilities, line⟩ =>
    ⟨name, qualname, segment, fields, children, capabilities, line⟩ :: walkAll children

/-- The endpoints of a forest in the same order. -/
def walkAll : List Endpoint → List Endpoint
  | [] => []
  | e :: rest => walk e ++ walkAll rest
end

theorem walkAll_eq_flatMap (es : List Endpoint) : walkAll es = es.flatMap walk := by
  induction es with
  | nil => rfl
  | cons e es ih => rw [walkAll, ih, List.flatMap_cons]

/-- A walk begins at the endpoint and goes through its children in order. -/
theorem walk_eq (e : Endpoint) : e.walk = e :: e.children.flatMap walk := by
  obtain ⟨name, qualname, segment, fields, children, capabilities, line⟩ := e
  rw [walk, walkAll_eq_flatMap]

/-- A walk passes what has a position, and nothing else. -/
theorem mem_walk_iff {e d : Endpoint} : d ∈ e.walk ↔ ∃ path, e.at? path = some d := by
  induction e using tree_induction with
  | step e ih =>
    rw [walk_eq, List.mem_cons, List.mem_flatMap]
    constructor
    · rintro (rfl | ⟨c, hc, hd⟩)
      · exact ⟨[], rfl⟩
      · obtain ⟨path, hpath⟩ := (ih c hc).mp hd
        obtain ⟨i, hi⟩ := List.getElem?_of_mem hc
        exact ⟨i :: path, at?_cons_eq_some.mpr ⟨c, hi, hpath⟩⟩
    -- the first step of the path leads to a child, the others below it
    · rintro ⟨path, hpath⟩
      cases path with
      | nil =>
        left
        exact (Option.some.inj hpath).symm
      | cons i path =>
        obtain ⟨c, hi, hd⟩ := at?_cons_eq_some.mp hpath
        have hc := List.mem_of_getElem? hi
        exact .inr ⟨c, hc, (ih c hc).mpr ⟨path, hd⟩⟩

/-! ## Fatal endpoints -/

/-- Two of the classes nested in the endpoint share their simple name. -/
def Clashing (e : Endpoint) : Prop := ¬ e.nestedNames.Nodup

instance (e : Endpoint) : Decidable e.Clashing := inferInstanceAs (Decidable (¬ _))

/-- Nothing can be made of the endpoint: names clash in it, or it is no root and has no
    field for the endpoint around it. -/
def Fatal (isRoot : Bool) (e : Endpoint) : Prop :=
  e.Clashing ∨ isRoot = false ∧ e.parentField = none

instance (isRoot : Bool) (e : Endpoint) : Decidable (e.Fatal isRoot) :=
  haveI : Decidable (e.parentField = none) := decidable_of_iff _ Option.isNone_iff_eq_none
  inferInstanceAs (Decidable (_ ∨ _ ∧ _))

@[simp] theorem fatal_root_iff {e : Endpoint} : e.Fatal true ↔ e.Clashing := by
  simp [Fatal]

/-- The endpoint at the position is fatal. Only the empty position is the root's. -/
def FatalAt (root : Endpoint) (path : List Nat) : Prop :=
  ∃ e, root.at? path = some e ∧ e.Fatal path.isEmpty

theorem mem_clashes_iff {e : Endpoint} {name : String} :
    name ∈ e.clashes ↔ 1 < e.nestedNames.count name := by
  unfold clashes
  rw [Text.mem_sortDistinct, List.mem_filter, decide_eq_true_iff]
  constructor
  · exact fun h => h.2
  · intro h
    exact ⟨List.count_pos_iff.mp (by omega), h⟩

/-- Clashing names are listed exactly when there are some. -/
theorem clashes_ne_nil_iff {e : Endpoint} : e.clashes ≠ [] ↔ e.Clashing := by
  unfold Clashing
  rw [List.nodup_iff_count_le_one, ← List.length_pos_iff, List.length_pos_iff_exists_mem]
  simp only [mem_clashes_iff, not_forall, Nat.not_le]

/-- An endpoint has misfits exactly when it is fatal. -/
theorem misfits_eq_nil_iff {e : Endpoint} {isRoot : Bool} :
    e.misfits isRoot = [] ↔ ¬ e.Fatal isRoot := by
  unfold misfits Fatal
  rw [← clashes_ne_nil_iff]
  by_cases hclash : e.clashes = []
  · cases isRoot <;> cases hparent : e.parentField <;> simp [hclash]
  · simp [hclash]

end Endpoint

end Waymark

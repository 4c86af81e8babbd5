import Mathlib.Data.List.Forall2

/-! # Lists that correspond item by item

    What several proofs need of `List.Forall₂`: lists that correspond to a given one, the item
    that another one comes from, and where `mapM` succeeds and fails. Where a list is put in
    another order, what corresponds to it can be put in that order as well.

    Before that it is said when two steps that may fail give something (`bind_eq_ok_iff`).
-/

namespace Waymark

section

variable {ε φ α β : Type} {x : Except ε α} {f : α → Except ε β}

/-- Two steps give something exactly if each of them does. -/
theorem bind_eq_ok_iff {b : β} : x >>= f = .ok b ↔ ∃ a, x = .ok a ∧ f a = .ok b := by
  cases x <;> simp [bind, Except.bind]

/-- What is given does not depend on how faults are told. -/
theorem mapError_eq_ok_iff {g : ε → φ} {a : α} : x.mapError g = .ok a ↔ x = .ok a := by
  cases x <;> simp [Except.mapError]

end

section

variable {α β : Type} {R : α → β → Prop} {xs : List α} {ys : List β}

/-- If every item corresponds to one, there is a list that corresponds to all. -/
theorem exists_forall₂ (h : ∀ x ∈ xs, ∃ y, R x y) : ∃ ys, List.Forall₂ R xs ys := by
  induction xs with
  | nil => exact ⟨[], .nil⟩
  | cons x rest ih =>
    obtain ⟨y, hy⟩ := h x List.mem_cons_self
    obtain ⟨ys, hys⟩ := ih fun other hother => h other (List.mem_cons_of_mem _ hother)
    exact ⟨y :: ys, .cons hy hys⟩

theorem exists_left_of_forall₂ (h : List.Forall₂ R xs ys) {y : β} (hy : y ∈ ys) :
    ∃ x ∈ xs, R x y := by
  induction h with
  | nil => cases hy
  | cons hfirst _ ih =>
    rcases List.mem_cons.mp hy with rfl | hy
    · exact ⟨_, List.mem_cons_self, hfirst⟩
    · obtain ⟨x, hx, hxy⟩ := ih hy
      exact ⟨x, List.mem_cons_of_mem _ hx, hxy⟩

/-- Two lists correspond to one only if they are the same, where that is so of their items. -/
theorem eq_of_forall₂ {S : α → β → Prop} {zs : List β}
    (h : List.Forall₂ (fun x y => ∀ z, S x z → y = z) xs ys) (h' : List.Forall₂ S xs zs) :
    ys = zs := by
  induction h generalizing zs with
  | nil =>
    cases h'
    rfl
  | cons hfirst _ ih =>
    cases h' with
    | cons hfirst' hrest' => rw [hfirst _ hfirst', ih hrest']

/-- A correspondence only has to be replaced where there are items. -/
theorem forall₂_imp_of_mem {S : α → β → Prop} (h : List.Forall₂ R xs ys)
    (himp : ∀ x ∈ xs, ∀ y ∈ ys, R x y → S x y) : List.Forall₂ S xs ys := by
  induction h with
  | nil => exact .nil
  | cons hfirst _ ih =>
    have hrest := ih fun x hx y hy =>
      himp x (List.mem_cons_of_mem _ hx) y (List.mem_cons_of_mem _ hy)
    exact .cons (himp _ List.mem_cons_self _ List.mem_cons_self hfirst) hrest

end

theorem mapM_of_forall₂ {m : Type → Type} [Monad m] [LawfulMonad m] {α β : Type} {f : α → m β}
    {xs : List α} (ys : List β) (h : List.Forall₂ (fun x y => f x = pure y) xs ys) :
    xs.mapM f = pure ys := by
  induction h with
  | nil => rfl
  | cons hx _ ih => rw [List.mapM_cons, hx, ih, pure_bind, pure_bind]

/-- Items can be put in the order that their images are put in. -/
theorem exists_perm_of_map_perm {α β : Type} {f : α → β} {xs : List α} {ys : List β}
    (h : (xs.map f).Perm ys) : ∃ zs, xs.Perm zs ∧ zs.map f = ys := by
  generalize hmap : xs.map f = fs at h
  -- each step of the permutation is a step of the items themselves
  induction h generalizing xs with
  | nil => exact ⟨xs, List.Perm.refl xs, hmap⟩
  | cons y _ ih =>
    obtain ⟨x, rest, rfl, rfl, hrest⟩ := List.map_eq_cons_iff.mp hmap
    obtain ⟨zs, hperm, hzs⟩ := ih hrest
    exact ⟨x :: zs, hperm.cons x, by rw [List.map_cons, hzs]⟩
  | swap y y' _ =>
    obtain ⟨x', rest', rfl, rfl, hrest'⟩ := List.map_eq_cons_iff.mp hmap
    obtain ⟨x, rest, rfl, rfl, rfl⟩ := List.map_eq_cons_iff.mp hrest'
    exact ⟨x :: x' :: rest, List.Perm.swap x x' rest, rfl⟩
  | trans _ _ ih₁ ih₂ =>
    obtain ⟨zs, hperm, hzs⟩ := ih₁ hmap
    obtain ⟨vs, hperm', hvs⟩ := ih₂ hzs
    exact ⟨vs, hperm.trans hperm', hvs⟩

/-- Where `mapM` succeeds, every step did. -/
theorem forall₂_of_mapM {ε α β : Type} {f : α → Except ε β} {xs : List α} {ys : List β}
    (h : xs.mapM f = .ok ys) : List.Forall₂ (fun x y => f x = .ok y) xs ys := by
  induction xs generalizing ys with
  | nil =>
    obtain rfl : [] = ys := by simpa [pure, Except.pure] using h
    exact .nil
  | cons x rest ih =>
    rw [List.mapM_cons] at h
    cases hx : f x with
    | error fault => simp [hx, bind, Except.bind] at h
    | ok y =>
      cases hrest : rest.mapM f with
      | error fault => simp [hx, hrest, bind, Except.bind] at h
      | ok ys' =>
        obtain rfl : y :: ys' = ys := by
          simpa [hx, hrest, bind, Except.bind, pure, Except.pure] using h
        exact .cons hx (ih hrest)

/-- `mapM` succeeds exactly if every step does. -/
theorem exists_mapM_iff {ε α β : Type} {f : α → Except ε β} {xs : List α} :
    (∃ ys, xs.mapM f = .ok ys) ↔ ∀ x ∈ xs, ∃ y, f x = .ok y := by
  constructor
  · rintro ⟨ys, hys⟩ x hx
    obtain ⟨y, -, hy⟩ := exists_left_of_forall₂ (forall₂_of_mapM hys).flip hx
    exact ⟨y, hy⟩
  · intro h
    obtain ⟨ys, hys⟩ := exists_forall₂ h
    exact ⟨ys, mapM_of_forall₂ ys hys⟩

/-- Where `mapM` fails, it does so at one of the items. -/
theorem exists_of_mapM_error {ε α β : Type} {f : α → Except ε β} {xs : List α} {fault : ε}
    (h : xs.mapM f = .error fault) : ∃ x ∈ xs, f x = .error fault := by
  induction xs with
  | nil => cases h
  | cons x rest ih =>
    rw [List.mapM_cons] at h
    cases hx : f x with
    | error other =>
      rw [hx] at h
      cases h
      exact ⟨x, List.mem_cons_self, hx⟩
    | ok y =>
      -- the fault is that of the first item that has one
      cases hrest : rest.mapM f with
      | error other =>
        rw [hx, hrest] at h
        cases h
        obtain ⟨x', hx', hfault⟩ := ih hrest
        exact ⟨x', List.mem_cons_of_mem _ hx', hfault⟩
      | ok ys =>
        rw [hx, hrest] at h
        cases h

end Waymark

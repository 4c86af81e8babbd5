/-! # Sorted lists of names

    Wherever an answer lists a set of names it lists them in the order of their code
    points and each one once. `sortDistinct` makes that list of any list.
-/

namespace Waymark.Text

/-- Puts a name at its place in a sorted list, unless it is there already. -/
def insertDistinct (name : String) : List String → List String
  | [] => [name]
  | head :: rest =>
    if name = head then head :: rest
    else if name < head then name :: head :: rest
    else head :: insertDistinct name rest

/-- The names of a list in ascending order, each one once. -/
def sortDistinct (names : List String) : List String :=
  names.foldr insertDistinct []

@[simp] theorem mem_insertDistinct {x name : String} {xs : List String} :
    x ∈ insertDistinct name xs ↔ x = name ∨ x ∈ xs := by
  induction xs with
  | nil => simp [insertDistinct]
  | cons head rest ih =>
    unfold insertDistinct
    split
    · next h => subst h; simp
    · split
      · simp
      · simp only [List.mem_cons, ih]
        constructor
        · rintro (h | h | h) <;> simp [h]
        · rintro (h | h | h) <;> simp [h]

/-- Sorting keeps exactly the names of the list. -/
@[simp] theorem mem_sortDistinct {x : String} {xs : List String} :
    x ∈ sortDistinct xs ↔ x ∈ xs := by
  induction xs with
  | nil => simp [sortDistinct]
  | cons head rest ih =>
    have step : sortDistinct (head :: rest) = insertDistinct head (sortDistinct rest) := rfl
    simp [step, ih]

theorem insertDistinct_sorted {name : String} {xs : List String} (h : xs.Pairwise (· < ·)) :
    (insertDistinct name xs).Pairwise (· < ·) := by
  induction xs with
  | nil => exact List.pairwise_singleton _ _
  | cons head rest ih =>
    obtain ⟨hhead, hrest⟩ := List.pairwise_cons.mp h
    unfold insertDistinct
    split
    · exact h
    · next hne =>
      split
      · next hlt =>
        refine List.pairwise_cons.mpr ⟨?_, h⟩
        intro y hy
        rcases List.mem_cons.mp hy with rfl | hy
        · exact hlt
        · exact String.lt_trans hlt (hhead y hy)
      · next hnlt =>
        refine List.pairwise_cons.mpr ⟨?_, ih hrest⟩
        intro y hy
        rcases mem_insertDistinct.mp hy with rfl | hy
        · -- neither equal to the head nor before it
          apply String.not_le.mp
          intro hle
          exact hne (String.le_antisymm hle (String.not_lt.mp hnlt))
        · exact hhead y hy

/-- The sorted list ascends strictly, so it has no name twice. -/
theorem sortDistinct_sorted (xs : List String) : (sortDistinct xs).Pairwise (· < ·) := by
  induction xs with
  | nil => exact List.Pairwise.nil
  | cons head rest ih => exact insertDistinct_sorted ih

theorem nodup_of_sorted {xs : List String} (h : xs.Pairwise (· < ·)) : xs.Nodup := by
  refine h.imp ?_
  rintro a b hlt rfl
  exact String.lt_irrefl a hlt

theorem sortDistinct_nodup (xs : List String) : (sortDistinct xs).Nodup :=
  nodup_of_sorted (sortDistinct_sorted xs)

/-- There is only one way to list some names in ascending order. -/
theorem eq_sortDistinct {xs ys : List String} (hsorted : ys.Pairwise (· < ·))
    (hmem : ∀ x, x ∈ ys ↔ x ∈ xs) : ys = sortDistinct xs := by
  have hperm : ys.Perm (sortDistinct xs) :=
    (List.perm_ext_iff_of_nodup (nodup_of_sorted hsorted) (sortDistinct_nodup xs)).mpr fun x =>
      (hmem x).trans mem_sortDistinct.symm
  refine List.Perm.eq_of_pairwise ?_ hsorted (sortDistinct_sorted xs) hperm
  intro a b _ _ hab hba
  exact absurd hba (String.lt_asymm hab)

end Waymark.Text

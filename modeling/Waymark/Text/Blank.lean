import Waymark.Text.Ranges

/-! # Blank characters and trimming

    A character is blank when it separates words: the horizontal and vertical tabs,
    the line ends, the four ASCII information separators, the next-line control and
    the spaces of every width. `trim` removes them at both ends of a text.
-/

namespace Waymark.Text

/-- The blank code points. -/
def isBlankCode (code : Nat) : Bool :=
  (0x9 ≤ code && code ≤ 0xd) || (0x1c ≤ code && code ≤ 0x20) || code == 0x85 || code == 0xa0
    || code == 0x1680 || (0x2000 ≤ code && code ≤ 0x200a) || code == 0x2028 || code == 0x2029
    || code == 0x202f || code == 0x205f || code == 0x3000

/-- The blank characters. -/
def isBlank (c : Char) : Bool :=
  isBlankCode c.toNat

/-- Drops the members that satisfy `p` at both ends. -/
def dropAround {α : Type} (p : α → Bool) (xs : List α) : List α :=
  ((xs.dropWhile p).reverse.dropWhile p).reverse

/-- The text without the characters at its ends that satisfy `p`. -/
def trimWhere (p : Char → Bool) (s : String) : String :=
  String.ofList (dropAround p s.toList)

/-- The text without the blank characters at its ends. -/
def trim (s : String) : String :=
  trimWhere isBlank s

@[simp] theorem dropAround_nil {α : Type} (p : α → Bool) : dropAround p [] = [] := rfl

/-- What is left was there. -/
theorem mem_of_mem_dropAround {α : Type} {p : α → Bool} {xs : List α} {x : α}
    (h : x ∈ dropAround p xs) : x ∈ xs := by
  unfold dropAround at h
  rw [List.mem_reverse] at h
  have hback := (List.dropWhile_sublist p).mem h
  rw [List.mem_reverse] at hback
  exact (List.dropWhile_sublist p).mem hback

/-- Nothing that satisfies `p` is left in front. -/
theorem head?_dropAround {α : Type} (p : α → Bool) (xs : List α) (x : α)
    (h : (dropAround p xs).head? = some x) : p x = false := by
  have front : ∀ ys : List α, (ys.dropWhile p).reverse.dropWhile p ≠ [] →
      ∀ y, (((ys.dropWhile p).reverse.dropWhile p).reverse).head? = some y →
        (ys.dropWhile p).head? = some y := by
    intro ys hne y hy
    rw [List.head?_reverse] at hy
    have suffix : ((ys.dropWhile p).reverse.dropWhile p) <:+ (ys.dropWhile p).reverse :=
      List.dropWhile_suffix p
    obtain ⟨front, hfront⟩ := suffix
    have : (ys.dropWhile p).reverse.getLast? = some y := by
      rw [← hfront, List.getLast?_append, hy]; rfl
    rwa [List.getLast?_reverse] at this
  have hne : (xs.dropWhile p).reverse.dropWhile p ≠ [] := by
    intro hnil
    simp [dropAround, hnil] at h
  have hx := front xs hne x h
  have := List.head?_dropWhile_not p xs
  rw [hx] at this
  simpa using this

/-- Nothing is dropped where the first member stays. -/
theorem dropWhile_eq_self {α : Type} {p : α → Bool} {xs : List α}
    (h : ∀ x, xs.head? = some x → p x = false) : xs.dropWhile p = xs := by
  cases xs with
  | nil => rfl
  | cons x rest => simp [h x rfl]

/-- Dropping once is enough. -/
theorem dropAround_dropAround {α : Type} (p : α → Bool) (xs : List α) :
    dropAround p (dropAround p xs) = dropAround p xs := by
  have hfront : (dropAround p xs).dropWhile p = dropAround p xs :=
    dropWhile_eq_self (head?_dropAround p xs)
  have hback : (dropAround p xs).reverse.dropWhile p = (dropAround p xs).reverse := by
    apply dropWhile_eq_self
    intro x hx
    have hfirst := List.head?_dropWhile_not p (xs.dropWhile p).reverse
    rw [dropAround, List.reverse_reverse] at hx
    rw [hx] at hfirst
    simpa using hfirst
  show (((dropAround p xs).dropWhile p).reverse.dropWhile p).reverse = dropAround p xs
  rw [hfront, hback, List.reverse_reverse]

@[simp] theorem trim_trim (s : String) : trim (trim s) = trim s := by
  simp [trim, trimWhere, dropAround_dropAround]

end Waymark.Text

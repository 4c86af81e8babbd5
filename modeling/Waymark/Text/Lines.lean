import Waymark.Text.Ranges

/-! # Lines

    A line ends with a line feed, a carriage return, or both in this order.
    `unifyLineEnds` leaves line feeds only; after that, `lines` cuts a text at them.
-/

namespace Waymark.Text

/-- The text with a line feed for every line end. -/
def unifyLineEnds : List Char → List Char
  | '\r' :: '\n' :: rest => '\n' :: unifyLineEnds rest
  | '\r' :: rest => '\n' :: unifyLineEnds rest
  | c :: rest => c :: unifyLineEnds rest
  | [] => []

/-- The pieces of a text between its line feeds: one more than there are line feeds. -/
def lines (s : String) : List String :=
  (splitWhere (· == '\n') s.toList).map String.ofList

/-- No carriage return is left. -/
theorem not_mem_unifyLineEnds (cs : List Char) : '\r' ∉ unifyLineEnds cs := by
  fun_induction unifyLineEnds cs with
  | case1 rest ih => simp [ih]
  | case2 rest _ ih => simp [ih]
  | case3 c rest _ hc ih =>
    have : c ≠ '\r' := fun h => hc h
    simp [ih, Ne.symm this]
  | case4 => simp

/-- A text without carriage returns stays as it is. -/
theorem unifyLineEnds_eq_self {cs : List Char} (h : '\r' ∉ cs) : unifyLineEnds cs = cs := by
  fun_induction unifyLineEnds cs with
  | case1 rest ih => simp at h
  | case2 rest _ ih => simp at h
  | case3 c rest _ hc ih =>
    have : '\r' ∉ rest := fun hr => h (by simp [hr])
    simp [ih this]
  | case4 => rfl

end Waymark.Text

/-! # Ranges of code points

    A property of characters is held as the ranges of code points that have it.
    The tables of the library are written as text, with numbers in hexadecimal, and
    read once: a word is an entry, and the numbers of an entry are joined by dashes. An
    entry of a table of ranges is a `first-last` pair, or a single code point.
-/

namespace Waymark.Text

/-- The value of a hexadecimal digit written in lower case. -/
def hexDigit? (c : Char) : Option Nat :=
  if '0' ≤ c ∧ c ≤ '9' then some (c.toNat - '0'.toNat)
  else if 'a' ≤ c ∧ c ≤ 'f' then some (c.toNat - 'a'.toNat + 10)
  else none

/-- The number that a run of hexadecimal digits spells; other characters are skipped. -/
def hexNumber (digits : List Char) : Nat :=
  digits.foldl (fun n c => match hexDigit? c with
    | some d => 16 * n + d
    | none => n) 0

/-- Splits at every character that satisfies `p`; neighbouring separators leave empty parts. -/
def splitWhere (p : Char → Bool) : List Char → List (List Char)
  | [] => [[]]
  | c :: rest =>
    match splitWhere p rest with
    | [] => [[c]]
    | part :: parts => if p c then [] :: part :: parts else (c :: part) :: parts

theorem splitWhere_ne_nil (p : Char → Bool) (cs : List Char) : splitWhere p cs ≠ [] := by
  cases cs with
  | nil => exact List.cons_ne_nil _ _
  | cons c rest =>
    unfold splitWhere
    split
    · exact List.cons_ne_nil _ _
    · split
      · exact List.cons_ne_nil _ _
      · exact List.cons_ne_nil _ _

/-- What stands before the first separator is the first part. -/
theorem splitWhere_append_cons {p : Char → Bool} {front rest : List Char} {separator : Char}
    (hfront : ∀ c ∈ front, p c = false) (hseparator : p separator = true) :
    splitWhere p (front ++ separator :: rest) = front :: splitWhere p rest := by
  induction front with
  | nil =>
    obtain ⟨part, parts, hsplit⟩ := List.exists_cons_of_ne_nil (splitWhere_ne_nil p rest)
    show splitWhere p (separator :: rest) = _
    rw [splitWhere, hsplit]
    simp [hseparator]
  | cons c front ih =>
    have hc := hfront c List.mem_cons_self
    have hrest := ih fun d hd => hfront d (List.mem_cons_of_mem _ hd)
    rw [List.cons_append, splitWhere, hrest]
    simp [hc]

/-- The words between blanks. -/
def words (line : String) : List (List Char) :=
  (splitWhere (· == ' ') line.toList).filter (!·.isEmpty)

/-- Reads a table: its words are numbers in hexadecimal, joined by dashes. -/
def tableOfText (lines : List String) : List (List Nat) :=
  lines.flatMap fun line =>
    (words line).map fun word => (splitWhere (· == '-') word).map hexNumber

/-- Inclusive ranges of code points. -/
structure Ranges where
  bounds : List (Nat × Nat)

namespace Ranges

/-- The range that some numbers of a table spell: a pair of bounds, or one number. -/
def rangeOfNumbers : List Nat → Nat × Nat
  | [first, last] => (first, last)
  | numbers => (numbers.headD 0, numbers.headD 0)

/-- Reads a table of ranges. -/
def ofText (lines : List String) : Ranges :=
  ⟨(tableOfText lines).map rangeOfNumbers⟩

/-- Does a range hold the code point? -/
def contains (ranges : Ranges) (code : Nat) : Bool :=
  ranges.bounds.any fun (first, last) => first ≤ code && code ≤ last

end Ranges

end Waymark.Text

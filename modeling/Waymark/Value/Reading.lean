import Waymark.Value.Kind
import Waymark.Value.Lenient
import Waymark.Wire.Reading

/-! # Reading values

    `Kind.ofJson?` reads a value of a kind from a JSON document. Scalars are read
    leniently, members that a shape does not name are passed over, and of members of one
    name the last counts.

    `Kind.ofValue?` does the same for a value that is there already: it is how the fields
    of a record are checked when the record is built.
-/

namespace Waymark

open Waymark.Wire (Json)

mutual
/-- The value that a document stands for by itself. -/
def Wire.Json.toValue : Json → Value
  | .null => .none
  | .bool b => .bool b
  | .int n => .int n
  | .float x => .float x
  | .text s => .text s
  | .array items => .list (Wire.Json.toValues items)
  | .object members => Value.ofEntries (Wire.Json.toEntries members)

/-- The values of some documents. -/
def Wire.Json.toValues : List Json → List Value
  | [] => []
  | j :: rest => j.toValue :: Wire.Json.toValues rest

/-- The entries of a dictionary that stands for an object. -/
def Wire.Json.toEntries : List (String × Json) → List (Value × Value)
  | [] => []
  | (name, j) :: rest => (.text name, j.toValue) :: Wire.Json.toEntries rest
end

/-- The last entry of a name. -/
def lastOf? {α : Type} (name : String) (entries : List (String × α)) : Option α :=
  entries.reverse.lookup name

namespace Kind

/-- The value of a field that is left out. -/
def default? (k : Kind) : Option Value :=
  k.literal?.map .text

mutual
/-- Reads a value of the kind. -/
def ofJson? : Kind → Json → Option Value
  | .any, j => some j.toValue
  | .nothing, .null => some .none
  | .bool, .bool b => some (.bool b)
  | .bool, .int n => (Lenient.boolOfInt? n).map .bool
  | .bool, .float x => ((Lenient.intOfFloat? x).bind Lenient.boolOfInt?).map .bool
  | .bool, .text s => (Lenient.boolOfText? s).map .bool
  | .int, .int n => some (.int n)
  | .int, .bool b => some (.int (if b then 1 else 0))
  | .int, .float x => (Lenient.intOfFloat? x).map .int
  | .int, .text s => (Lenient.intOfText? s).map .int
  | .float, .float x => some (.float x)
  -- every whole number is taken for a float, however large
  | .float, .int n => some (.float (.ofInt n))
  | .float, .bool b => some (.float (.ofInt (if b then 1 else 0)))
  | .float, .text s => (Lenient.floatOfText? s).map .float
  | .text, .text s => some (.text s)
  | .literal s, .text s' => if s == s' then some (.text s) else none
  | .list k, .array items => (items.mapM fun j => k.ofJson? j).map .list
  | .dict k, .object members => do
    let entries ← members.mapM fun (name, j) => (k.ofJson? j).map fun v => (Value.text name, v)
    return Value.ofEntries entries
  | .optional _, .null => some .none
  | .optional k, j => k.ofJson? j
  | .record shape fields, .object members =>
    (fieldsOfJson? fields members).map (.record shape)
  | .choice tag shapes, .object members =>
    -- of names that are repeated the last one counts
    match lastOf? tag members with
    | some (.text s) => shapeOfJson? tag s members shapes
    | _ => none
  | _, _ => none

/-- Reads the fields of a record. -/
def fieldsOfJson? : List (String × Kind) → List (String × Json) →
    Option (List (String × Value))
  | [], _ => some []
  | (name, k) :: rest, members => do
    let value ← match lastOf? name members with
      | some j => k.ofJson? j
      | none => k.default?
    let later ← fieldsOfJson? rest members
    return (name, value) :: later

/-- Reads a record of the shape whose tag admits the given text. -/
def shapeOfJson? (tag text : String) (members : List (String × Json)) :
    List (String × List (String × Kind)) → Option Value
  | [] => none
  | (shape, fields) :: rest =>
    if (fields.lookup tag).bind literal? == some text then
      (fieldsOfJson? fields members).map (.record shape)
    else shapeOfJson? tag text members rest
end

/-- The items of a value that can stand for a list. -/
def itemsOf? : Value → Option (List Value)
  | .list items => some items
  | .tuple items => some items
  | .set _ items => some items
  | _ => none

/-- The text that some bytes encode. -/
def textOfBytes? (octets : List Nat) : Option String :=
  String.fromUTF8? (ByteArray.mk (octets.map UInt8.ofNat).toArray)

/-- The text of a value that can stand for a text. -/
def textOf? : Value → Option String
  | .text s => some s
  | .bytes octets => textOfBytes? octets
  | _ => none

/-- The entries of a dictionary whose keys are texts; others are passed over. -/
def namedEntries (entries : List (Value × Value)) : List (String × Value) :=
  entries.filterMap fun (k, v) => match k with
    | .text s => some (s, v)
    | _ => none

/-- The whole number that a value can stand for. -/
def intOf? (v : Value) : Option Int :=
  match v with
  | .float x => Lenient.intOfFloat? x
  | v => match v.whole? with
    | some n => some n
    | none => (textOf? v).bind Lenient.intOfText?

mutual
/-- A value of the kind that the given one can stand for. -/
def ofValue? : Kind → Value → Option Value
  | .any, v => some v
  | .nothing, .none => some .none
  | .bool, .bool b => some (.bool b)
  | .bool, v => match textOf? v with
    | some s => (Lenient.boolOfText? s).map .bool
    | none => ((intOf? v).bind Lenient.boolOfInt?).map .bool
  | .int, v => (intOf? v).map .int
  | .float, .float x => some (.float x)
  | .float, v => match v.whole? with
    | some n => some (.float (.ofInt n))
    | none => ((textOf? v).bind Lenient.floatOfText?).map .float
  | .text, v => (textOf? v).map .text
  | .literal s, .text s' => if s == s' then some (.text s) else none
  | .list k, v => do
    let items ← itemsOf? v
    return .list (← items.mapM fun x => k.ofValue? x)
  | .dict k, .dict entries => do
    let checked ← entries.mapM fun (name, x) => do
      let s ← textOf? name
      return (Value.text s, ← k.ofValue? x)
    return Value.ofEntries checked
  | .optional _, .none => some .none
  | .optional k, v => k.ofValue? v
  | .record shape fields, v => match v with
    -- a record that is one already is not checked again
    | .record given values => if given == shape then some (.record given values) else none
    | .dict entries => (fieldsOfValues? fields (namedEntries entries)).map (.record shape)
    | _ => none
  | .choice tag shapes, v => match v with
    | .record given values =>
      if shapes.any (fun s => s.1 == given) then some (.record given values) else none
    | .dict entries => match lastOf? tag (namedEntries entries) with
      | some (.text s) => shapeOfValues? tag s (namedEntries entries) shapes
      | _ => none
    | _ => none
  | _, _ => none

/-- Checks the fields of a record. -/
def fieldsOfValues? : List (String × Kind) → List (String × Value) →
    Option (List (String × Value))
  | [], _ => some []
  | (name, k) :: rest, given => do
    let value ← match lastOf? name given with
      | some v => k.ofValue? v
      | none => k.default?
    let later ← fieldsOfValues? rest given
    return (name, value) :: later

/-- Builds a record of the shape whose tag admits the given text. -/
def shapeOfValues? (tag text : String) (given : List (String × Value)) :
    List (String × List (String × Kind)) → Option Value
  | [] => none
  | (shape, fields) :: rest =>
    if (fields.lookup tag).bind literal? == some text then
      (fieldsOfValues? fields given).map (.record shape)
    else shapeOfValues? tag text given rest
end

/-- Builds a record from its fields by name. -/
def build? (k : Kind) (given : List (String × Value)) : Option Value :=
  match k with
  | .record shape fields => (fieldsOfValues? fields given).map (.record shape)
  | _ => none

end Kind

end Waymark

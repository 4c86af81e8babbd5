import Waymark.Value.Kind
import Waymark.Value.Reading
import Waymark.Value.Text
import Waymark.Wire.Json

/-! # Writing values

    `Kind.toJson` is the document for a value of a kind, and `Value.toJson` the document
    for a value of which no more is known.

    A value that is not of the kind is written as if nothing were known of it: kinds
    decide how a value is written, and do not check it. What has no written form at all
    is a fault.
-/

namespace Waymark

open Waymark.Wire (Json)

/-- Why a value cannot be written. -/
inductive WriteFault where
  /-- Values of the type have no written form. -/
  | unwritable (typeName : String)
  /-- The kind itself has none. -/
  | unwritableKind
  /-- Bytes that encode no text. -/
  | undecodable
  /-- A whole number beyond all fractional ones, where one of these is called for. -/
  | oversized
  /-- Values of the type cannot name a member of an object. -/
  | unnameable (typeName : String)
  deriving Repr, DecidableEq

/-- The wording of a fault. -/
def WriteFault.message : WriteFault → String
  | .unwritable typeName => "values of type " ++ typeName ++ " have no written form"
  | .unwritableKind => "values of this kind have no written form"
  | .undecodable => "bytes that encode no text"
  | .oversized => "int too large to convert to float"
  | .unnameable typeName => "`" ++ typeName ++ "` not valid as object key"

/-- The text of some bytes. -/
def writtenBytes (octets : List Nat) : Except WriteFault String :=
  match Kind.textOfBytes? octets with
  | some s => .ok s
  | none => .error .undecodable

/-- The number that a whole one is nearest to. What is beyond all numbers stays whole if
    that is allowed. -/
def writtenFloat (keepsLarge : Bool) (n : Int) : Except WriteFault Json :=
  let x := Decimal.Binary64.ofInt n
  if x.isFinite then .ok (.float x) else if keepsLarge then .ok (.int n) else .error .oversized

namespace Value

mutual
/-- The member name that a key of a dictionary stands for. -/
def memberName : Value → Except WriteFault String
  | .none => .ok "None"
  | .bool b => .ok (if b then "true" else "false")
  | .int n => .ok (toString n)
  | .float x => .ok (numberLayout.render x)
  | .text s => .ok s
  | .bytes octets => writtenBytes octets
  | .tuple items => do return ",".intercalate (← memberNames items)
  | .node ref serial fields => .ok (Value.node ref serial fields).shown
  | .list _ => .error (.unnameable "list")
  | .set .mutable _ => .error (.unnameable "set")
  | .set .frozen _ => .error (.unnameable "frozenset")
  | .dict _ => .error (.unnameable "dict")
  | v => .error (.unwritable v.typeName)

/-- The member names that the items of a key stand for. -/
def memberNames : List Value → Except WriteFault (List String)
  | [] => .ok []
  | v :: rest => do return (← v.memberName) :: (← memberNames rest)
end

mutual
/-- The document for a value. Numbers that are not finite are written as null. -/
def toJson : Value → Except WriteFault Json
  | .none => .ok .null
  | .bool b => .ok (.bool b)
  | .int n => .ok (.int n)
  | .float x => .ok (if x.isFinite then .float x else .null)
  | .text s => .ok (.text s)
  | .bytes octets => do return .text (← writtenBytes octets)
  | .list items => do return .array (← toJsonItems items)
  | .tuple items => do return .array (← toJsonItems items)
  | .set _ items => do return .array (← toJsonItems items)
  | .dict entries => do return .object (← toJsonEntries entries)
  | .record _ fields => do return .object (← toJsonFields fields)
  | .node _ _ fields => do return .object (← toJsonFields fields)
  | v => .error (.unwritable v.typeName)

/-- The documents for some values. -/
def toJsonItems : List Value → Except WriteFault (List Json)
  | [] => .ok []
  | v :: rest => do return (← v.toJson) :: (← toJsonItems rest)

/-- The members for the entries of a dictionary. -/
def toJsonEntries : List (Value × Value) → Except WriteFault (List (String × Json))
  | [] => .ok []
  | (k, v) :: rest => do
    let name ← k.memberName
    return (name, ← v.toJson) :: (← toJsonEntries rest)

/-- The members for fields. -/
def toJsonFields : List (String × Value) → Except WriteFault (List (String × Json))
  | [] => .ok []
  | (name, v) :: rest => do return (name, ← v.toJson) :: (← toJsonFields rest)
end

end Value

namespace Kind

mutual
/-- The document for a value of the kind. -/
def write (keepsLarge : Bool) : Kind → Value → Except WriteFault Json
  | .int, .bool b => .ok (.int (if b then 1 else 0))
  | .float, .float x => .ok (.float x)
  | .float, .int n => writtenFloat keepsLarge n
  | .float, .bool b => writtenFloat keepsLarge (if b then 1 else 0)
  | .list k, .list items => do return .array (← items.mapM fun v => k.write keepsLarge v)
  | .dict k, .dict entries => do
    return .object (← entries.mapM fun (key, v) => do
      let name ← key.memberName
      return (name, ← k.write keepsLarge v))
  | .optional k, v => if v.isNone then .ok .null else k.write keepsLarge v
  | .record shape fields, .record given values =>
    -- a record of another shape is written as it is
    if given == shape then return .object (← writeFields keepsLarge fields values)
    else (Value.record given values).toJson
  | .choice _ shapes, .record given values => writeShape keepsLarge shapes given values
  | _, v => v.toJson

/-- The members for the fields of a record. -/
def writeFields (keepsLarge : Bool) : List (String × Kind) → List (String × Value) →
    Except WriteFault (List (String × Json))
  | [], _ => .ok []
  | (name, k) :: rest, values => do
    let member ← k.write keepsLarge ((values.lookup name).getD .none)
    return (name, member) :: (← writeFields keepsLarge rest values)

/-- The document for a record of one of several shapes. -/
def writeShape (keepsLarge : Bool) : List (String × List (String × Kind)) → String →
    List (String × Value) → Except WriteFault Json
  | [], given, values => (Value.record given values).toJson
  | (shape, fields) :: rest, given, values =>
    if given == shape then return .object (← writeFields keepsLarge fields values)
    else writeShape keepsLarge rest given values
end

/-- The document for a value of the kind. With `keepsLarge`, whole numbers beyond all
    fractional ones stay whole where a fractional one is called for. -/
def toJson (k : Kind) (v : Value) (keepsLarge : Bool := false) : Except WriteFault Json :=
  if k.isWritable then k.write keepsLarge v else .error .unwritableKind

end Kind

end Waymark

import Waymark.Decimal.Binary64
import Waymark.Wire.Json

/-! # Values

    What fields of endpoints, parameters, results and errors hold: plain data, records of
    a known shape, nodes of an API and its classes.

    Two values may be equal without being the same: truth values and numbers of both
    kinds compare by magnitude, sets and dictionaries without regard to order, nodes by
    class and fields. An object whose contents are private equals only itself
    (`Value.equals`).
-/

namespace Waymark

open Waymark.Decimal (Binary64)

/-- A class by name. Two classes of one name are told apart by their serial numbers. -/
structure ClassRef where
  serial : Nat
  module : String
  qualname : String
  /-- The class that it is an instance of. -/
  metaclass : String := "type"
  deriving Repr, DecidableEq

/-- The class name without the classes around it. -/
def ClassRef.name (c : ClassRef) : String :=
  String.ofList ((c.qualname.toList.reverse.takeWhile (· != '.')).reverse)

/-- The module whose classes records are instances of. -/
def recordModule : String := "descriptors.orders_api"

/-- The two kinds of set. -/
inductive SetKind where
  | mutable
  | frozen
  deriving Repr, DecidableEq

/-- A value. -/
inductive Value where
  | none
  | bool (b : Bool)
  | int (n : Int)
  | float (x : Binary64)
  | text (s : String)
  | bytes (octets : List Nat)
  | list (items : List Value)
  | tuple (items : List Value)
  | set (kind : SetKind) (items : List Value)
  | dict (entries : List (Value × Value))
  /-- A record of the named shape. -/
  | record (shape : String) (fields : List (String × Value))
  /-- An object whose contents only its text shows. -/
  | sealed (serial : Nat) (content : Value)
  | cls (ref : ClassRef)
  /-- An instance of a class with fields. -/
  | node (ref : ClassRef) (serial : Nat) (fields : List (String × Value))
  /-- An instance of a class without fields. -/
  | inert (ref : ClassRef) (serial : Nat)

namespace Value

/-- The name of a value's type. -/
def typeName : Value → String
  | .none => "NoneType"
  | .bool _ => "bool"
  | .int _ => "int"
  | .float _ => "float"
  | .text _ => "str"
  | .bytes _ => "bytes"
  | .list _ => "list"
  | .tuple _ => "tuple"
  | .set .mutable _ => "set"
  | .set .frozen _ => "frozenset"
  | .dict _ => "dict"
  | .record shape _ => shape
  | .sealed .. => "Plain"
  | .cls ref => ref.metaclass
  | .node ref .. => ref.qualname
  | .inert ref _ => ref.qualname

/-- The whole number that a truth value or a whole number counts as. -/
def whole? : Value → Option Int
  | .bool b => some (if b then 1 else 0)
  | .int n => some n
  | _ => Option.none

mutual
/-- Equality of values. -/
def equals : Value → Value → Bool
  | .none, .none => true
  | .text s, .text s' => s == s'
  | .bytes o, .bytes o' => o == o'
  | .list xs, .list ys => equalItems xs ys
  | .tuple xs, .tuple ys => equalItems xs ys
  | .set _ xs, .set _ ys => xs.length == ys.length && allMembers xs ys
  | .dict xs, .dict ys => xs.length == ys.length && allEntries xs ys
  | .record n xs, .record n' ys => n == n' && equalFields xs ys
  | .sealed i _, .sealed j _ => i == j
  | .cls c, .cls c' => c == c'
  | .node c i xs, .node c' j ys => i == j || (c == c' && equalFields xs ys)
  | .inert _ i, .inert _ j => i == j
  | .float x, .float y => x.equals y
  | .float x, v => v.whole?.isSome && v.whole? == x.toInt?
  | v, .float y => v.whole?.isSome && v.whole? == y.toInt?
  | v, w => v.whole?.isSome && v.whole? == w.whole?

/-- Equality item by item. -/
def equalItems : List Value → List Value → Bool
  | [], [] => true
  | x :: xs, y :: ys => x.equals y && equalItems xs ys
  | _, _ => false

/-- Does every item equal one of the others? -/
def allMembers : List Value → List Value → Bool
  | [], _ => true
  | x :: xs, ys => ys.any (fun y => x.equals y) && allMembers xs ys

/-- Does every entry equal one of the others? -/
def allEntries : List (Value × Value) → List (Value × Value) → Bool
  | [], _ => true
  | (k, v) :: xs, ys => ys.any (fun e => k.equals e.1 && v.equals e.2) && allEntries xs ys

/-- Equality field by field. -/
def equalFields : List (String × Value) → List (String × Value) → Bool
  | [], [] => true
  | (n, x) :: xs, (n', y) :: ys => n == n' && x.equals y && equalFields xs ys
  | _, _ => false
end

instance : BEq Value := ⟨equals⟩

/-- A dictionary: an entry whose key is there already changes that one's value. -/
def ofEntries (entries : List (Value × Value)) : Value :=
  .dict (Wire.mergeMembers entries)

/-- A set: an item that is there already adds nothing. -/
def ofMembers (kind : SetKind) (items : List Value) : Value :=
  .set kind (items.foldl (fun xs x => if xs.contains x then xs else xs ++ [x]) [])

/-- Is the value none? -/
def isNone : Value → Bool
  | .none => true
  | _ => false

end Value

end Waymark

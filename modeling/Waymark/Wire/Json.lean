import Waymark.Decimal.Shortest
import Waymark.Text.Quoted

/-! # JSON documents

    Bodies of requests and replies are JSON documents. Whole numbers and fractional ones
    are told apart, and the members of an object keep their order.

    `Json.render` writes a document on one line without blanks. Only what the format
    cannot hold is escaped in texts. How fractional numbers are laid out is left to the
    caller (`Decimal.Layout`).
-/

namespace Waymark.Wire

open Waymark.Decimal (Binary64 Layout)

/-- A JSON document. -/
inductive Json where
  | null
  | bool (b : Bool)
  | int (n : Int)
  | float (x : Binary64)
  | text (s : String)
  | array (items : List Json)
  | object (members : List (String × Json))
  deriving Inhabited

namespace Json

/-- How a character is written in a text. -/
def escapeChar (c : Char) : List Char :=
  if c == '"' then ['\\', '"']
  else if c == '\\' then ['\\', '\\']
  else if c == '\n' then ['\\', 'n']
  else if c == '\r' then ['\\', 'r']
  else if c == '\t' then ['\\', 't']
  else if c.toNat == 8 then ['\\', 'b']
  else if c.toNat == 12 then ['\\', 'f']
  else if c.toNat < 32 then '\\' :: 'u' :: Text.hexDigits 4 c.toNat
  else [c]

/-- A text between double quotes. -/
def renderText (s : String) : String :=
  String.ofList ('"' :: s.toList.flatMap escapeChar ++ ['"'])

mutual
/-- The document as text. -/
def render (layout : Layout) : Json → String
  | .null => "null"
  | .bool b => if b then "true" else "false"
  | .int n => toString n
  | .float x => layout.render x
  | .text s => renderText s
  | .array items => "[" ++ ",".intercalate (renderItems layout items) ++ "]"
  | .object members => "\x7b" ++ ",".intercalate (renderMembers layout members) ++ "\x7d"

/-- The items of an array as texts. -/
def renderItems (layout : Layout) : List Json → List String
  | [] => []
  | j :: rest => j.render layout :: renderItems layout rest

/-- The members of an object as texts. -/
def renderMembers (layout : Layout) : List (String × Json) → List String
  | [] => []
  | (name, j) :: rest =>
    (renderText name ++ ":" ++ j.render layout) :: renderMembers layout rest
end

mutual
/-- Are all numbers finite? The format has no others. -/
def isFinite : Json → Bool
  | .float x => x.isFinite
  | .array items => areFinite items
  | .object members => areFiniteMembers members
  | _ => true

/-- Are all numbers of the items finite? -/
def areFinite : List Json → Bool
  | [] => true
  | j :: rest => j.isFinite && areFinite rest

/-- Are all numbers of the members finite? -/
def areFiniteMembers : List (String × Json) → Bool
  | [] => true
  | (_, j) :: rest => j.isFinite && areFiniteMembers rest
end

mutual
/-- The document with null for every number that is not finite. -/
def finite : Json → Json
  | .float x => if x.isFinite then .float x else .null
  | .array items => .array (finiteItems items)
  | .object members => .object (finiteMembers members)
  | j => j

/-- The items with null for every number that is not finite. -/
def finiteItems : List Json → List Json
  | [] => []
  | j :: rest => j.finite :: finiteItems rest

/-- The members with null for every number that is not finite. -/
def finiteMembers : List (String × Json) → List (String × Json)
  | [] => []
  | (name, j) :: rest => (name, j.finite) :: finiteMembers rest
end

end Json

/-- Puts a member into an object: a name that is there keeps its place and takes the new
    value. -/
def putMember {α β : Type} [BEq α] (name : α) (value : β) : List (α × β) → List (α × β)
  | [] => [(name, value)]
  | (n, v) :: rest =>
    if n == name then (n, value) :: rest else (n, v) :: putMember name value rest

/-- Lists members so that each name occurs once, at its first place with its last value. -/
def mergeMembers {α β : Type} [BEq α] (members : List (α × β)) : List (α × β) :=
  members.foldl (fun merged (name, value) => putMember name value merged) []

namespace Json

mutual
/-- The document with every object's members merged by name. -/
def merged : Json → Json
  | .array items => .array (mergedItems items)
  | .object members => .object (mergeMembers (mergedMembers members))
  | j => j

/-- The items with every object's members merged by name. -/
def mergedItems : List Json → List Json
  | [] => []
  | j :: rest => j.merged :: mergedItems rest

/-- The members with every object's members merged by name. -/
def mergedMembers : List (String × Json) → List (String × Json)
  | [] => []
  | (name, j) :: rest => (name, j.merged) :: mergedMembers rest
end

end Json

end Waymark.Wire

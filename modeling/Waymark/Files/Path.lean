import Waymark.Text.Ranges

/-! # Paths

    A path is the names between its slashes. Empty names and single dots do not count;
    two dots lead up. A path that begins with a slash starts at the root of all files, and
    any other one where the program runs. Names and paths have a greatest length.

    A place is the list of names on the way down from the root. Without links between
    directories, every path leads to one place (`Path.resolve`).
-/

namespace Waymark.Files

/-- The names on the way from the root to a file or directory. -/
abbrev Place : Type := List String

/-- The name that leads to the directory above. -/
def upward : String := ".."

/-- The greatest length of a name, in bytes. -/
def maxNameBytes : Nat := 255

/-- The greatest length of a path, in bytes. -/
def maxPathBytes : Nat := 4095

/-- Is it too long for the name of a file? -/
def isLongName (name : String) : Bool :=
  maxNameBytes < name.utf8ByteSize

/-- A path. -/
structure Path where
  /-- The slashes in front: none, one or two. -/
  root : String := ""
  names : List String
  deriving Repr, DecidableEq

namespace Path

/-- The slashes in front of a text that count: two only if there are exactly two. -/
def rootOf (cs : List Char) : String :=
  match (cs.takeWhile (· == '/')).length with
  | 0 => ""
  | 2 => "//"
  | _ => "/"

/-- Reads a path. Every text is one. -/
def ofText (s : String) : Path where
  root := rootOf s.toList
  names := ((Text.splitWhere (· == '/') s.toList).map String.ofList).filter
    fun name => name != "" && name != "."

/-- The path as text. -/
def text (p : Path) : String :=
  if p.root == "" && p.names.isEmpty then "." else p.root ++ "/".intercalate p.names

/-- Is the path too long to be followed? -/
def isLong (p : Path) : Bool :=
  maxPathBytes < p.text.utf8ByteSize

/-- Is the null character in the path? -/
def hasNull (p : Path) : Bool :=
  p.names.any fun name => name.toList.contains '\x00'

/-- The path of something in the directory at the path. -/
def child (p : Path) (name : String) : Path :=
  { p with names := p.names ++ [name] }

/-- The path of the directory above, if one is named. -/
def parent? (p : Path) : Option Path :=
  if p.names.isEmpty then none else some { p with names := p.names.dropLast }

/-- Where the path starts, for a program that runs at the given place. -/
def start (p : Path) (current : Place) : Place :=
  if p.root == "" then current else []

/-- One step on the way: down to a name, or up. -/
def step (place : Place) (name : String) : Place :=
  if name == upward then place.dropLast else place ++ [name]

/-- The place that a path leads to, whether there is anything or not. -/
def resolve (p : Path) (current : Place) : Place :=
  p.names.foldl step (p.start current)

/-- The path that leads to a place from anywhere. -/
def ofPlace (place : Place) : Path where
  root := "/"
  names := place

/-- A tilde in front stands for the home directory. Homes of others are not known. -/
def expandHome? (home : Option Place) (p : Path) : Option Path :=
  match p.root, p.names with
  | "", name :: rest =>
    if name == "~" then home.map fun place => ofPlace (place ++ rest)
    else if name.toList.head? == some '~' then none
    else some p
  | _, _ => some p

theorem resolve_child (p : Path) (current : Place) (name : String) :
    (p.child name).resolve current = step (p.resolve current) name := by
  simp [resolve, child, start]

end Path

end Waymark.Files

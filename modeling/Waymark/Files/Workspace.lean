import Waymark.Files.Tree
import Waymark.Text.Identifier

/-! # Workspaces

    A workspace is the files that a run can see and the place where it happens. A module
    of a dotted name is looked for below some directories in their order: first as a file
    of its own, then as a package.
-/

namespace Waymark.Files

/-- What a run goes by: the files, the place where it happens and the home directory. Then
    there is what is said about a source that does not parse, and the width of the screen. -/
structure Workspace where
  files : Tree
  current : Place := []
  home : Option Place := none
  complaint : String → String := fun _ => "invalid syntax"
  width : Nat := 80

/-- Why a path leads nowhere at all. -/
inductive PathFault where
  /-- It begins with a home directory that is not known. -/
  | noHome
  /-- The null character is in it. -/
  | null
  | file (fault : FileFault)
  deriving Repr, DecidableEq

/-- What is said about such a path. -/
def PathFault.message : PathFault → String
  | .noHome => "Could not determine home directory."
  | .null => "embedded null byte"
  | .file fault => fault.message

/-- Where the source of a module was found. -/
structure ModuleFile where
  module : String
  place : Place
  isPackage : Bool
  deriving Repr, DecidableEq

/-- The path of a source. -/
def ModuleFile.path (s : ModuleFile) : Path :=
  .ofPlace s.place

namespace Workspace

/-- A path with the home directory for a tilde in front. -/
def expand (w : Workspace) (p : Path) : Except PathFault Path :=
  match p.expandHome? w.home with
  | some p => .ok p
  | none => .error .noHome

/-- The place that a path leads to. -/
def resolve (w : Workspace) (p : Path) : Except PathFault Place := do
  let p ← w.expand p
  if p.hasNull then throw .null
  return p.resolve w.current

/-- The files with a directory that is made, and those above it, unless they exist. -/
def makeDirectories (w : Workspace) (p : Path) : Except PathFault Tree :=
  if p.hasNull then .error .null
  else (w.files.makeDirectories w.current p).mapError .file

/-- The places where the source of a module may be below a directory, the first choice
    first. -/
def candidates (base : Place) (module : String) (names : List String) : List ModuleFile :=
  [{ module, place := base ++ names.dropLast ++ [names.getLastD "" ++ ".py"], isPackage := false },
    { module, place := base ++ names ++ ["__init__.py"], isPackage := true }]

/-- The first of some candidates that is there. -/
def firstFile (w : Workspace) : List ModuleFile → Except PathFault (Option ModuleFile)
  | [] => .ok none
  | s :: rest => do
    if ← (w.files.askAt s.place (w.files.isFileAt s.place)).mapError .file then return some s
    else w.firstFile rest

/-- Looks below some directories. -/
def searchModule (w : Workspace) (module : String) :
    List Path → Except PathFault (Option ModuleFile)
  | [] => .ok none
  | p :: rest => do
    let base ← w.resolve p
    match ← w.firstFile (candidates base module (Text.dottedParts module)) with
    | some s => return some s
    | none => w.searchModule module rest

/-- The source of a module, if its name is a dotted name and there is one. -/
def findModule (w : Workspace) (module : String) (search : List Path) :
    Except PathFault (Option ModuleFile) :=
  if Text.isDottedName module then w.searchModule module search else .ok none

end Workspace

end Waymark.Files

import Waymark.CommandLine.Execution
import Waymark.CommandLine.Footprint
import Waymark.Settings.Environment

/-! # The program

    Reads the settings and the files that a command looks at, carries the command out, and
    writes what is new. All decisions are made by the library.
-/

namespace Waymark.Program

open Waymark.Files (Place Tree Node Path Workspace)

/-- The code of the system for reading a directory as a file. -/
def directoryCode : UInt32 := 21

/-- What stands at a place. -/
def probe (place : Place) : IO (Option Node) := do
  try
    return some (.file (← IO.FS.readBinFile (Path.ofPlace place).text))
  catch
    | .inappropriateType _ code _ => return if code == directoryCode then some .directory else none
    | _ => return none

/-- Reads what stands at some places. -/
def look (places : List Place) : IO Tree :=
  places.foldlM (fun t place => do
    if place.isEmpty then return t
    match ← probe place with
    | some node => return t.plant place node
    | none => return t) {}

/-- Makes what is new. -/
def store (nodes : List (Place × Node)) : IO Unit :=
  nodes.forM fun (place, node) =>
    let path := (Path.ofPlace place).text
    match node with
    | .directory => IO.FS.createDirAll path
    | .file octets => IO.FS.writeBinFile path octets

/-- The environment variables that settings are read from. -/
def environment : IO (List (String × String)) := do
  let names := Setting.all.flatMap fun setting =>
    let name := Settings.mark ++ setting.name
    [name, name.map Char.toUpper]
  let found ← names.mapM fun name => do return (← IO.getEnv name).map fun value => (name, value)
  return found.filterMap id

/-- The place that a variable names. -/
def placeIn (name : String) : IO (Option Place) := do
  return (← IO.getEnv name).map fun s => (Path.ofText s).resolve []

/-- The width of the screen: what the variable for it says, or the usual one. -/
def screenWidth : IO Nat := do
  return ((← IO.getEnv "COLUMNS").bind String.toNat?).getD 80

/-- The text of the file of variables where the program runs. -/
def envFile : IO (Option String) := do
  try
    return some (← IO.FS.readFile ".env")
  catch
    | _ => return none

/-- What is said when a command breaks off. -/
def complaint : CommandLine.Breakage → String
  | .level fault => fault.message
  | .run fault => fault.message.getD "a file cannot be read"
  | .markup fault => fault.message

/-- What is said when a command line is not understood. -/
def usage : String :=
  "usage: [--log-level LEVEL] generate ROOT... --out DIR [--src DIR]... [--transport MODULE]\n"
    ++ "       [--log-level LEVEL] check ROOT... [--src DIR]...\n"
    ++ "       [--log-level LEVEL] tree ROOT [--src DIR]... [--format tree|json]"

/-- Carries out a command line. -/
def run (settings : Settings) (words : List String) : IO UInt32 := do
  let current := (← placeIn "PWD").getD []
  let home ← placeIn "HOME"
  let bare : Workspace := { files := {}, current, home, width := ← screenWidth }
  let files ← look (current :: CommandLine.footprint bare settings words)
  let effect := CommandLine.runWords { bare with files } settings words
  store (files.added effect.files)
  effect.output.forM fun line => IO.println line
  effect.errors.forM fun line => IO.eprintln line
  match effect.ending with
  | .refused => IO.eprintln usage
  | .broken why => IO.eprintln (complaint why)
  | .done _ => pure ()
  return UInt32.ofNat effect.ending.exitCode

end Waymark.Program

/-- Reads the settings and carries out the command line. -/
def main (words : List String) : IO UInt32 := do
  match Waymark.Settings.ofEnvironment (← Waymark.Program.environment) (← Waymark.Program.envFile) with
  | .ok settings => Waymark.Program.run settings words
  | .error _ =>
    IO.eprintln "the settings cannot be read"
    return 1

import Waymark.Client.Compilation
import Waymark.Client.Source
import Waymark.Descriptor.Reading
import Waymark.Files.Workspace
import Waymark.RootLabel
import Waymark.Settings.Basic

/-! # Generation

    A run reads the modules of some roots, compiles the roots together and writes a client
    module for each. What is wrong with a root is reported, and the other roots are still
    generated.

    * Roots are named by labels. A label that is given twice counts once, and a module is
      read once however many of its roots are asked for.
    * A client module that stands in the output directory already is left alone.
    * `check` does the same without writing.
-/

namespace Waymark

open Waymark.Files (Path Place Tree Workspace FileFault PathFault ModuleFile)

/-- Why a run ends without a result. -/
inductive RunFault where
  /-- Modules are to be written, but it is not said where. -/
  | noOutput
  | path (fault : PathFault)
  /-- A file is not encoded in UTF-8. -/
  | undecodable
  | source (fault : ReadFault)
  | client (fault : Client.SourceFault)
  | file (fault : FileFault)
  deriving Repr, DecidableEq

/-- What is said about a run without a result; for a few faults nothing. -/
def RunFault.message : RunFault → Option String
  | .noOutput => some "out_dir is required when writing output"
  | .path fault => some fault.message
  | .undecodable => none
  | .source fault => fault.message
  | .client fault => some fault.message
  | .file fault => some fault.message

/-- What may end without a result. -/
abbrev Run (α : Type) : Type := Except RunFault α

/-! ### Reading modules -/

namespace Descriptor

/-- Reported when a file cannot be read. -/
def unreadable (module : String) (p : Path) (fault : FileFault) : Diagnostic :=
  .error .configuration module ("cannot read " ++ p.text ++ ": " ++ fault.message)

/-- Reads a module from the bytes of its file. -/
def ofOctets (w : Workspace) (module : String) (isPackage : Bool) (octets : ByteArray) :
    Run (Report (Option Descriptor)) :=
  match Tree.textOf? octets with
  | none => .error .undecodable
  | some source => (ofSource module isPackage source (w.complaint source)).mapError .source

/-- Reads a module from a file. -/
def ofFile (w : Workspace) (p : Path) (module : String) (isPackage : Bool) :
    Run (Report (Option Descriptor)) :=
  match w.files.read w.current p with
  | .error fault => .ok { value := none, diagnostics := [unreadable module p fault] }
  | .ok octets => ofOctets w module isPackage octets

/-- Reported when a module is nowhere. -/
def notFound (module : String) (search : List Path) : Diagnostic :=
  let places := if search.isEmpty then "<none>" else ", ".intercalate (search.map Path.text)
  .error .configuration module ("module not found in source roots: " ++ places)

/-- Looks for a module and reads it. -/
def load (w : Workspace) (search : List Path) (module : String) :
    Run (Report (Option Descriptor)) := do
  match ← (w.findModule module search).mapError .path with
  | none => return { value := none, diagnostics := [notFound module search] }
  | some s => ofFile w s.path module s.isPackage

end Descriptor

namespace RootLabel

/-- Reported for a text that is no label. -/
def invalid (given : String) : Diagnostic :=
  .error .configuration given (refusal given)

/-- Reported when a module has no such root. -/
def noRoot (r : RootLabel) : Diagnostic :=
  .error .configuration r.text (r.name ++ " is not a top-level resource class in " ++ r.module)

/-- The label of a root that is to be compiled. -/
def ofRequest (r : RootRequest) : String :=
  r.scope.module ++ ":" ++ r.endpoint.name

/-- The label of a compiled root. -/
def ofClient (c : ClientRoot) : String :=
  c.module ++ ":" ++ c.root.name

end RootLabel

/-! ### Finding roots -/

/-- What is known of the roots while their modules are read. -/
structure Gathering where
  /-- The modules that were read, with their content if they have any. -/
  modules : List (String × Option Descriptor) := []
  requests : List RootRequest := []
  failed : List String := []
  diagnostics : List Diagnostic := []

namespace Gathering

/-- The labels among some texts, each once, and the texts that are none. -/
def labels : List String → List RootLabel × List String
  | [] => ([], [])
  | given :: rest =>
    let (later, invalid) := labels rest
    match RootLabel.parse? given with
    | some r => (r :: later.filter (· != r), invalid)
    | none => (later, given :: invalid)

/-- Reads a module unless it was read before. -/
def reading (w : Workspace) (search : List Path) (g : Gathering) (module : String) :
    Run (Option Descriptor × Gathering) :=
  match g.modules.lookup module with
  | some d => .ok (d, g)
  | none => do
    let r ← Descriptor.load w search module
    return (r.value, { g with
      modules := (module, r.value) :: g.modules
      diagnostics := g.diagnostics ++ r.diagnostics })

/-- Finds one root. -/
def add (w : Workspace) (search : List Path) (g : Gathering) (label : RootLabel) :
    Run Gathering := do
  let (descriptor, g) ← g.reading w search label.module
  match descriptor with
  | none => return { g with failed := g.failed ++ [label.text] }
  | some d =>
    match d.root? label.name with
    | none => return { g with
        failed := g.failed ++ [label.text], diagnostics := g.diagnostics ++ [label.noRoot] }
    | some e => return { g with
        requests := g.requests ++ [{ endpoint := e, scope := d.scope }] }

/-- Finds some roots. -/
def ofLabels (w : Workspace) (search : List Path) (labels : List RootLabel)
    (invalid : List String) : Run Gathering :=
  labels.foldlM (add w search)
    { failed := invalid, diagnostics := invalid.map RootLabel.invalid }

end Gathering

/-! ### Results -/

/-- What came of a run. -/
structure Generation where
  roots : List RootLabel
  outputs : List Client.ClientModule
  written : List Path := []
  unchanged : List Path := []
  failed : List String
  diagnostics : List Diagnostic
  out : Option Path := none
  /-- Was the run to write, or only to check? -/
  writes : Bool
  deriving Repr

namespace Generation

/-- Is nothing wrong but for warnings? -/
def isOk (g : Generation) : Bool :=
  !hasErrors g.diagnostics

/-- The labels of the requests for which there is no client. -/
def uncompiled (requests : List RootRequest) (clients : List ClientRoot) : List String :=
  let compiled := clients.map RootLabel.ofClient
  (requests.map RootLabel.ofRequest).filter fun label => !compiled.contains label

/-- Compiles the roots of some texts without writing anything. -/
def check (w : Workspace) (roots : List String) (search : List Path) (transport : String) :
    Run Generation := do
  let (labels, invalid) := Gathering.labels roots
  let g ← Gathering.ofLabels w search labels invalid
  let compiled := compileAll g.requests
  let outputs ← (compiled.value.mapM fun c => Client.generate c transport).mapError .client
  return {
    roots := labels
    outputs
    failed := g.failed ++ uncompiled g.requests compiled.value
    diagnostics := g.diagnostics ++ compiled.diagnostics
    writes := false }

/-! ### Writing -/

/-- Does a file hold the given text, line ends apart? -/
def holdsText (t : Tree) (current : Place) (p : Path) (text : String) : Run Bool := do
  if ← (t.isFile current p).mapError .file then
    match Tree.textOf? (← (t.read current p).mapError .file) with
    | none => throw .undecodable
    | some found => return found == text
  else return false

/-- Files, with the paths that were written to and those that were left alone. -/
structure Writing where
  files : Tree
  written : List Path := []
  unchanged : List Path := []

/-- Writes one module into a directory, unless it stands there. -/
def Writing.put (current : Place) (out : Path) (s : Writing) (m : Client.ClientModule) :
    Run Writing := do
  let p := out.child m.filename
  if ← holdsText s.files current p m.source then
    return { s with unchanged := s.unchanged ++ [p] }
  -- a file with another text is written over
  let files ← (s.files.write current p m.source.toUTF8).mapError .file
  return { s with files, written := s.written ++ [p] }

/-- Writes some modules into a directory. Handed back with the result are the files as
    they are afterwards: what was written before a fault stays. -/
def Writing.putAll (current : Place) (out : Path) (s : Writing) :
    List Client.ClientModule → Run Writing × Tree
  | [] => (.ok s, s.files)
  | m :: rest =>
    match s.put current out m with
    | .error fault => (.error fault, s.files)
    | .ok s => s.putAll current out rest

/-- Writes what was generated into a directory, which is made if it is missing. -/
def writeTo (w : Workspace) (out : Path) (g : Generation) : Run Generation × Tree :=
  match w.makeDirectories out with
  | .error fault => (.error (.path fault), w.files)
  | .ok files =>
    -- files that were written before a fault stay
    let (written, files) := Writing.putAll w.current out { files } g.outputs
    (written.map fun s => { g with
      written := s.written, unchanged := s.unchanged, out := some out, writes := true }, files)

/-- What a run is asked for. What is left out is taken from the settings. -/
structure Request where
  roots : List String
  out : Option Path := none
  search : Option (List Path) := none
  transport : Option String := none
  writes : Bool := true

/-- The directories that a request has modules looked for in. -/
def searchOf (settings : Settings) (given : Option (List Path)) : List Path :=
  given.getD (settings.sourceRoots.map Path.ofText)

/-- The transport module of a request. An empty name says nothing. -/
def transportOf (settings : Settings) (given : Option String) : String :=
  match given with
  | none => settings.transportModule
  | some name => if name.isEmpty then settings.transportModule else name

/-- The output directory of a request. One is needed for writing. -/
def outOf (w : Workspace) (r : Request) : Run (Option Path) :=
  match r.out with
  | some p => (w.expand p).map some |>.mapError .path
  | none => if r.writes then .error .noOutput else .ok none

/-- Compiles and prints what a request asks for, without writing. -/
def ofRequest (w : Workspace) (settings : Settings) (r : Request) : Run Generation := do
  let out ← outOf w r
  let g ← check w r.roots (searchOf settings r.search) (transportOf settings r.transport)
  return { g with out }

/-- Runs a request. Handed back with the result are the files as they are afterwards. -/
def run (w : Workspace) (settings : Settings) (r : Request) : Run Generation × Tree :=
  match ofRequest w settings r with
  | .error fault => (.error fault, w.files)
  | .ok g =>
    match g.out, r.writes with
    | some out, true => writeTo w out g
    | _, _ => (.ok g, w.files)

end Generation

/-! ### A single root -/

/-- Compiles the root of one text. -/
def ClientRoot.ofText (w : Workspace) (search : List Path) (given : String) :
    Run (Report (Option ClientRoot)) := do
  match RootLabel.parse? given with
  | none => return { value := none, diagnostics := [RootLabel.invalid given] }
  | some label =>
    let d ← Descriptor.load w search label.module
    match d.value with
    | none => return { value := none, diagnostics := d.diagnostics }
    | some descriptor =>
      match descriptor.root? label.name with
      | none => return { value := none, diagnostics := d.diagnostics ++ [label.noRoot] }
      | some e =>
        let compiled := compileAll [{ endpoint := e, scope := descriptor.scope }]
        return { value := compiled.value.head?, diagnostics := d.diagnostics ++ compiled.diagnostics }

end Waymark

import Waymark.CommandLine.Command
import Waymark.CommandLine.Screen
import Waymark.Settings.Basic

/-! # Carrying out commands

    A command is carried out on the files of a workspace. It ends with what is shown, the
    files as they are afterwards, and whether anything is wrong. It may also be refused,
    when the command line is not understood, or break off.
-/

namespace Waymark.CommandLine

open Waymark.Files (Path PathFault Tree Workspace)
open Waymark.Display (MarkupFault)

/-- Why a command breaks off. -/
inductive Breakage where
  | level (fault : LevelFault)
  | run (fault : RunFault)
  | markup (fault : MarkupFault)
  deriving Repr, DecidableEq

/-- How a command ends. -/
inductive Ending where
  /-- The command line is not understood. -/
  | refused
  | broken (why : Breakage)
  /-- All is shown; `isOk` if there are no errors. -/
  | done (isOk : Bool)
  deriving Repr, DecidableEq

/-- The exit code of an ending. -/
def Ending.exitCode : Ending → Nat
  | .refused => 2
  | .broken _ => 1
  | .done isOk => if isOk then 0 else 1

/-- What comes of a command. A log is kept beside it: what a run tells of itself at the levels
    `DEBUG` and `INFO` is not among the lines here. -/
structure Effect where
  files : Tree
  /-- The lines on the output. -/
  output : List String := []
  /-- The lines on the error output, without those of the log. -/
  errors : List String := []
  ending : Ending

namespace Effect

/-- Shows more, if it can be shown. -/
def showing (e : Effect) (lines : Except MarkupFault (List String))
    (next : List String → Effect → Effect) : Effect :=
  match lines with
  | .error fault => { e with ending := .broken (.markup fault) }
  | .ok lines => next lines e

/-- Adds lines to the output. -/
def print (lines : List String) (e : Effect) : Effect :=
  { e with output := e.output ++ lines }

/-- Shows diagnostics on the error output. -/
def report (width : Nat) (ds : List Diagnostic) (e : Effect) : Effect :=
  e.showing (diagnosticLines width ds) fun lines e =>
    { e with errors := e.errors ++ lines, ending := .done (!hasErrors ds) }

end Effect

/-- Ends a command over a path that cannot be looked at. -/
def broken {α : Type} (r : Except PathFault α) : Except Ending α :=
  r.mapError fun fault => .broken (.run (.path fault))

/-- The directories to look for modules in, if they are directories. -/
def sourcePaths (w : Workspace) (settings : Settings) (given : List String) :
    Except Ending (List Path) := do
  let places ← broken
    ((if given.isEmpty then settings.sourceRoots else given).mapM fun s => w.resolve (.ofText s))
  places.mapM fun place => do
    if ← broken ((w.files.askAt place (w.files.isDirectoryAt place)).mapError .file) then
      return .ofPlace place
    else throw .refused

/-- The output directory, unless something else stands there. -/
def outPath (w : Workspace) (given : String) : Except Ending Path := do
  let place ← broken (w.resolve (.ofText given))
  let free := (w.files.node? place).isNone || w.files.isDirectoryAt place
  if ← broken ((w.files.askAt place free).mapError .file) then return .ofPlace place
  else throw .refused

/-- Shows a result: a headline, the table of roots and the diagnostics. -/
def showGeneration (width : Nat) (files : Tree) (headline : String) (g : Generation) : Effect :=
  let start : Effect := { files, ending := .done g.isOk }
  start.showing (shownLines width ("[bold green]shapi[/bold green] " ++ headline)) fun lines e =>
    (e.print lines).showing (rootTable width g) fun lines e =>
      (e.print lines).report width g.diagnostics

/-- Carries out `generate`. -/
def generate (w : Workspace) (settings : Settings) (roots : List String) (out : String)
    (sources : List String) (transport : Option String) : Except Ending Effect := do
  let out ← outPath w out
  let search ← sourcePaths w settings sources
  let (result, files) := Generation.run w settings
    { roots, out := some out, search := some search, transport }
  match result with
  | .error fault => return { files, ending := .broken (.run fault) }
  | .ok g => return showGeneration w.width files ("generate -> " ++ out.text) g

/-- Carries out `check`. -/
def check (w : Workspace) (settings : Settings) (roots sources : List String) :
    Except Ending Effect := do
  let search ← sourcePaths w settings sources
  let (result, files) := Generation.run w settings { roots, search := some search, writes := false }
  match result with
  | .error fault => return { files, ending := .broken (.run fault) }
  | .ok g =>
    return showGeneration w.width files
      ("check: " ++ toString g.roots.length ++ " root(s)") g

/-- Carries out `tree`. -/
def tree (w : Workspace) (settings : Settings) (root : String) (sources : List String)
    (form : String) : Except Ending Effect := do
  match TreeForm.ofName? form with
  | none => throw .refused
  | some form =>
    let search ← sourcePaths w settings sources
    match ClientRoot.ofText w search root with
    | .error fault => throw (.broken (.run fault))
    | .ok r =>
      -- the diagnostics decide how the command ends, whatever is printed
      let start : Effect := { files := w.files, ending := .done (!hasErrors r.diagnostics) }
      let lines := match r.value with
        | some client => clientLines w.width form client
        | none => .ok []
      return start.showing lines fun lines e => (e.print lines).report w.width r.diagnostics

/-- Carries out a command. -/
def Command.run (w : Workspace) (settings : Settings) : Command → Except Ending Effect
  | .generate roots out sources transport =>
    CommandLine.generate w settings roots out sources transport
  | .check roots sources => CommandLine.check w settings roots sources
  | .tree root sources form => CommandLine.tree w settings root sources form

/-- The level of logging that is asked for. An empty name says nothing. -/
def chosenLevel (settings : Settings) (given : Option String) : Except LevelFault LogLevel :=
  match given with
  | none => LogLevel.ofWord settings.logLevel
  | some name => LogLevel.ofWord (if name.isEmpty then settings.logLevel else name)

/-- Carries out a command line. The level of logging is looked at before the rest of the
    command. -/
def runWords (w : Workspace) (settings : Settings) (words : List String) : Effect :=
  let ended (ending : Ending) : Effect := { files := w.files, ending }
  match Invocation.ofWords? words with
  | none => ended .refused
  | some i =>
    match chosenLevel settings i.level with
    | .error fault => ended (.broken (.level fault))
    | .ok _ =>
      match i.read i.words with
      | none => ended .refused
      | some command =>
        match command.run w settings with
        | .error ending => ended ending
        | .ok effect => effect

end Waymark.CommandLine

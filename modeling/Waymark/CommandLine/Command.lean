import Waymark.CommandLine.Options

/-! # Commands

    There are three commands. `generate` writes clients, `check` only tries to, and `tree`
    shows what one client is made of. The level of logging stands before the command.
-/

namespace Waymark.CommandLine

/-- A command with what it is told. -/
inductive Command where
  | generate (roots : List String) (out : String) (sources : List String)
      (transport : Option String)
  | check (roots : List String) (sources : List String)
  | tree (root : String) (sources : List String) (form : String)
  deriving Repr, DecidableEq

namespace Command

/-- The option for directories to look for modules in. -/
def sourceOption : OptionNames := ⟨["--src"]⟩

/-- The option for the output directory. -/
def outOption : OptionNames := ⟨["--out", "-o"]⟩

/-- The option for the transport module. -/
def transportOption : OptionNames := ⟨["--transport"]⟩

/-- The option for the form in which a tree is shown. -/
def formOption : OptionNames := ⟨["--format"]⟩

/-- The option for the level of logging. -/
def levelOption : OptionNames := ⟨["--log-level"]⟩

/-- The form in which a tree is shown unless another one is asked for. -/
def defaultForm : String := "tree"

/-- Reads the words after `generate`. -/
def generate? (words : List String) : Option Command := do
  let s ← Sorted.ofWords? [outOption, sourceOption, transportOption] false words
  let out ← s.last? outOption.key
  if s.operands.isEmpty then none
  return .generate s.operands out (s.all sourceOption.key) (s.last? transportOption.key)

/-- Reads the words after `check`. -/
def check? (words : List String) : Option Command := do
  let s ← Sorted.ofWords? [sourceOption] false words
  if s.operands.isEmpty then none
  return .check s.operands (s.all sourceOption.key)

/-- Reads the words after `tree`. -/
def tree? (words : List String) : Option Command := do
  let s ← Sorted.ofWords? [sourceOption, formOption] false words
  match s.operands with
  | [root] => return .tree root (s.all sourceOption.key) ((s.last? formOption.key).getD defaultForm)
  | _ => none

/-- The commands by name, with the readers of what follows them. -/
def readers : List (String × (List String → Option Command)) :=
  [("generate", generate?), ("check", check?), ("tree", tree?)]

end Command

/-- A command line up to the name of the command, with the reader of the rest. -/
structure Invocation where
  level : Option String
  read : List String → Option Command
  words : List String

/-- Reads a command line up to the name of the command. -/
def Invocation.ofWords? (words : List String) : Option Invocation := do
  let s ← Sorted.ofWords? [Command.levelOption] true words
  match s.operands with
  | [] => none
  | name :: words =>
    let read ← Command.readers.lookup name
    return { level := s.last? Command.levelOption.key, read, words }

end Waymark.CommandLine

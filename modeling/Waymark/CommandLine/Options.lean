/-! # Options

    The words of a command line are options and operands. An option has a value, which
    stands after an equals sign or is the next word. A short option, of one letter, may
    have its value right behind it. After a word of two dashes there are only operands.
-/

namespace Waymark.CommandLine

/-- The words that name an option. -/
structure OptionNames where
  names : List String
  deriving Repr, DecidableEq

namespace OptionNames

/-- Is the name a single letter after a dash? -/
def isShort (name : String) : Bool :=
  name.length == 2

/-- The name under which values are listed: the first. -/
def key (o : OptionNames) : String :=
  o.names.headD ""

end OptionNames

/-- The option of a long name. -/
def longOption? (known : List OptionNames) (name : String) : Option OptionNames :=
  known.find? fun o => o.names.any fun n => n == name && !OptionNames.isShort n

/-- The option of a letter. -/
def shortOption? (known : List OptionNames) (letter : Char) : Option OptionNames :=
  known.find? fun o => o.names.contains (String.ofList ['-', letter])

/-- A word of the command line. -/
inductive Word where
  /-- Only operands follow. -/
  | divider
  | operand
  /-- An option with its value, or one whose value is the next word. -/
  | option (o : OptionNames) (value : Option String)
  | unknown
  deriving Repr, DecidableEq

/-- What a word is that begins with a dash. -/
def optionWord (known : List OptionNames) (word : List Char) : Word :=
  let name := String.ofList (word.takeWhile (· != '='))
  match longOption? known name, word with
  | some o, _ =>
    match word.dropWhile (· != '=') with
    | _ :: value => .option o (some (String.ofList value))
    | [] => .option o none
  | none, '-' :: '-' :: _ => .unknown
  | none, _ :: letter :: value =>
    match shortOption? known letter with
    | some o => .option o (if value.isEmpty then none else some (String.ofList value))
    | none => .unknown
  | none, _ => .unknown

/-- What a word is. A single dash is an operand. -/
def Word.ofText (known : List OptionNames) (s : String) : Word :=
  match s.toList with
  | ['-', '-'] => .divider
  | '-' :: c :: rest => optionWord known ('-' :: c :: rest)
  | _ => .operand

/-- The words of a command line, sorted out. -/
structure Sorted where
  /-- The values of the options, by their keys, in their order. -/
  values : List (String × String) := []
  operands : List String := []
  deriving Repr, DecidableEq

namespace Sorted

/-- Puts a value in front. -/
def withValue (key value : String) (s : Sorted) : Sorted :=
  { s with values := (key, value) :: s.values }

/-- Puts an operand in front. -/
def withOperand (operand : String) (s : Sorted) : Sorted :=
  { s with operands := operand :: s.operands }

/-- Sorts out the words of a command line; nothing if an option is unknown or lacks its
    value. If options stop at the first operand, all that follows it is operands. -/
def ofWords? (known : List OptionNames) (stops : Bool) : List String → Option Sorted
  | [] => some {}
  | word :: rest =>
    match Word.ofText known word with
    | .divider => some { operands := rest }
    | .operand =>
      if stops then some { operands := word :: rest }
      else (ofWords? known stops rest).map (withOperand word)
    | .option o (some value) => (ofWords? known stops rest).map (withValue o.key value)
    | .option o none =>
      match rest with
      | [] => none
      | value :: rest => (ofWords? known stops rest).map (withValue o.key value)
    | .unknown => none

/-- All values of an option. -/
def all (s : Sorted) (key : String) : List String :=
  (s.values.filter fun v => v.1 == key).map Prod.snd

/-- The last value of an option. -/
def last? (s : Sorted) (key : String) : Option String :=
  (s.all key).getLast?

end Sorted

end Waymark.CommandLine

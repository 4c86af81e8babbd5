/-! # Logging

    Log lines go to the error output, either styled or plain. How much is logged is chosen
    by the name of a level, in any case; a name that is no level chooses warnings.
-/

namespace Waymark

/-- How log lines look. -/
inductive LogStyle where
  | styled
  | plain
  deriving Repr, DecidableEq

namespace LogStyle

/-- All styles. -/
def all : List LogStyle := [.styled, .plain]

/-- The word for a style. -/
def word : LogStyle → String
  | .styled => "rich"
  | .plain => "plain"

/-- The style that a word stands for. -/
def ofWord? (s : String) : Option LogStyle :=
  all.find? fun style => style.word == s

theorem ofWord?_word (s : LogStyle) : ofWord? s.word = some s := by
  cases s <;> rfl

/-- The layout of a line. The styled output shows time and level by itself. -/
def layout : LogStyle → String
  | .styled => "%(name)s: %(message)s"
  | .plain => "%(asctime)s %(levelname)s %(name)s: %(message)s"

end LogStyle

/-- Why a word cannot choose a level. -/
inductive LevelFault where
  /-- The word names a text, which is no level. -/
  | unknown (text : String)
  /-- The word names something that is neither a number nor a text. -/
  | unfit (shown : String)
  deriving Repr, DecidableEq

/-- What is said about a word that cannot choose a level. -/
def LevelFault.message : LevelFault → String
  | .unknown text => "Unknown level: '" ++ text ++ "'"
  | .unfit shown => "Level not an integer or a valid string: " ++ shown

/-- How much is logged: what stands at or above a level. -/
abbrev LogLevel : Type := Nat

namespace LogLevel

/-- The level of warnings. -/
def warning : LogLevel := 30

/-- The levels by name. -/
def named : List (String × LogLevel) :=
  [("NOTSET", 0), ("DEBUG", 10), ("INFO", 20), ("WARN", warning), ("WARNING", warning),
    ("ERROR", 40), ("CRITICAL", 50), ("FATAL", 50)]

/-- The layouts by the character that marks a place in them. -/
def layouts : String :=
  "\x7b'%': (<class 'logging.PercentStyle'>, '%(levelname)s:%(name)s:%(message)s'), "
    ++ "'\x7b': (<class 'logging.StrFormatStyle'>, '\x7blevelname\x7d:\x7bname\x7d:\x7bmessage\x7d'), "
    ++ "'$': (<class 'logging.StringTemplateStyle'>, "
    ++ "'$\x7blevelname\x7d:$\x7bname\x7d:$\x7bmessage\x7d')\x7d"

/-- The names that stand for something other than a level. -/
def misnamed : List (String × LevelFault) :=
  [("BASIC_FORMAT", .unknown "%(levelname)s:%(name)s:%(message)s"), ("_STYLES", .unfit layouts)]

/-- The capitals of a letter, if they are Latin capitals without marks. Besides the ASCII
    letters these are the dotless i, the long s, the sharp s and the ligatures. -/
def capitals (c : Char) : List Char :=
  match c with
  | 'ı' => ['I']
  | 'ſ' => ['S']
  | 'ß' => ['S', 'S']
  | 'ﬀ' => ['F', 'F']
  | 'ﬁ' => ['F', 'I']
  | 'ﬂ' => ['F', 'L']
  | 'ﬃ' => ['F', 'F', 'I']
  | 'ﬄ' => ['F', 'F', 'L']
  | 'ﬅ' => ['S', 'T']
  | 'ﬆ' => ['S', 'T']
  | c => [c.toUpper]

/-- The level that a word chooses. -/
def ofWord (s : String) : Except LevelFault LogLevel :=
  let name := String.ofList (s.toList.flatMap capitals)
  match misnamed.lookup name with
  | some fault => .error fault
  | none => .ok ((named.lookup name).getD warning)

end LogLevel

end Waymark

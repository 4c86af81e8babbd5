import Waymark.Text.Letter

/-! # Names of client modules

    The module of a client is named after its root class: the words of the class name in
    lower case, joined by underscores, and `_client`. A word begins at a capital that
    follows a small letter or a digit, and at a capital that is followed by a small
    letter and preceded by a capital. Only ASCII letters mark words.
-/

namespace Waymark.Client

/-- The text between a name's words and the end of every module name. -/
def moduleSuffix : String := "_client"

/-- A capital that begins a word, given its neighbours. -/
def beginsWord (before here : Char) (after : Option Char) : Bool :=
  here.isUpper &&
    (before.isLower || before.isDigit || (before.isUpper && after.any Char.isLower))

/-- Puts an underscore before each word but the first. -/
def underscoreFrom (before : Char) : List Char → List Char
  | [] => []
  | c :: rest =>
    if beginsWord before c rest.head? then '_' :: c :: underscoreFrom c rest
    else c :: underscoreFrom c rest

/-- The words of a name, joined by underscores. -/
def underscore : List Char → List Char
  | [] => []
  | c :: rest => c :: underscoreFrom c rest

/-- The module name for the client of a root class. -/
def moduleName (rootName : String) : String :=
  Text.lower (String.ofList (underscore rootName.toList)) ++ moduleSuffix

end Waymark.Client

import Waymark.Decimal.Reading
import Waymark.Text.Blank
import Waymark.Text.Letter
import Waymark.Text.Word

/-! # Styles

    The style of a text is written in words: colours and attributes, with `on` before the
    colour behind the text, `not` before an attribute that is switched off, and `link` before
    an address. Styles of the same effect have the same normal form (`normalForm`).

    A colour is a name, six hexadecimal digits, a number of the palette, or three numbers for
    red, green and blue. There is no answer about three numbers if one of them is missing, or
    too long to be read (`NoNumber`).
-/

namespace Waymark.Display

/-! ### Colours -/

/-- The names of colours, the basic ones first. -/
def colourNames : List (List Char) := [
  "black red green yellow blue magenta cyan white",
  "aquamarine1 aquamarine3 blue1 blue3 blue_violet bright_black bright_blue bright_cyan",
  "bright_green bright_magenta bright_red bright_white bright_yellow cadet_blue chartreuse1",
  "chartreuse2 chartreuse3 chartreuse4 cornflower_blue cornsilk1 cyan1 cyan2 cyan3 dark_blue",
  "dark_cyan dark_goldenrod dark_green dark_khaki dark_magenta dark_olive_green1",
  "dark_olive_green2 dark_olive_green3 dark_orange dark_orange3 dark_red dark_sea_green",
  "dark_sea_green1 dark_sea_green2 dark_sea_green3 dark_sea_green4 dark_slate_gray1",
  "dark_slate_gray2 dark_slate_gray3 dark_turquoise dark_violet deep_pink1 deep_pink2",
  "deep_pink3 deep_pink4 deep_sky_blue1 deep_sky_blue2 deep_sky_blue3 deep_sky_blue4",
  "dodger_blue1 dodger_blue2 dodger_blue3 gold1 gold3 gray0 gray100 gray11 gray15 gray19",
  "gray23 gray27 gray3 gray30 gray35 gray37 gray39 gray42 gray46 gray50 gray53 gray54 gray58",
  "gray62 gray63 gray66 gray69 gray7 gray70 gray74 gray78 gray82 gray84 gray85 gray89 gray93",
  "green1 green3 green4 green_yellow grey0 grey100 grey11 grey15 grey19 grey23 grey27 grey3",
  "grey30 grey35 grey37 grey39 grey42 grey46 grey50 grey53 grey54 grey58 grey62 grey63 grey66",
  "grey69 grey7 grey70 grey74 grey78 grey82 grey84 grey85 grey89 grey93 honeydew2 hot_pink",
  "hot_pink2 hot_pink3 indian_red indian_red1 khaki1 khaki3 light_coral light_cyan1",
  "light_cyan3 light_goldenrod1 light_goldenrod2 light_goldenrod3 light_green light_pink1",
  "light_pink3 light_pink4 light_salmon1 light_salmon3 light_sea_green light_sky_blue1",
  "light_sky_blue3 light_slate_blue light_slate_gray light_slate_grey light_steel_blue",
  "light_steel_blue1 light_steel_blue3 light_yellow3 magenta1 magenta2 magenta3 medium_orchid",
  "medium_orchid1 medium_orchid3 medium_purple medium_purple1 medium_purple2 medium_purple3",
  "medium_purple4 medium_spring_green medium_turquoise medium_violet_red misty_rose1",
  "misty_rose3 navajo_white1 navajo_white3 navy_blue orange1 orange3 orange4 orange_red1",
  "orchid orchid1 orchid2 pale_green1 pale_green3 pale_turquoise1 pale_turquoise4",
  "pale_violet_red1 pink1 pink3 plum1 plum2 plum3 plum4 purple purple3 purple4 red1 red3",
  "rosy_brown royal_blue1 salmon1 sandy_brown sea_green1 sea_green2 sea_green3 sky_blue1",
  "sky_blue2 sky_blue3 slate_blue1 slate_blue3 spring_green1 spring_green2 spring_green3",
  "spring_green4 steel_blue steel_blue1 steel_blue3 tan thistle1 thistle3 turquoise2",
  "turquoise4 violet wheat1 wheat4 yellow1 yellow2 yellow3 yellow4"].flatMap Text.words

/-- What is to be the number of a colour and cannot be read as one. -/
structure NoNumber where
  digits : List Char
  deriving Repr, DecidableEq

/-- What is said about it. -/
def NoNumber.message (fault : NoNumber) : String :=
  if fault.digits.isEmpty then "invalid literal for int() with base 10: ''"
  else "Exceeds the limit (" ++ toString Decimal.maxDigits ++ " digits) for integer string "
    ++ "conversion: value has " ++ toString fault.digits.length
    ++ " digits; use sys.set_int_max_str_digits() to increase the limit"

/-- The greatest number of a colour. -/
def maxColour : Nat := 255

/-- What stands in parentheses behind a name. -/
def inParentheses? (name text : List Char) : Option (List Char) :=
  match text.drop name.length with
  | '(' :: inner =>
    if name.isPrefixOf text && inner.getLast? == some ')' then some inner.dropLast else none
  | _ => none

/-- Is it the number of a colour in the palette? -/
def isPaletteNumber (digits : List Char) : Bool :=
  0 < digits.length && digits.length ≤ 3 && digits.all Char.isDigit
    && Text.decimalNumber digits ≤ maxColour

/-- One of the numbers for red, green and blue. -/
def component (digits : List Char) : Except NoNumber Nat :=
  if digits.isEmpty || Decimal.maxDigits < digits.length then .error ⟨digits⟩
  else .ok (Text.decimalNumber digits)

/-- Are they the numbers for red, green and blue? -/
def areComponents (inner : List Char) : Except NoNumber Bool :=
  if inner.isEmpty || !inner.all fun c => c == ',' || (Text.decimalDigit? c).isSome then .ok false
  else
    match Text.splitWhere (· == ',') inner with
    | [red, green, blue] => do
      return (← [red, green, blue].mapM component).all (· ≤ maxColour)
    | _ => .ok false

/-- Is it a colour, written in lower case? -/
def isColour (text : List Char) : Except NoNumber Bool :=
  if text == "default".toList || colourNames.contains text then .ok true
  else
    match text with
    | '#' :: digits => .ok (digits.length == 6 && digits.all fun c => (Text.hexDigit? c).isSome)
    | _ =>
      match inParentheses? "color".toList text, inParentheses? "rgb".toList text with
      | some inner, _ => .ok (isPaletteNumber inner)
      | none, some inner => areComponents inner
      | none, none => .ok false

/-! ### Words -/

/-- The attributes, in the order of normal forms. -/
def attributeNames : List String :=
  ["bold", "dim", "italic", "underline", "blink", "blink2", "reverse", "conceal", "strike",
    "underline2", "frame", "encircle", "overline"]

/-- The attributes that have a short name. -/
def shortNames : List (String × String) :=
  [("b", "bold"), ("d", "dim"), ("i", "italic"), ("u", "underline"), ("uu", "underline2"),
    ("r", "reverse"), ("c", "conceal"), ("s", "strike"), ("o", "overline")]

/-- The attribute of a name. -/
def attribute? (word : String) : Option String :=
  (shortNames.lookup word).or (if attributeNames.contains word then some word else none)

/-- A style. Of what is said about an attribute, the last counts, which is listed first. -/
structure Style where
  attributes : List (String × Bool) := []
  colour : Option String := none
  background : Option String := none
  link : Option String := none
  deriving Repr, DecidableEq

namespace Style

/-- Adds some words to a style; nothing if they make no sense. -/
def add? (s : Style) : List String → Except NoNumber (Option Style)
  | [] => .ok (some s)
  | word :: rest =>
    match Text.lower word, rest with
    | "on", ground :: rest => do
      let name := Text.lower ground
      if ← isColour name.toList then add? { s with background := some name } rest else return none
    | "not", off :: rest =>
      match attribute? off with
      | some name => add? { s with attributes := (name, false) :: s.attributes } rest
      | none => .ok none
    | "link", target :: rest => add? { s with link := some target } rest
    -- these words need another one
    | "on", [] | "not", [] | "link", [] => .ok none
    | name, rest =>
      match attribute? name with
      | some name => add? { s with attributes := (name, true) :: s.attributes } rest
      | none => do
        if ← isColour name.toList then add? { s with colour := some name } rest else return none

/-- The words of a text. -/
def words (text : List Char) : List String :=
  ((Text.splitWhere Text.isBlank text).filter (!·.isEmpty)).map String.ofList

/-- Reads a style; nothing if the text is none. -/
def read? (text : List Char) : Except NoNumber (Option Style) :=
  if words text == ["none"] then .ok (some {}) else add? {} (words text)

/-- A style in words. -/
def text (s : Style) : String :=
  let attributes := attributeNames.filterMap fun name =>
    (s.attributes.lookup name).map fun isOn => if isOn then name else "not " ++ name
  let parts := attributes ++ s.colour.toList ++ s.background.toList.map ("on " ++ ·)
    ++ s.link.toList.map ("link " ++ ·)
  if parts.isEmpty then "none" else " ".intercalate parts

/-- The form in which the names of styles are compared. A text that is no style is compared
    in lower case. -/
def normalForm (text : List Char) : Except NoNumber String := do
  match ← read? text with
  | some s => return s.text
  | none => return Text.lower (Text.trim (String.ofList text))

end Style

end Waymark.Display

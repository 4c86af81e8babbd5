import Waymark.Decimal.Reading
import Waymark.Grammar.Token
import Waymark.Grammar.Tree
import Waymark.Text.Ranges

/-! # Values of literals

    What the spelling of a number or of a text stands for.

    * A number is whole, fractional or imaginary. Whole numbers in decimal have a limit
      on their length.
    * A text literal has a prefix, and unless it is raw its escapes are read here. A
      formatted one is split into literal texts and replacement fields; the expressions
      in the fields are left as source text.
-/

namespace Waymark.Grammar

open Waymark.Decimal (Binary64 digitsValue decimalValue maxDigits)

/-! ### Numbers -/

/-- The value of a number; nothing if it is too long. -/
def numberValue? (spelling : List Char) : Option Literal :=
  let cs := spelling.filter (· != '_')
  let isBased (mark : Char) := match cs with
    | '0' :: c :: _ => c.toLower == mark
    | _ => false
  if isBased 'x' then some (.integer (digitsValue 16 (cs.drop 2)))
  else if isBased 'o' then some (.integer (digitsValue 8 (cs.drop 2)))
  else if isBased 'b' then some (.integer (digitsValue 2 (cs.drop 2)))
  else if cs.getLast?.any (fun c => c == 'j' || c == 'J') then
    some (.imaginary (decimalValue cs.dropLast))
  else if cs.all Char.isDigit then
    if cs.length > maxDigits then none else some (.integer (digitsValue 10 cs))
  else some (.float (decimalValue cs))

/-! ### Escapes -/

/-- The character that a letter stands for after a backslash. -/
def simpleEscape? (c : Char) : Option Nat :=
  if c == '\\' || c == '\'' || c == '"' then some c.toNat
  else if c == 'a' then some 7
  else if c == 'b' then some 8
  else if c == 't' then some 9
  else if c == 'n' then some 10
  else if c == 'v' then some 11
  else if c == 'f' then some 12
  else if c == 'r' then some 13
  else none

def isOctalDigit (c : Char) : Bool :=
  '0' ≤ c && c ≤ '7'

/-- Reads exactly `width` hexadecimal digits. -/
def hexEscape? (width : Nat) (cs : List Char) : Option Nat :=
  let digits := cs.take width
  if digits.length = width && digits.all isHexDigit then some (digitsValue 16 digits) else none

/-- Reads the escapes of a text, where `skip` characters belong to an escape that was
    read already. An escape that is none stands for itself. -/
def decodeText : (skip : Nat) → List Char → Option (List Nat)
  | _, [] => some []
  | skip + 1, _ :: rest => decodeText skip rest
  | 0, '\\' :: c :: rest =>
    let numbered (width : Nat) : Option (List Nat) := do
      let code ← hexEscape? width rest
      -- there are no characters beyond
      if code ≥ 0x110000 then none
      let later ← decodeText (width + 1) (c :: rest)
      return code :: later
    if c == '\n' then decodeText 1 (c :: rest)
    else if c == 'x' then numbered 2
    else if c == 'u' then numbered 4
    else if c == 'U' then numbered 8
    -- names of characters are not supported
    else if c == 'N' then none
    else
      match simpleEscape? c with
      | some code => (decodeText 1 (c :: rest)).map (code :: ·)
      | none =>
        if isOctalDigit c then
          let digits := ((c :: rest).take 3).takeWhile isOctalDigit
          (decodeText digits.length (c :: rest)).map (digitsValue 8 digits :: ·)
        -- an escape that means nothing keeps its backslash
        else (decodeText 1 (c :: rest)).map fun later => 0x5c :: c.toNat :: later
  | 0, c :: rest => (decodeText 0 rest).map (c.toNat :: ·)

/-- Reads the escapes of a byte string. Only ASCII may stand in one. -/
def decodeBytes : (skip : Nat) → List Char → Option (List Nat)
  | _, [] => some []
  | skip + 1, _ :: rest => decodeBytes skip rest
  | 0, '\\' :: c :: rest =>
    if c == '\n' then decodeBytes 1 (c :: rest)
    else if c == 'x' then do
      let code ← hexEscape? 2 rest
      let later ← decodeBytes 3 (c :: rest)
      return code :: later
    else
      match simpleEscape? c with
      | some code => (decodeBytes 1 (c :: rest)).map (code :: ·)
      | none =>
        if isOctalDigit c then
          let digits := ((c :: rest).take 3).takeWhile isOctalDigit
          -- three octal digits may be too much for a byte
          (decodeBytes digits.length (c :: rest)).map (digitsValue 8 digits % 256 :: ·)
        else (decodeBytes 1 (c :: rest)).map fun later => 0x5c :: c.toNat :: later
  | 0, c :: rest => (decodeBytes 0 rest).map (c.toNat :: ·)

/-! ### Formatted texts -/

/-- A piece of a formatted text. A field has the source of its expression, the number of
    line ends before it, the text that shows the expression itself if that is asked for,
    its conversion and the pieces of its format. -/
inductive Piece where
  | literal (codes : List Nat)
  | field (source : List Char) (linesBefore : Nat) (shown : Option (List Nat))
      (conversion : Option Char) (format : Option (List Piece))
  /-- Here the text stops making sense. -/
  | broken

/-- How a stretch of literal text ends: at the end of the text or of the format, at the
    beginning of a field, at a doubled brace, or at a brace that may not stand there. -/
inductive StretchEnd where
  | finished
  | field
  | doubled
  | stray

/-- Reads literal text up to a brace; `top` is false in a format, where braces are not
    doubled. -/
def literalStretch (raw top : Bool) : List Char → List Char × List Char × StretchEnd
  | [] => ([], [], .finished)
  | '\\' :: c :: rest =>
    -- a backslash does not keep a brace from opening a field
    if !raw && c != '\x7b' && c != '\x7d' then
      let (text, rest, stop) := literalStretch raw top rest
      ('\\' :: c :: text, rest, stop)
    else
      let (text, rest, stop) := literalStretch raw top (c :: rest)
      ('\\' :: text, rest, stop)
  | c :: rest =>
    if c == '\x7b' || c == '\x7d' then
      match rest with
      | d :: after =>
        -- braces are doubled in the text only, not in the format of a field
        if top && d == c then ([c], after, .doubled)
        else if c == '\x7b' then ([], c :: rest, .field)
        else ([], c :: rest, if top then .stray else .finished)
      | [] =>
        if c == '\x7b' then ([], [c], .field)
        else ([], [c], if top then .stray else .finished)
    else
      let (text, rest, stop) := literalStretch raw top rest
      (c :: text, rest, stop)

/-- Is the reader of a field inside a literal, and of which quote and size? -/
inductive FieldQuote where
  | outside
  | single (quote : Char)
  | triple (quote : Char)

/-- Reads the expression of a field up to the character that ends it; nothing if the field
    is malformed. `stack` holds the open brackets, `skip` counts characters that were
    looked at already. -/
def fieldSource : FieldQuote → (stack : List Char) → (skip : Nat) → List Char →
    Option (List Char × List Char)
  | .outside, [], _, [] => some ([], [])
  | _, _, _, [] => none
  | state, stack, skip + 1, c :: rest =>
    (fieldSource state stack skip rest).map fun (s, r) => (c :: s, r)
  | state, stack, 0, c :: rest =>
    let keep (state : FieldQuote) (stack : List Char) (skip : Nat) :=
      (fieldSource state stack skip rest).map fun (s, r) => (c :: s, r)
    let twice := match rest with
      | a :: b :: _ => a == c && b == c
      | _ => false
    if c == '\\' then none
    else match state with
      | .single q => keep (if c == q then .outside else state) stack 0
      | .triple q => if c == q && twice then keep .outside stack 2 else keep state stack 0
      | .outside =>
        if c == '\'' || c == '"' then
          if twice then keep (.triple c) stack 2 else keep (.single c) stack 0
        else if (closingOf c).isSome then
          if stack.length ≥ maxBrackets then none else keep state (c :: stack) 0
        else if c == '#' then none
        else if stack.isEmpty && ['!', ':', '\x7d', '=', '>', '<'].contains c then
          -- a comparison does not end the expression, though its first sign would
          let pair := (c == '!' || c == '=' || c == '<' || c == '>') && rest.head? == some '='
          if pair then keep state stack 1
          else if c == '>' || c == '<' then keep state stack 0
          else some ([], c :: rest)
        else if isClosing c then
          match stack with
          | opening :: outer => if closingOf opening == some c then keep state outer 0 else none
          | [] => none
        else keep state stack 0

/-- The blanks that an expression in a field may begin with. -/
def isFieldBlank (c : Char) : Bool :=
  c == ' ' || c == '\t' || c == '\n' || c == '\x0c'

/-- The blanks after the sign that asks for the expression to be shown. -/
def isShownBlank (c : Char) : Bool :=
  isFieldBlank c || c == '\x0b' || c == '\r'

/-- The number of line ends in a text. -/
def lineEnds (cs : List Char) : Nat :=
  cs.count '\n'

/-- Decodes literal text. -/
def literalPiece (raw : Bool) (cs : List Char) : List Piece :=
  if cs.isEmpty then []
  else if raw then [.literal (cs.map Char.toNat)]
  else match decodeText 0 cs with
    | some codes => [.literal codes]
    | none => [.broken]

/-- Splits a formatted text into pieces, `level` formats deep and after `lines` line ends;
    also gives what is left, which outside a format must be nothing. -/
def splitPieces (raw : Bool) : (fuel : Nat) → (level lines : Nat) → List Char →
    List Piece × List Char
  | 0, _, _, cs => ([.broken], cs)
  | fuel + 1, level, lines, cs =>
    let (text, rest, stop) := literalStretch raw (level = 0) cs
    let front := literalPiece raw text
    let passed (r : List Char) : Nat := lines + (lineEnds cs - lineEnds r)
    match stop with
    | .finished => (front, rest)
    | .stray => (front ++ [.broken], [])
    | .doubled =>
      let (later, r) := splitPieces raw fuel level (passed rest) rest
      (front ++ later, r)
    | .field =>
      let fail : List Piece × List Char := (front ++ [.broken], [])
      if level ≥ 2 then fail
      else match fieldSource .outside [] 0 (rest.drop 1) with
        | none => fail
        | some (source, after) =>
          if after.isEmpty || source.all isFieldBlank then fail
          else
            let field := Piece.field source (passed rest)
            -- with an equals sign the source is shown as it is written, with the blanks around the
            -- sign
            let (shown, after) := match after with
              | '=' :: more =>
                let blanks := more.takeWhile isShownBlank
                (some ((source ++ '=' :: blanks).map Char.toNat), more.dropWhile isShownBlank)
              | _ => (none, after)
            let bad : List Piece × List Char := (front ++ [field none none none, .broken], [])
            let (conversion, after) := match after with
              | '!' :: c :: more => (some c, more)
              | _ => (none, after)
            if conversion.any (fun c => c != 's' && c != 'r' && c != 'a') then bad
            else
              match after with
              | ':' :: more =>
                let (format, r) := splitPieces raw fuel (level + 1) (passed more) more
                match r with
                | '\x7d' :: r =>
                  let (later, final) := splitPieces raw fuel level (passed r) r
                  (front ++ field shown conversion (some format) :: later, final)
                | _ => (front ++ [field shown conversion (some format), .broken], [])
              | '\x7d' :: r =>
                -- what is shown with its source is printed as a literal, unless it says otherwise
                let conversion := if shown.isSome && conversion.isNone then some 'r' else conversion
                let (later, final) := splitPieces raw fuel level (passed r) r
                (front ++ field shown conversion none :: later, final)
              | _ => bad

/-! ### Spelling of text literals -/

/-- A text literal taken apart: its prefix in lower case and what stands between its
    quotes. -/
structure TextSpelling where
  isBytes : Bool
  isRaw : Bool
  isFormatted : Bool
  isMarked : Bool
  body : List Char

/-- Takes the spelling of a text literal apart. -/
def TextSpelling.ofChars (spelling : List Char) : TextSpelling :=
  let mark := spelling.takeWhile fun c => c != '\'' && c != '"'
  let quoted := spelling.drop mark.length
  let size := match quoted with
    | a :: b :: c :: _ :: _ :: _ => if a == b && b == c then 3 else 1
    | _ => 1
  let has (c : Char) := mark.any fun d => d.toLower == c
  { isBytes := has 'b', isRaw := has 'r', isFormatted := has 'f', isMarked := mark.head? == some 'u'
    body := (quoted.drop size).take (quoted.length - 2 * size) }

end Waymark.Grammar

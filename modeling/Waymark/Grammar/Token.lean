import Waymark.Text.Blank
import Waymark.Text.Identifier
import Waymark.Text.Printable

/-! # Tokens

    Source text is cut into tokens: names, numbers, literals, operators, and the line
    ends and changes of indentation that structure statements.

    * A line that holds nothing but blanks and a comment has no tokens, and inside
      brackets line ends and indentation do not count.
    * Cutting never fails as a whole: where the text stops making sense the tokens end
      with one that says so (`TokenKind.broken`), since a parser that stops earlier never
      gets to see it.
-/

namespace Waymark.Grammar

open Waymark.Text

/-- Why the tokens of a text end before the text does. -/
inductive Breakage where
  /-- A malformed token. It is reported wherever the parser stops. -/
  | malformed
  /-- A place that only a parser that gets there complains of: indentation that fits no
      enclosing block, or a backslash that continues no line. -/
  | misplaced
  /-- The text ends inside a bracket. -/
  | unclosed
  /-- The text ends after a backslash. -/
  | cutOff
  deriving Repr, DecidableEq

/-- The kinds of token. -/
inductive TokenKind where
  | name
  | number
  | text
  | operator
  | newline
  | indent
  | dedent
  | finish
  | broken (why : Breakage)
  deriving Repr, DecidableEq

/-- A token: its place among the tokens, its spelling, the lines it begins and ends on,
    and the number of brackets that are open after it. -/
structure Token where
  kind : TokenKind
  spelling : String := ""
  index : Nat := 0
  line : Nat
  lastLine : Nat
  depth : Nat := 0
  deriving Repr

/-- The tokens of a text, and the line of the innermost bracket that is open where they
    end, if one is. -/
structure Tokens where
  tokens : List Token
  openLine : Option Nat := none

/-! ### Lexemes -/

/-- Characters that may continue a name; beyond ASCII that is looked at afterwards. -/
def isNameChar (c : Char) : Bool :=
  c.isAlphanum || c == '_' || c.toNat ≥ 128

/-- Characters that may begin a name. -/
def isNameStart (c : Char) : Bool :=
  c.isAlpha || c == '_' || c.toNat ≥ 128

def isHexDigit (c : Char) : Bool :=
  c.isDigit || ('a' ≤ c && c ≤ 'f') || ('A' ≤ c && c ≤ 'F')

/-- Does the list begin with the word? -/
def startsWith (word : String) (cs : List Char) : Bool :=
  word.toList.isPrefixOf cs

/-- Does the list begin with the word, and does the word end there? -/
def startsWithWord (word : String) (cs : List Char) : Bool :=
  startsWith word cs && !(cs.drop word.length).head?.any isNameChar

/-- May a number end before the given text? A name must not follow directly, except for
    the words that can follow a number in an expression. -/
def numberMayEnd (cs : List Char) : Bool :=
  !cs.head?.any isNameChar
    || ["if", "in", "is"].any (fun w => startsWith w cs)
    || ["and", "else", "for", "or", "not"].any (fun w => startsWithWord w cs)

/-- Reads digits with single underscores between them, after a first digit; nothing if an
    underscore is not followed by a digit. -/
def digitTail (isDigit : Char → Bool) : List Char → Option (List Char × List Char)
  | '_' :: d :: rest =>
    if isDigit d then (digitTail isDigit rest).map fun (ds, r) => ('_' :: d :: ds, r) else none
  | ['_'] => none
  | c :: rest =>
    if isDigit c then (digitTail isDigit rest).map fun (ds, r) => (c :: ds, r)
    else some ([], c :: rest)
  | [] => some ([], [])

/-- Reads digits that may begin with an underscore, as they follow the mark of a base. -/
def basedDigits (isDigit : Char → Bool) (cs : List Char) : Option (List Char × List Char) :=
  let start := match cs with
    | '_' :: rest => (['_'], rest)
    | _ => ([], cs)
  match start.2 with
  | d :: rest =>
    if isDigit d then
      (digitTail isDigit rest).map fun (ds, r) => (start.1 ++ d :: ds, r)
    else none
  | [] => none

/-- Checks the end of a number. -/
def endNumber (digits rest : List Char) : Option (List Char × List Char) :=
  if numberMayEnd rest then some (digits, rest) else none

/-- Reads the mark of an imaginary number, if it is there, and the end. -/
def imaginaryTail (digits rest : List Char) : Option (List Char × List Char) :=
  match rest with
  | c :: after =>
    if c == 'j' || c == 'J' then endNumber (digits ++ [c]) after else endNumber digits rest
  | [] => some (digits, [])

/-- Reads an exponent, if there is one, and what follows it. -/
def exponentTail (digits rest : List Char) : Option (List Char × List Char) :=
  match rest with
  | e :: after =>
    if e == 'e' || e == 'E' then
      match after with
      | s :: more =>
        if s == '+' || s == '-' then
          match more with
          | d :: more =>
            if d.isDigit then do
              let (ds, r) ← digitTail Char.isDigit more
              imaginaryTail (digits ++ e :: s :: d :: ds) r
            else none
          | [] => none
        else if s.isDigit then do
          let (ds, r) ← digitTail Char.isDigit more
          imaginaryTail (digits ++ e :: s :: ds) r
        else endNumber digits rest
      | [] => endNumber digits rest
    else imaginaryTail digits rest
  | [] => some (digits, [])

/-- Reads the digits after a point, if there are any, and what follows them. -/
def fractionTail (digits rest : List Char) : Option (List Char × List Char) :=
  match rest with
  | d :: more =>
    if d.isDigit then do
      let (ds, r) ← digitTail Char.isDigit more
      exponentTail (digits ++ d :: ds) r
    else exponentTail digits rest
  | [] => some (digits, [])

/-- Reads what follows the whole digits of a decimal number. -/
def decimalTail (digits rest : List Char) : Option (List Char × List Char) :=
  match rest with
  | '.' :: after => fractionTail (digits ++ ['.']) after
  | _ => exponentTail digits rest

/-- Reads a number that begins with the digit `d`. A number other than zero that begins
    with a zero must have a point, an exponent or an imaginary mark. -/
def lexNumber (d : Char) (rest : List Char) : Option (List Char × List Char) :=
  let based (mark : Char) (isDigit : Char → Bool) (after : List Char) := do
    let (ds, r) ← basedDigits isDigit after
    endNumber ('0' :: mark :: ds) r
  let decimal := do
    let (ds, r) ← digitTail Char.isDigit rest
    let digits := d :: ds
    let isZero := digits.all fun c => c == '0' || c == '_'
    let goesOn := match r with
      | c :: _ => c == '.' || c == 'e' || c == 'E' || c == 'j' || c == 'J'
      | [] => false
    -- a number with a zero in front is no whole number
    if d == '0' && !isZero && !goesOn then none
    else decimalTail digits r
  if d == '0' then
    match rest with
    | c :: after =>
      if c == 'x' || c == 'X' then based c isHexDigit after
      else if c == 'o' || c == 'O' then
        match basedDigits (fun c => '0' ≤ c && c ≤ '7') after with
        -- a digit that is none of this base must not follow
        | some (_, c :: _) => if c.isDigit then none else based 'o' (fun c => '0' ≤ c && c ≤ '7') after
        | _ => based 'o' (fun c => '0' ≤ c && c ≤ '7') after
      else if c == 'b' || c == 'B' then
        match basedDigits (fun c => c == '0' || c == '1') after with
        | some (_, c :: _) => if c.isDigit then none else based 'b' (fun c => c == '0' || c == '1') after
        | _ => based 'b' (fun c => c == '0' || c == '1') after
      else decimal
    | [] => decimal
  else decimal

/-- The prefixes of a text literal, in lower case. -/
def literalPrefixes : List String := ["", "b", "r", "u", "f", "br", "rb", "fr", "rf"]

/-- Is the text before a quote the prefix of a literal? -/
def isLiteralPrefix (cs : List Char) : Bool :=
  literalPrefixes.contains (String.ofList (cs.map Char.toLower))

/-- Reads the rest of a literal up to its closing quote, which is `left` of `size` quote
    characters away; a backslash takes the next character with it. -/
def lexQuoted (quote : Char) (size : Nat) : (left : Nat) → List Char →
    Option (List Char × List Char)
  | 0, rest => some ([], rest)
  | _ + 1, [] => none
  | _ + 1, '\\' :: c :: rest =>
    (lexQuoted quote size size rest).map fun (s, r) => ('\\' :: c :: s, r)
  | left + 1, c :: rest =>
    if c == quote then (lexQuoted quote size left rest).map fun (s, r) => (c :: s, r)
    else if c == '\n' && size == 1 then none
    else (lexQuoted quote size size rest).map fun (s, r) => (c :: s, r)

/-- Reads a literal after its opening quote character. -/
def lexText (quote : Char) (rest : List Char) : Option (List Char × List Char) :=
  match rest with
  | a :: b :: more =>
    if a == quote then
      if b == quote then (lexQuoted quote 3 3 more).map fun (s, r) => (quote :: a :: b :: s, r)
      else some ([quote, a], b :: more)
    else (lexQuoted quote 1 1 rest).map fun (s, r) => (quote :: s, r)
  | [a] => if a == quote then some ([quote, a], []) else none
  | [] => none

/-- Operators of two characters or more, longest first. -/
def longOperators : List String :=
  ["**=", "//=", ">>=", "<<=", "...", "!=", "%=", "&=", "**", "*=", "+=", "-=", "->", "//",
    "/=", ":=", "<<", "<=", "<>", "==", ">=", ">>", "@=", "^=", "|="]

/-- Reads an operator. -/
def lexOperator (cs : List Char) : List Char × List Char :=
  match longOperators.find? fun op => startsWith op cs with
  | some op => (op.toList, cs.drop op.length)
  | none => (cs.take 1, cs.drop 1)

/-- The bracket that closes another. -/
def closingOf (c : Char) : Option Char :=
  if c == '(' then some ')'
  else if c == '[' then some ']'
  else if c == '\x7b' then some '\x7d'
  else none

def isClosing (c : Char) : Bool :=
  c == ')' || c == ']' || c == '\x7d'

/-- At most this many brackets may be open at once. -/
def maxBrackets : Nat := 200

/-- At most this many blocks may be open at once. -/
def maxIndents : Nat := 100

/-! ### Lines -/

/-- The width of the blanks at the beginning of a line, with tabs up to multiples of eight
    columns and, for comparison, of one column. -/
structure Margin where
  width : Nat := 0
  narrow : Nat := 0
  deriving Repr, DecidableEq

/-- What cutting remembers: the enclosing blocks and brackets, innermost first, and the
    line. -/
structure LexState where
  margins : List Margin := []
  brackets : List (Char × Nat) := []
  line : Nat := 1
  deriving Repr

/-- Measures the blanks at the beginning of a line. A backslash there continues the line
    and fixes the margin. -/
def measure (line : Nat) (margin : Margin) (fixed : Option Margin) :
    List Char → Except (Breakage × Nat) (Margin × Nat × List Char)
  | ' ' :: rest =>
    measure line { width := margin.width + 1, narrow := margin.narrow + 1 } fixed rest
  | '\t' :: rest =>
    measure line { width := (margin.width / 8 + 1) * 8, narrow := margin.narrow + 1 } fixed rest
  -- a form feed begins the margin anew
  | '\x0c' :: rest => measure line {} fixed rest
  | '\\' :: '\n' :: rest =>
    if rest.isEmpty then .error (.cutOff, line)
    else
      -- the first of the lines that has blanks in front fixes the margin
      let here := fixed.getD { width := margin.width, narrow := margin.width }
      measure (line + 1) margin (if here.width = 0 then none else some here) rest
  | '\\' :: _ => .error (.misplaced, line)
  | rest => .ok (fixed.getD margin, line, rest)

/-- Compares the margin of a line with the enclosing blocks: the blocks then open, the
    number that were closed, and whether one was opened. -/
def settle (margins : List Margin) (m : Margin) :
    Option (List Margin × Nat × Bool) :=
  let current := margins.headD {}
  if m.width = current.width then
    -- tabs and blanks must agree whatever the width of a tab
    if m.narrow = current.narrow then some (margins, 0, false) else none
  else if m.width > current.width then
    if m.narrow ≤ current.narrow || margins.length + 1 ≥ maxIndents then none
    else some (m :: margins, 0, true)
  else
    let kept := margins.dropWhile fun k => m.width < k.width
    let target := kept.headD {}
    if m.width = target.width && m.narrow = target.narrow then
      some (kept, margins.length - kept.length, false)
    else none

/-- One step of cutting: what was read, the state after it, the rest, and whether a new
    line begins there. -/
inductive Lexed where
  | token (kind : TokenKind) (spelling : List Char) (line : Nat) (state : LexState)
      (rest : List Char)
  | lineEnd (isToken : Bool) (state : LexState) (rest : List Char)
  | skip (state : LexState) (rest : List Char)
  | finish
  | broken (why : Breakage) (line : Nat)

/-- Reads one token inside a line. -/
def lexStep (s : LexState) : List Char → Lexed
  | [] => .finish
  | ' ' :: rest | '\t' :: rest | '\x0c' :: rest => .skip s rest
  | '#' :: rest => .skip s (rest.dropWhile (· != '\n'))
  | '\n' :: rest => .lineEnd s.brackets.isEmpty { s with line := s.line + 1 } rest
  | '\\' :: '\n' :: rest =>
    if rest.isEmpty then .broken .cutOff s.line else .skip { s with line := s.line + 1 } rest
  | '\\' :: _ => .broken .misplaced s.line
  | c :: rest =>
    if isNameStart c then
      let word := (c :: rest).takeWhile isNameChar
      let after := (c :: rest).dropWhile isNameChar
      -- a name right before a quote may be the prefix of a literal
      let quoted := match after with
        | q :: more => if (q == '"' || q == '\'') && isLiteralPrefix word then some (q, more) else none
        | [] => none
      match quoted with
      | some (q, more) =>
        match lexText q more with
        | some (body, rest) =>
          .token .text (word ++ body) s.line { s with line := s.line + body.count '\n' } rest
        | none => .broken .malformed s.line
      | none =>
        if word.all (·.toNat < 128) || isIdentifier (String.ofList word) then
          .token .name word s.line s after
        else .broken .malformed s.line
    else if c == '"' || c == '\'' then
      match lexText c rest with
      | some (body, rest) =>
        .token .text body s.line { s with line := s.line + body.count '\n' } rest
      | none => .broken .malformed s.line
    else if c.isDigit then
      match lexNumber c rest with
      | some (digits, rest) => .token .number digits s.line s rest
      | none => .broken .malformed s.line
    else if c == '.' && (rest.head?.any Char.isDigit) then
      match fractionTail ['.'] rest with
      | some (digits, rest) => .token .number digits s.line s rest
      | none => .broken .malformed s.line
    else if (closingOf c).isSome then
      if s.brackets.length ≥ maxBrackets then .broken .malformed s.line
      else .token .operator [c] s.line { s with brackets := (c, s.line) :: s.brackets } rest
    else if isClosing c then
      match s.brackets with
      | (opening, _) :: outer =>
        if closingOf opening = some c then
          .token .operator [c] s.line { s with brackets := outer } rest
        else .broken .malformed s.line
      | [] => .broken .malformed s.line
    else if !isPrintableCode c.toNat then .broken .malformed s.line
    else
      let (op, rest) := lexOperator (c :: rest)
      .token .operator op s.line s rest

/-- Cuts a text, `start` at the beginning of a line, after `index` tokens. Each step reads
    a character or ends the text, so twice the length is fuel enough. -/
def lexFrom : (fuel : Nat) → (start : Bool) → LexState → (index : Nat) → List Char →
    List Token × LexState
  | 0, _, s, _, _ => ([], s)
  | fuel + 1, true, s, index, cs =>
    let broken (why : Breakage) (line : Nat) : List Token × LexState :=
      ([{ kind := .broken why, index, line, lastLine := line, depth := s.brackets.length }], s)
    match measure s.line {} none cs with
    | .error (why, line) => broken why line
    | .ok (margin, line, rest) =>
      let s := { s with line }
      let isBlankLine := match rest with
        | '#' :: _ | '\n' :: _ => true
        | _ => false
      if isBlankLine then
        -- the comment and the line end of a blank line are no tokens
        match rest.dropWhile (· != '\n') with
        | _ :: after => lexFrom fuel true { s with line := s.line + 1 } index after
        | [] => lexFrom fuel false s index []
      else if !s.brackets.isEmpty then lexFrom fuel false s index rest
      else
        -- what ends a text belongs to its last line
        let line := if cs.isEmpty then max 1 (s.line - 1) else s.line
        match settle s.margins margin with
        | none => broken .misplaced line
        | some (margins, closed, opened) =>
          let mark (kind : TokenKind) (i : Nat) : Token :=
            { kind, index := i, line, lastLine := line }
          let marks := (List.range closed).map (fun i => mark .dedent (index + i))
            ++ if opened then [mark .indent (index + closed)] else []
          let (later, final) :=
            lexFrom fuel false { s with margins, line } (index + marks.length) rest
          (marks ++ later, final)
  | fuel + 1, false, s, index, cs =>
    let last (kind : TokenKind) (line : Nat) : List Token × LexState :=
      ([{ kind, index, line, lastLine := line, depth := s.brackets.length }], s)
    match lexStep s cs with
    | .token kind spelling line state rest =>
      let token : Token := { kind, spelling := String.ofList spelling, index, line, lastLine := state.line
                             depth := state.brackets.length }
      let (later, final) := lexFrom fuel false state (index + 1) rest
      (token :: later, final)
    | .lineEnd isToken state rest =>
      if isToken then
        let token : Token := { kind := .newline, index, line := s.line, lastLine := s.line }
        let (later, final) := lexFrom fuel true state (index + 1) rest
        (token :: later, final)
      else lexFrom fuel true state index rest
    | .skip state rest => lexFrom fuel false state index rest
    | .finish =>
      if s.brackets.isEmpty then last .finish s.line else last (.broken .unclosed) s.line
    | .broken why line => last (.broken why) line

/-- The tokens of a text whose first line has the given number. -/
def tokenize (firstLine : Nat) (cs : List Char) : Tokens :=
  let (tokens, final) := lexFrom (2 * cs.length + 2) true { line := firstLine } 0 cs
  { tokens, openLine := (final.brackets.head?).map Prod.snd }

end Waymark.Grammar

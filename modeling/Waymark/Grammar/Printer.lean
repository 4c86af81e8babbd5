import Waymark.Decimal.Reading
import Waymark.Decimal.Shortest
import Waymark.Grammar.Tree
import Waymark.Text.Quoted

/-! # Expressions as text

    The canonical text of an expression: one space around operators, parentheses only
    where the tree needs them, literals in one spelling.

    * Each part of an expression stands at a *level*, and an expression whose own
      operator binds less tightly than its level asks for is put in parentheses.
    * Literals are spelled by value: numbers in decimal, texts in their quoted form. Whole
      numbers of very many digits have no decimal spelling.
    * A formatted text chooses a quote that none of its parts contains. Inside its
      replacement fields no backslash may occur, so literals there are spelled without
      one where that is possible.

    Printing is total. The few trees that have no text (`Expr.fault?`) print to
    something arbitrary, and `Expr.text` refuses them. How deep a tree may be is no question
    here: where a limit is set to recursion, it depends on the place of the call.
-/

namespace Waymark.Grammar

open Waymark.Text
open Waymark.Decimal (Binary64 Layout maxDigits)

/-! ### Levels -/

/-- How tightly an operator binds; higher levels bind tighter. -/
abbrev Level := Nat

namespace Level

def named : Level := 1
def tuple : Level := 2
def yield : Level := 3
def test : Level := 4
def or : Level := 5
def and : Level := 6
def not : Level := 7
def comparison : Level := 8
def bitOr : Level := 9
def bitXor : Level := 10
def bitAnd : Level := 11
def shift : Level := 12
def sum : Level := 13
def term : Level := 14
def factor : Level := 15
def power : Level := 16
def await : Level := 17
def atom : Level := 18

/-- The level `n` steps tighter; nothing binds tighter than an atom. -/
def above (level : Level) (n : Nat) : Level :=
  min (level + n) atom

end Level

/-- The sign of an operator. -/
def UnaryOp.sign : UnaryOp → String
  | .invert => "~"
  | .not => "not "
  | .plus => "+"
  | .minus => "-"

def UnaryOp.level : UnaryOp → Level
  | .not => Level.not
  | _ => Level.factor

def BinaryOp.sign : BinaryOp → String
  | .bitOr => "|"
  | .bitXor => "^"
  | .bitAnd => "&"
  | .shiftLeft => "<<"
  | .shiftRight => ">>"
  | .add => "+"
  | .subtract => "-"
  | .multiply => "*"
  | .matrixMultiply => "@"
  | .divide => "/"
  | .floorDivide => "//"
  | .modulo => "%"
  | .power => "**"

def BinaryOp.level : BinaryOp → Level
  | .bitOr => Level.bitOr
  | .bitXor => Level.bitXor
  | .bitAnd => Level.bitAnd
  | .shiftLeft | .shiftRight => Level.shift
  | .add | .subtract => Level.sum
  | .power => Level.power
  | _ => Level.term

def BoolOp.sign : BoolOp → String
  | .and => "and"
  | .or => "or"

def BoolOp.level : BoolOp → Level
  | .and => Level.and
  | .or => Level.or

def CompareOp.sign : CompareOp → String
  | .equal => "=="
  | .unequal => "!="
  | .less => "<"
  | .lessEqual => "<="
  | .greater => ">"
  | .greaterEqual => ">="
  | .same => "is"
  | .notSame => "is not"
  | .member => "in"
  | .notMember => "not in"

namespace Form

/-- The level of the form itself; it needs parentheses at any tighter one. -/
def level : Form → Level
  | .named => Level.named
  | .tuple => Level.tuple
  | .yield | .yieldFrom => Level.yield
  | .conditional | .lambda _ => Level.test
  | .boolean op => op.level
  | .comparison _ => Level.comparison
  | .unary op => op.level
  | .binary op => op.level
  | .await => Level.await
  | _ => Level.atom

/-- The levels of the parts that come after the element of a comprehension. -/
def clauseLevels : List Clause → List Level
  | [] => []
  | c :: rest =>
    Level.tuple :: List.replicate (c.conditions + 1) (Level.above Level.test 1)
      ++ clauseLevels rest

/-- The levels of the parts of a dictionary. -/
def entryLevels (keyed : List Bool) : List Level :=
  (keyed.filter id).map (fun _ => Level.test)
    ++ keyed.map fun hasKey => if hasKey then Level.test else Level.bitOr

end Form

/-- Is the expression a tuple with something in it? -/
def Expr.isFilledTuple : Expr → Bool
  | .apply .tuple (_ :: _) => true
  | _ => false

/-- The level at which the part with the given index stands. -/
def Form.partLevel (form : Form) (index : Nat) (part : Expr) : Level :=
  match form with
  | .attribute _ | .named | .await | .yield | .yieldFrom => Level.atom
  | .subscript =>
    if index = 0 then Level.atom
    else if part.isFilledTuple then Level.tuple else Level.test
  | .call .. => if index = 0 then Level.atom else Level.test
  | .unary op => op.level
  | .binary op =>
    -- a power binds to the right, all others bind to the left
    let tight := if op = .power then 0 else 1
    if index = tight then op.level.above 1 else op.level
  | .boolean op => op.level.above (index + 1)
  | .comparison _ => Level.comparison.above 1
  | .conditional => if index < 2 then Level.test.above 1 else Level.test
  | .comprehension kind clauses =>
    let front := match kind with
      | .dictionary => [Level.test, Level.test]
      | _ => [Level.test]
    (front ++ clauseLevels clauses).getD index Level.test
  | .dictionary keyed => (entryLevels keyed).getD index Level.test
  | .starred => Level.bitOr
  | _ => Level.test

/-! ### Literals -/

/-- Numbers are spelled positionally unless they are very large or very small. What is
    beyond the format's range is spelled by a literal that overflows. -/
def numberLayout : Layout where
  minPoint := -3
  maxPoint := 16
  plus := ['+']
  exponentDigits := 2
  infinity := "1e309"
  nan := "(1e309-1e309)"

/-- A whole imaginary number is spelled without a point. -/
def imaginaryText (x : Binary64) : String :=
  let s := (numberLayout.render x).toList
  let s := match s.reverse with
    | '0' :: '.' :: front => front.reverse
    | _ => s
  String.ofList s ++ "j"

/-- The four quotes that may enclose a text, in order of preference. -/
def allQuotes : List (List Nat) :=
  [[0x27], [0x22], [0x22, 0x22, 0x22], [0x27, 0x27, 0x27]]

/-- Does the first list occur inside the second? -/
def occursIn (part : List Nat) : List Nat → Bool
  | [] => part.isEmpty
  | c :: rest => part.isPrefixOf (c :: rest) || occursIn part rest

/-- The escape of a code point that is written by name or by number. -/
def escaped (code : Nat) : List Nat :=
  (if code == 0x5c then ['\\', '\\']
  else if code == 0x9 then ['\\', 't']
  else if code == 0xa then ['\\', 'n']
  else if code == 0xd then ['\\', 'r']
  else escapeByNumber code).map Char.toNat

/-- Escapes what cannot stand in a text literal. Line ends and tabs may stand in one, so
    they are escaped only if `whitespace` says so. -/
def escapeWhereNeeded (whitespace : Bool) (code : Nat) : List Nat :=
  if !whitespace && (code == 0xa || code == 0x9) then [code]
  else if code == 0x5c || !isPrintableCode code then escaped code
  else [code]

/-- A text literal without its quotes, and the quotes among `quotes` that fit it. Quotes
    that end the text would run into the closing quote, so the others come first; if no
    quote fits, the quoted form is taken. -/
def fitQuotes (quotes : List (List Nat)) (whitespace : Bool) (codes : List Nat) :
    List Nat × List (List Nat) :=
  let body := codes.flatMap (escapeWhereNeeded whitespace)
  let fitting := quotes.filter fun q =>
    !(body.contains 0xa && q.length = 1) && !occursIn q body
  match fitting with
  -- no quotes fit, so the text is written as a literal of its own
  | [] =>
    let shown := codesOf (quoteCodes codes)
    let mark := shown.headD 0x27
    ((shown.drop 1).dropLast,
      [(quotes.find? fun q => q.contains mark).getD [mark]])
  | _ =>
    match body.getLast? with
    | none => (body, fitting)
    | some last =>
      let ordered := fitting.filter (fun q => q.headD 0 != last)
        ++ fitting.filter (fun q => q.headD 0 == last)
      -- a quote at the end would run into the closing ones
      if (ordered.headD []).headD 0 == last then
        (body.dropLast ++ [0x5c, last], ordered)
      else (body, ordered)

/-- Code points as text. -/
def ofCodes (codes : List Nat) : String :=
  String.ofList (codes.map Char.ofNat)

/-- A text literal with as few backslashes as possible. -/
def plainText (codes : List Nat) : String :=
  let (body, quotes) := fitQuotes allQuotes false codes
  let quote := quotes.headD []
  ofCodes (quote ++ body ++ quote)

/-- The text of a literal; `inner` says that it stands in a replacement field. -/
def Literal.spell (inner : Bool) : Literal → String
  | .none => "None"
  | .true => "True"
  | .false => "False"
  | .ellipsis => "..."
  | .integer n => toString n
  | .float x => numberLayout.render x
  | .imaginary x => imaginaryText x
  | .text codes marked =>
    (if marked then "u" else "") ++ (if inner then plainText codes else quoteCodes codes)
  | .bytes values => quoteBytes values

/-! ### Formatted texts -/

/-- The literal text of a formatted text, in which braces are doubled. -/
def doubleBraces (codes : List Nat) : List Nat :=
  codes.flatMap fun c => if c == 0x7b || c == 0x7d then [c, c] else [c]

/-- Escapes each part of a formatted text for a quote that fits all of them. -/
def fitAll : List (List Nat) → List (Bool × List Nat) →
    Option (List (List Nat) × List (List Nat))
  | quotes, [] => some ([], quotes)
  | quotes, (whitespace, codes) :: rest => do
    let (body, fitting) := fitQuotes quotes whitespace codes
    if !fitting.any quotes.contains then none
    let (later, last) ← fitAll fitting rest
    return (body :: later, last)

/-- The body of the quoted form that begins with a double quote. -/
def quotedTail (codes : List Nat) : List Nat :=
  ((codesOf (quoteCodes (0x22 :: codes))).drop 2).dropLast

/-- A formatted text made of its parts, each marked if it is literal text. -/
def formattedText (parts : List (Bool × List Nat)) : String :=
  match fitAll allQuotes parts with
  | some (bodies, quotes) =>
    let quote := quotes.headD []
    ofCodes (0x66 :: quote ++ bodies.flatten ++ quote)
  | none =>
    let quote := [0x27, 0x27, 0x27]
    ofCodes (0x66 :: quote ++ parts.flatMap (fun p => quotedTail p.2) ++ quote)

/-- A replacement field made of the text of its value, its conversion and its format. -/
def fieldCodes (value : String) (conversion : Option Char) (format : Option (List Nat)) :
    List Nat :=
  let codes := codesOf value
  [0x7b] ++ (if codes.headD 0 == 0x7b then [0x20] else []) ++ codes
    ++ (match conversion with
      | some c => [0x21, c.toNat]
      | none => [])
    ++ (match format with
      | some f => 0x3a :: f
      | none => [])
    ++ [0x7d]

/-! ### Expressions -/

/-- Items between commas. -/
def listed (items : List String) : String :=
  ", ".intercalate items

/-- Items between commas, with a comma after a single one. -/
def tupled : List String → String
  | [item] => item ++ ","
  | items => listed items

/-- The texts of the parameters with their defaults; takes the texts of the parts. -/
def Parameters.spell (p : Parameters) (defaults : List String) : List String :=
  let names := p.positionalOnly ++ p.positional
  let plain := names.length - p.defaults
  -- the defaults of keywords come before those of positions
  let keywordCount := p.keywordOnly.countP Prod.snd
  let positional := names.zipIdx.map fun (name, i) =>
    if i < plain then name
    else name ++ "=" ++ (defaults.drop keywordCount).getD (i - plain) ""
  let slash := if p.positionalOnly.isEmpty then positional
    else positional.take p.positionalOnly.length ++ "/" :: positional.drop p.positionalOnly.length
  let star := match p.variadic with
    | some name => ["*" ++ name]
    | none => if p.keywordOnly.isEmpty then [] else ["*"]
  let rec keywords : List (String × Bool) → List String → List String
    | [], _ => []
    | (name, true) :: rest, d :: ds => (name ++ "=" ++ d) :: keywords rest ds
    | (name, _) :: rest, ds => name :: keywords rest ds
  slash ++ star ++ keywords p.keywordOnly defaults
    ++ (p.keywordVariadic.map ("**" ++ ·)).toList

/-- The entries of a dictionary, given the texts of its keys and of its values. -/
def spellEntries : List Bool → (keys values : List String) → List String
  | true :: rest, k :: keys, v :: values => (k ++ ": " ++ v) :: spellEntries rest keys values
  | false :: rest, keys, v :: values => ("**" ++ v) :: spellEntries rest keys values
  | _, _, _ => []

/-- The clauses of a comprehension. -/
def spellClauses : List Clause → List String → String
  | c :: rest, target :: source :: texts =>
    (if c.isAsync then " async for " else " for ") ++ target ++ " in " ++ source
      ++ String.join ((texts.take c.conditions).map (" if " ++ ·))
      ++ spellClauses rest (texts.drop c.conditions)
  | _, _ => ""

/-- Does an attribute of the expression need a space before its dot? -/
def Expr.isInteger : Expr → Bool
  | .literal (.integer _) | .literal .true | .literal .false => true
  | _ => false

/-- Is the expression a literal? -/
def Expr.isLiteral : Expr → Bool
  | .literal _ => true
  | _ => false

/-- The text of a form, given its parts and their texts. -/
def Form.spell (form : Form) (parts : List Expr) (texts : List String) : String :=
  match form, texts with
  | .attribute name, value :: _ =>
    value ++ (if parts.any Expr.isInteger then " ." else ".") ++ name
  | .subscript, [value, index] =>
    value ++ "[" ++ index ++ "]"
  | .call positional keywords, function :: arguments =>
    function ++ "(" ++ listed (arguments.take positional
      ++ (keywords.zip (arguments.drop positional)).map fun (name, value) =>
        match name with
        | some name => name ++ "=" ++ value
        | none => "**" ++ value) ++ ")"
  | .tuple, _ => tupled texts
  | .list, _ => "[" ++ listed texts ++ "]"
  | .set, [] => "\x7b*()\x7d"
  | .set, _ => "\x7b" ++ listed texts ++ "\x7d"
  | .dictionary keyed, _ => "\x7b" ++ listed (spellEntries keyed (texts.take (keyed.count true)) (texts.drop (keyed.count true))) ++ "\x7d"
  | .unary op, operand :: _ => op.sign ++ operand
  | .binary op, [left, right] => left ++ " " ++ op.sign ++ " " ++ right
  | .boolean op, _ => (" " ++ op.sign ++ " ").intercalate texts
  | .comparison ops, first :: rest =>
    first ++ String.join ((ops.zip rest).map fun (op, text) => " " ++ op.sign ++ " " ++ text)
  | .conditional, [condition, value, other] => value ++ " if " ++ condition ++ " else " ++ other
  | .lambda params, _ =>
    let shown := listed (params.spell texts.dropLast)
    "lambda" ++ (if shown = "" then "" else " " ++ shown) ++ ": " ++ texts.getLastD ""
  | .comprehension .dictionary clauses, key :: value :: rest =>
    "\x7b" ++ key ++ ": " ++ value ++ spellClauses clauses rest ++ "\x7d"
  | .comprehension kind clauses, element :: rest =>
    let inside := element ++ spellClauses clauses rest
    match kind with
    | .list => "[" ++ inside ++ "]"
    | .generator => "(" ++ inside ++ ")"
    | _ => "\x7b" ++ inside ++ "\x7d"
  | .named, [target, value] => target ++ " := " ++ value
  | .await, value :: _ => "await " ++ value
  | .yield, value :: _ => "yield " ++ value
  | .yield, [] => "yield"
  | .yieldFrom, value :: _ => "yield from " ++ value
  | .starred, value :: _ => "*" ++ value
  | .slice lower upper step, _ =>
    let (before, texts) := if lower then (texts.take 1, texts.drop 1) else ([], texts)
    let (middle, texts) := if upper then (texts.take 1, texts.drop 1) else ([], texts)
    String.join before ++ ":" ++ String.join middle
      ++ (if step then ":" ++ String.join texts else "")
  | _, _ => String.join texts

/-- Does a form need parentheses at a level? An empty tuple always has them. -/
def Form.isEnclosed (form : Form) (level : Level) (parts : List Expr) : Bool :=
  match form with
  | .tuple => parts.isEmpty || level > form.level
  | _ => level > form.level

/-- Text in parentheses if asked for. -/
def enclosed (wanted : Bool) (text : String) : String :=
  if wanted then "(" ++ text ++ ")" else text

mutual
/-- The text of an expression at a level; `inner` says that it stands in a replacement
    field of a formatted text. -/
def Expr.print (inner : Bool) (level : Level) : Expr → String
  | .name id => id
  | .literal value => value.spell inner
  | .apply form parts =>
    match form with
    | .joined =>
      if inner then "f" ++ plainText (fieldsOf parts).flatten
      else formattedText ((parts.map Expr.isLiteral).zip (fieldsOf parts))
    | .replacement conversion => ofCodes (fieldOf (.apply (.replacement conversion) parts))
    | _ =>
      enclosed (form.isEnclosed level parts)
        (form.spell parts (printParts inner form 0 parts))

/-- The texts of the parts of a form, from the part with the given index on. -/
def printParts (inner : Bool) (form : Form) (index : Nat) : List Expr → List String
  | [] => []
  | e :: rest =>
    Expr.print inner (form.partLevel index e) e :: printParts inner form (index + 1) rest

/-- A part of a formatted text. -/
def fieldOf : Expr → List Nat
  | .literal (.text codes _) => doubleBraces codes
  | .apply .joined parts => (fieldsOf parts).flatten
  | .apply (.replacement conversion) [value] =>
    fieldCodes (Expr.print true (Level.test.above 1) value) conversion none
  | .apply (.replacement conversion) (value :: format :: _) =>
    fieldCodes (Expr.print true (Level.test.above 1) value) conversion
      (some (fieldOf format))
  | _ => []

/-- The parts of a formatted text. -/
def fieldsOf : List Expr → List (List Nat)
  | [] => []
  | e :: rest => fieldOf e :: fieldsOf rest
end

/-! ### Expressions without a text -/

/-- Why an expression has no text. -/
inductive PrintFault where
  /-- A formatted text has a part that is neither literal text nor a replacement field. -/
  | strayPart (kind : String)
  /-- A replacement field would need a backslash. -/
  | backslash
  /-- A whole number has too many digits. It can be spelled in another base only. -/
  | digits
  deriving Repr, DecidableEq

/-- The wording of a fault. -/
def PrintFault.message : PrintFault → String
  | .strayPart kind => "Unexpected node inside JoinedStr, <ast." ++ kind ++ " object at 0x0>"
  | .backslash => "Unable to avoid backslash in f-string expression part"
  | .digits => "Exceeds the limit (" ++ toString maxDigits ++ " digits) for integer string "
      ++ "conversion; use sys.set_int_max_str_digits() to increase the limit"

/-- The name of the kind of an expression. -/
def Expr.kind : Expr → String
  | .name _ => "Name"
  | .literal _ => "Constant"
  | .apply form _ =>
    match form with
    | .attribute _ => "Attribute"
    | .subscript => "Subscript"
    | .call .. => "Call"
    | .tuple => "Tuple"
    | .list => "List"
    | .set => "Set"
    | .dictionary _ => "Dict"
    | .unary _ => "UnaryOp"
    | .binary _ => "BinOp"
    | .boolean _ => "BoolOp"
    | .comparison _ => "Compare"
    | .conditional => "IfExp"
    | .lambda _ => "Lambda"
    | .comprehension .list _ => "ListComp"
    | .comprehension .set _ => "SetComp"
    | .comprehension .generator _ => "GeneratorExp"
    | .comprehension .dictionary _ => "DictComp"
    | .named => "NamedExpr"
    | .await => "Await"
    | .yield => "Yield"
    | .yieldFrom => "YieldFrom"
    | .starred => "Starred"
    | .slice .. => "Slice"
    | .joined => "JoinedStr"
    | .replacement _ => "FormattedValue"

/-- Why a literal has no text, if it has none. -/
def Literal.fault? : Literal → Option PrintFault
  | .integer n => if n < Nat.pow 10 maxDigits then .none else some .digits
  | _ => .none

mutual
/-- Why an expression has no text, if it has none. -/
def Expr.fault? : Expr → Option PrintFault
  | .name _ => none
  | .literal value => value.fault?
  | .apply form parts =>
    match form with
    | .joined => fieldsFault? parts
    | .replacement conversion => fieldFault? (.apply (.replacement conversion) parts)
    | _ => partsFault? parts

/-- The first fault among the parts of a form. -/
def partsFault? : List Expr → Option PrintFault
  | [] => none
  | e :: rest => e.fault?.or (partsFault? rest)

/-- The fault of a part of a formatted text. -/
def fieldFault? : Expr → Option PrintFault
  | .literal (.text _ _) => none
  | .apply .joined parts => fieldsFault? parts
  | .apply (.replacement _) [value] => valueFault? value
  | .apply (.replacement _) (value :: format :: _) =>
    (valueFault? value).or (fieldFault? format)
  | e => some (.strayPart e.kind)

/-- The fault of the value of a replacement field. -/
def valueFault? (value : Expr) : Option PrintFault :=
  value.fault?.or
    (if (Expr.print true (Level.test.above 1) value).contains '\\' then some .backslash
    else none)

/-- The first fault among the parts of a formatted text. -/
def fieldsFault? : List Expr → Option PrintFault
  | [] => none
  | e :: rest => (fieldFault? e).or (fieldsFault? rest)
end

/-- The text of an expression, or why it has none. -/
def Expr.text (e : Expr) : Except PrintFault String :=
  match e.fault? with
  | some fault => .error fault
  | none => .ok (e.print false Level.test)

end Waymark.Grammar

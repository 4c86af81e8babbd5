import Waymark.Grammar.Expression
import Waymark.Text.Lines

/-! # Parsing statements

    Statements are read for their structure: all of the grammar is checked, and kept is
    what `Statement` has room for. The rules are tied together by `Rules.atDepth`, and
    `parseModule` and `parseExpression` are the two ways in. They go as deep as the text
    does. Brackets and blocks have their limits, other nesting has none.
-/

namespace Waymark.Grammar

namespace Rules

open Parser

variable (r : Rules)

/-! ### Simple statements -/

/-- Operators that assign to a single target. -/
def augmentedOps : List String :=
  ["+=", "-=", "*=", "@=", "/=", "%=", "&=", "|=", "^=", "<<=", ">>=", "**=", "//="]

/-- The right side of an assignment. -/
def assignedValue : Parser Expr := do
  if ← isWord "yield" then r.yieldExpression else r.starExpressions

/-- Reads further targets and the value of an assignment, after the first target. -/
def assignments : (limit : Nat) → Parser (List Expr)
  | 0 => refuse
  | limit + 1 => do
    if ← acceptOp "=" then
      let e ← r.assignedValue
      return e :: (← assignments limit)
    else return []

/-- Complains in the second pass of a target that cannot be assigned to, if a value
    follows; else refuses. -/
def badTarget {α : Type} (start : Token) (value : Parser Expr) : Parser α := do
  if ← isDiagnosing then
    if ← follows (do advance; value) then complain start.line else refuse
  else refuse

/-- Reads an assignment, or an expression on its own. -/
def assignmentOrExpression : Parser Statement := do
  let start ← peek
  let first ← r.assignedValue
  let token ← peek
  if token.kind == .operator && token.spelling == ":" then
    if !(isSingleTarget first) then badTarget start r.expression
    else
      advance
      let typeExpr ← r.expression
      if ← acceptOp "=" then
        let value ← r.assignedValue
        return .annotate first typeExpr (some value)
      else return .annotate first typeExpr none
  else if token.kind == .operator && token.spelling == "=" then
    if !(isStarTarget first) then
      if ← isDiagnosing then complain start.line else refuse
    else
      let rest ← r.assignments r.limit
      -- all but the last one are targets
      require (rest.dropLast.all isStarTarget)
      let targets := first :: rest.dropLast
      match rest.getLast? with
      | some value => return .assign targets value
      | none => refuse
  else if token.kind == .operator && augmentedOps.contains token.spelling then
    if !(isSingleTarget first) then badTarget start r.assignedValue
    else
      advance
      let _ ← r.assignedValue
      return .simple
  else return .simple

/-- A dotted name. -/
def dottedName : Parser String := do
  let first ← name
  let rest ← many (do op "."; name) r.limit
  return ".".intercalate (first :: rest)

/-- The new name that an import gives, if it gives one. -/
def newName : Parser (Option String) := do
  if ← acceptWord "as" then return some (← name) else return none

/-- `import a.b as c, d` -/
def importModules : Parser Statement := do
  word "import"
  let item : Parser Alias := do
    let id ← r.dottedName
    return { name := id, newName := ← newName }
  let (items, trailing) ← commaList r.limit item
  require !trailing
  return .importModules items

/-- The dots in front of a relative import. -/
def importDots : (limit : Nat) → Parser Nat
  | 0 => pure 0
  | limit + 1 => do
    if ← acceptOp "." then return 1 + (← importDots limit)
    else if ← acceptOp "..." then return 3 + (← importDots limit)
    else return 0

/-- `from ..a import b as c` -/
def importItems : Parser Statement := do
  word "from"
  let level ← importDots r.limit
  let module ← attempt r.dottedName
  -- behind dots the module may be left out
  require (level > 0 || module.isSome)
  word "import"
  let item : Parser Alias := do
    let id ← name
    return { name := id, newName := ← newName }
  if ← acceptOp "*" then return .importItems level module [{ name := "*" }]
  else if ← acceptOp "(" then
    let (items, _) ← commaList r.limit item
    op ")"
    return .importItems level module items
  else
    let (items, trailing) ← commaList r.limit item
    require !trailing
    return .importItems level module items

/-- Can the expression be deleted? -/
def isDeletable (e : Expr) : Bool :=
  isTarget e && !(hasStarred e)
where
  hasStarred : Expr → Bool
    | .apply .tuple parts | .apply .list parts => parts.any isStarred
    | _ => false

/-- One simple statement. -/
def simpleStatement : Parser Statement := do
  let token ← peek
  if token.kind != .name then r.assignmentOrExpression
  else
    match token.spelling with
    | "return" =>
      advance
      let _ ← attempt r.starExpressions
      return .simple
    | "import" => r.importModules
    | "from" => r.importItems
    | "raise" =>
      advance
      if (← attempt r.expression).isSome then
        if ← acceptWord "from" then let _ ← r.expression
      return .simple
    | "pass" | "break" | "continue" =>
      advance
      return .simple
    | "del" =>
      advance
      let (items, _) ← commaList r.limit r.primary
      require (items.all isDeletable)
      return .simple
    | "assert" =>
      advance
      let _ ← r.expression
      if ← acceptOp "," then let _ ← r.expression
      return .simple
    | "global" | "nonlocal" =>
      advance
      let (_, trailing) ← commaList r.limit name
      require !trailing
      return .simple
    | _ => r.assignmentOrExpression

/-- Simple statements up to the end of the line. -/
def simpleStatements : Parser (List Statement) := do
  let first ← r.simpleStatement
  let (rest, _) ← afterSeparators (acceptOp ";") r.simpleStatement r.limit
  let _ ← kind .newline
  return first :: rest

/-! ### Blocks -/

/-- The statements of a suite: on the same line, or indented below. -/
def block : Parser (List Statement) := do
  op ":"
  if (← attempt (kind .newline)).isSome then
    let _ ← kind .indent
    let body ← r.statements
    require !body.isEmpty
    let _ ← kind .dedent
    return body
  else r.simpleStatements

/-- The suite after a word, if the word is there. -/
def blockAfter (w : String) : Parser (List Statement) := do
  if ← acceptWord w then r.block else return []

/-- `elif` and `else` after an `if`. -/
def alternatives : (limit : Nat) → Parser (List Statement)
  | 0 => refuse
  | limit + 1 => do
    if ← acceptWord "elif" then
      let _ ← r.namedExpression
      let body ← r.block
      return body ++ (← alternatives limit)
    else r.blockAfter "else"

/-- One context manager of a `with`, with its target. -/
def withItem : Parser Unit := do
  let _ ← r.expression
  if ← acceptWord "as" then
    let e ← if ← acceptOp "*" then pure (Expr.apply .starred [← r.bitOr]) else r.bitOr
    require (isStarTarget e)
    require ((← isOp ",") || (← isOp ")") || (← isOp ":"))

/-- `with`, whose items may stand in parentheses. -/
def withStatement : Parser Statement := do
  word "with"
  let enclosed : Parser Unit := do
    op "("
    let _ ← commaList r.limit r.withItem
    op ")"
    require (← isOp ":")
  match ← attempt enclosed with
  | some _ => return .compound (← r.block)
  | none =>
    let (_, trailing) ← commaList r.limit r.withItem
    require !trailing
    return .compound (← r.block)

/-- The handlers of a `try`. -/
def handlers : (limit : Nat) → Parser (List (List Statement))
  | 0 => pure []
  | limit + 1 => do
    if ← acceptWord "except" then
      let starred ← acceptOp "*"
      if !(← isOp ":") || starred then
        let _ ← r.expression
        if ← acceptWord "as" then let _ ← name
      let body ← r.block
      return body :: (← handlers limit)
    else return []

/-- `try` -/
def tryStatement : Parser Statement := do
  word "try"
  let body ← r.block
  let caught ← r.handlers r.limit
  if caught.isEmpty then
    word "finally"
    let last ← r.block
    return .compound (body ++ last)
  else
    let other ← r.blockAfter "else"
    let last ← r.blockAfter "finally"
    return .compound (body ++ caught.flatten ++ other ++ last)

/-- `for` -/
def forStatement : Parser Statement := do
  word "for"
  let _ ← r.starTargets
  word "in"
  let _ ← r.starExpressions
  let body ← r.block
  let other ← r.blockAfter "else"
  return .compound (body ++ other)

/-- Lines of decorators. -/
def decorators : (limit : Nat) → Parser (List Expr)
  | 0 => pure []
  | limit + 1 => do
    if ← acceptOp "@" then
      let e ← r.namedExpression
      let _ ← kind .newline
      return e :: (← decorators limit)
    else return []

/-- A class after its decorators. -/
def classDefinition (decorated : List Expr) : Parser Statement := do
  let start ← peek
  word "class"
  let id ← name
  let arguments ← if ← acceptOp "(" then r.arguments else pure []
  let body ← r.block
  let bases := arguments.filterMap fun
    | .positional e | .starred e => some e
    | _ => none
  return .classDef id bases decorated body start.line

/-- A function after its decorators. -/
def functionDefinition (decorated : List Expr) : Parser Statement := do
  word "def"
  let id ← name
  op "("
  let _ ← r.parameters true ")"
  op ")"
  if ← acceptOp "->" then let _ ← r.expression
  let body ← r.block
  return .functionDef id decorated body

/-! ### Patterns -/

/-- A dotted name in a pattern: whether it has dots. -/
def patternName : Parser Bool := do
  let _ ← name
  let rest ← many (do op "."; name) r.limit
  return !rest.isEmpty

/-- A number in a pattern, which may be negative and complex. -/
def patternNumber : Parser Unit := do
  let _ ← acceptOp "-"
  let _ ← kind .number
  if ← acceptAnyOp ["+", "-"] then let _ ← kind .number

/-- Patterns between commas up to a closing operator, of which some may be starred. -/
def patternList (stop : String) : Parser (Nat × Bool) := do
  let item : Parser Unit := do
    if ← acceptOp "*" then let _ ← name else r.pattern
  if ← acceptOp stop then return (0, false)
  else
    let (items, trailing) ← commaList r.limit item
    op stop
    return (items.length, trailing)

/-- An entry of a mapping pattern. -/
def patternEntry : Parser Unit := do
  if ← acceptOp "**" then let _ ← name
  else
    let token ← peek
    if token.kind == .text then let _ ← r.texts r.starExpressions
    else if token.kind == .number || token.spelling == "-" then patternNumber
    else if ← acceptAnyWord ["None", "True", "False"] then pure ()
    else
      let dotted ← r.patternName
      require dotted
    op ":"
    r.pattern

/-- An argument of a class pattern. -/
def patternArgument : Parser Unit := do
  let _ ← attempt (do let _ ← name; op "=")
  r.pattern

/-- A pattern without alternatives. -/
def closedPattern : Parser Unit := do
  let token ← peek
  match token.kind with
  | .text => let _ ← r.texts r.starExpressions
  | .number => patternNumber
  | .name =>
    if ← acceptAnyWord ["None", "True", "False"] then pure ()
    else
      let _ ← r.patternName
      if ← acceptOp "(" then
        if !(← acceptOp ")") then
          let _ ← commaList r.limit r.patternArgument
          op ")"
  | .operator =>
    if ← isOp "-" then patternNumber
    else if ← acceptOp "(" then let _ ← r.patternList ")"
    else if ← acceptOp "[" then let _ ← r.patternList "]"
    else if ← acceptOp "\x7b" then
      if !(← acceptOp "\x7d") then
        let _ ← commaList r.limit r.patternEntry
        op "\x7d"
    else refuse
  | _ => refuse

/-- Alternatives of patterns, which may be given a name. -/
def patternRule : Parser Unit := do
  r.closedPattern
  let _ ← many (do op "|"; r.closedPattern) r.limit
  if ← acceptWord "as" then let _ ← name

/-- One case of a `match`. -/
def caseBlock : Parser (List Statement) := do
  word "case"
  let item : Parser Unit := do
    if ← acceptOp "*" then let _ ← name else r.pattern
  let _ ← commaList r.limit item
  if ← acceptWord "if" then let _ ← r.namedExpression
  r.block

/-- `match` -/
def matchStatement : Parser Statement := do
  word "match"
  let _ ← commaList r.limit r.starNamedExpression
  op ":"
  let _ ← kind .newline
  let _ ← kind .indent
  let cases ← many r.caseBlock r.limit
  require !cases.isEmpty
  let _ ← kind .dedent
  return .compound cases.flatten

/-! ### Statements -/

/-- A compound statement that may follow `async`. -/
def asyncStatement (decorated : List Expr) : Parser Statement := do
  if ← isWord "def" then r.functionDefinition decorated
  else if !decorated.isEmpty then refuse
  else if ← isWord "for" then r.forStatement
  else if ← isWord "with" then r.withStatement
  else refuse

/-- One statement, or the simple statements of one line. -/
def statement : Parser (List Statement) := do
  let token ← peek
  if token.kind == .operator && token.spelling == "@" then
    let decorated ← r.decorators r.limit
    if ← isWord "class" then return [← r.classDefinition decorated]
    else if ← acceptWord "async" then return [← r.asyncStatement decorated]
    else return [← r.functionDefinition decorated]
  else if token.kind != .name then r.simpleStatements
  else
    match token.spelling with
    | "if" =>
      advance
      let _ ← r.namedExpression
      let body ← r.block
      return [.compound (body ++ (← r.alternatives r.limit))]
    | "while" =>
      advance
      let _ ← r.namedExpression
      let body ← r.block
      return [.compound (body ++ (← r.blockAfter "else"))]
    | "for" => return [← r.forStatement]
    | "try" => return [← r.tryStatement]
    | "with" => return [← r.withStatement]
    | "class" => return [← r.classDefinition []]
    | "def" => return [← r.functionDefinition []]
    | "async" =>
      advance
      return [← r.asyncStatement []]
    | "match" =>
      -- the word is no keyword, so the statement may be any other one
      match ← attempt r.matchStatement with
      | some s => return [s]
      | none => r.simpleStatements
    | _ => r.simpleStatements

/-- Statements up to the end of the block or of the text. -/
def statementsFrom : (limit : Nat) → Parser (List Statement)
  | 0 => pure []
  | limit + 1 => do
    let token ← peek
    if token.kind == .finish || token.kind == .dedent then return []
    else
      let first ← r.statement
      return first ++ (← statementsFrom limit)

/-- A whole module. -/
def module : Parser (List Statement) := do
  let body ← r.statementsFrom r.limit
  let _ ← kind .finish
  return body

/-- An expression on its own: expressions between commas, none of them starred. -/
def soleExpression : Parser Expr := do
  let (items, trailing) ← commaList r.limit r.expression
  let _ ← many (kind .newline) r.limit
  let _ ← kind .finish
  return tupleOf items trailing

/-! ### Tying the rules together -/

/-- The rules for texts that are nested at most `depth` deep. -/
def atDepth (limit : Nat) : (depth : Nat) → Rules
  | 0 =>
    { limit
      expression := refuse
      inversion := refuse
      factor := refuse
      statements := refuse
      pattern := refuse }
  | depth + 1 =>
    { limit
      expression := fun input => (atDepth limit depth).expressionRule input
      inversion := fun input => (atDepth limit depth).inversionRule input
      factor := fun input => (atDepth limit depth).factorRule input
      statements := fun input => (atDepth limit depth).statementsFrom limit input
      pattern := fun input => (atDepth limit depth).patternRule input }

end Rules

/-! ### Ways in -/

/-- A text that does not parse: the line of the fault and what is shown of it. -/
structure Malformed where
  line : Nat
  shown : String
  deriving Repr, DecidableEq

/-- The line on which the reading of a line began: an earlier one if the line goes on with
    a token, or continues another line. -/
def readingStart (tokens : List Token) (lines : List (List Char)) : (line : Nat) → Nat
  | 0 => 0
  | line + 1 =>
    let goesOn := tokens.any fun t => t.line ≤ line && t.lastLine ≥ line + 1
    let continues := (lines.getD (line - 1) []).getLast? == some '\\'
    if line > 0 && (goesOn || continues) then readingStart tokens lines line else line + 1

/-- What is shown of a text for a fault: the line, and if nothing later was read, what was
    read together with it. -/
def FaultPlace.excerpt (place : FaultPlace) (tokens : List Token) (cs : List Char) : String :=
  let lines := Text.splitWhere (· == '\n') cs
  if place.isLatest then
    let first := readingStart tokens lines place.line
    let shown := (lines.take place.line).drop (first - 1)
    let text := List.intercalate ['\n'] shown
    String.ofList (if place.line < lines.length then text ++ ['\n'] else text)
  else String.ofList (lines.getD (place.line - 1) [])

/-- Parses a text in its one form of line ends. Each bracket, block or sign takes at most
    three rules in a row that come back to themselves. -/
def parseWith {α : Type} (rule : Rules → Parser α) (cs : List Char) : Except Malformed α :=
  let tokens := tokenize 1 cs
  let size := cs.length + 2
  match (rule (Rules.atDepth size (3 * size))).run tokens.tokens with
  | .ok a => .ok a
  | .error c =>
    let place := c.place tokens
    .error { line := place.line
             shown := place.shown.getD (place.excerpt tokens.tokens cs) }

/-- The text with a line end at its end. -/
def endLine (cs : List Char) : List Char :=
  if cs.getLast? = some '\n' then cs else cs ++ ['\n']

/-- The statements of a module. -/
def parseModule (source : List Char) : Except Malformed (List Statement) :=
  parseWith Rules.module (endLine (Text.unifyLineEnds source))

/-- The expression that a text spells. -/
def parseExpression (source : List Char) : Except Malformed Expr :=
  parseWith Rules.soleExpression (Text.unifyLineEnds source)

end Waymark.Grammar

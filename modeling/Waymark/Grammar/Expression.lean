import Waymark.Grammar.Parser

/-! # Parsing expressions

    One function per rule of the grammar. A rule that comes back to itself does so
    through `Rules`, a record of the parsers one level further in; so no rule is
    recursive, and the depth of nesting that can be read is a number that the caller
    chooses (`Statement.lean` takes the number of tokens, which is enough for all).
-/

namespace Waymark.Grammar

/-- The parsers that rules use for what is nested in them, and a bound on the number of
    items of a list. -/
structure Rules where
  limit : Nat
  expression : Parser Expr
  inversion : Parser Expr
  factor : Parser Expr
  statements : Parser (List Statement)
  pattern : Parser Unit

namespace Rules

open Parser

variable (r : Rules)

/-! ### Operators -/

/-- Reads operands between operators that associate to the left. -/
def leftChain (operator : Parser (Option BinaryOp)) (operand : Parser Expr) :
    (limit : Nat) → Expr → Parser Expr
  | 0, left => pure left
  | limit + 1, left => do
    match ← operator with
    | none => return left
    | some op =>
      advance
      let right ← operand
      leftChain operator operand limit (.apply (.binary op) [left, right])

/-- Which of some operators comes next? -/
def binaryAmong (table : List (String × BinaryOp)) : Parser (Option BinaryOp) := do
  let token ← peek
  if token.kind == .operator then return table.lookup token.spelling else return none

/-- A level of operators that associate to the left. -/
def binaryLevel (table : List (String × BinaryOp)) (operand : Parser Expr) : Parser Expr := do
  let first ← operand
  leftChain (binaryAmong table) operand r.limit first

/-- Reads operands, each after a word. -/
def wordOperands (joint : String) (operand : Parser Expr) : (limit : Nat) → Parser (List Expr)
  | 0 => pure []
  | limit + 1 => do
    if ← acceptWord joint then
      let e ← operand
      return e :: (← wordOperands joint operand limit)
    else return []

/-- Reads operands between a word; a single operand stays as it is. -/
def wordChain (joint : String) (op : BoolOp) (operand : Parser Expr) : Parser Expr := do
  let first ← operand
  let rest ← wordOperands joint operand r.limit
  if rest.isEmpty then return first else return .apply (.boolean op) (first :: rest)

/-! ### Targets -/

mutual
/-- Can the expression be assigned to? -/
def isTarget : Expr → Bool
  | .name _ => true
  | .apply (.attribute _) _ => true
  | .apply .subscript _ => true
  | .apply .tuple parts => areTargets parts
  | .apply .list parts => areTargets parts
  | _ => false

/-- Can all the expressions be assigned to, where some may be starred? -/
def areTargets : List Expr → Bool
  | [] => true
  | .apply .starred [e] :: rest => isTarget e && areTargets rest
  | e :: rest => isTarget e && areTargets rest
end

/-- Can the expression, which may be starred, be assigned to? -/
def isStarTarget (e : Expr) : Bool :=
  areTargets [e]

/-- Can the expression be assigned to as a single thing? -/
def isSingleTarget : Expr → Bool
  | .name _ | .apply (.attribute _) _ | .apply .subscript _ => true
  | _ => false

/-- A list of items as one expression: a single item without a comma stays as it is. -/
def tupleOf (items : List Expr) (trailing : Bool) : Expr :=
  match items, trailing with
  | [e], false => e
  | _, _ => .apply .tuple items

/-! ### Parameters of a lambda or a function -/

/-- What a parameter list has had so far. -/
structure ParameterState where
  params : Parameters := {}
  defaults : List Expr := []
  keywordDefaults : List Expr := []
  sawSlash : Bool := false
  sawStar : Bool := false
  needsKeyword : Bool := false
  closed : Bool := false

/-- Reads one parameter after what was read already. Annotations are read only where
    there may be some. -/
def parameter (annotated : Bool) (s : ParameterState) : Parser ParameterState := do
  require !s.closed
  let typeExpr (starred : Bool) : Parser Unit := do
    if annotated then
      if ← acceptOp ":" then
        if starred then let _ ← acceptOp "*"
        let _ ← r.expression
  let default : Parser (Option Expr) := do
    if ← acceptOp "=" then return some (← r.expression) else return none
  if ← acceptOp "/" then
    require (!s.sawSlash && !s.sawStar && !s.params.positional.isEmpty)
    return { s with sawSlash := true
                    params := { s.params with positionalOnly := s.params.positional, positional := [] } }
  else if ← acceptOp "*" then
    -- a bare star must be followed by a parameter that has a name
    require !s.sawStar
    match ← attempt name with
    | some id =>
      typeExpr true
      return { s with sawStar := true, params := { s.params with variadic := some id } }
    | none => return { s with sawStar := true, needsKeyword := true }
  else if ← acceptOp "**" then
    require !s.needsKeyword
    let id ← name
    typeExpr false
    return { s with closed := true, params := { s.params with keywordVariadic := some id } }
  else
    let id ← name
    typeExpr false
    let value ← default
    if s.sawStar then
      return { s with needsKeyword := false
                      keywordDefaults := s.keywordDefaults ++ value.toList
                      params := { s.params with keywordOnly := s.params.keywordOnly ++ [(id, value.isSome)] } }
    else
      -- once a parameter has a default, those after it must have one
      require (value.isSome || s.defaults.isEmpty)
      return { s with defaults := s.defaults ++ value.toList
                      params := { s.params with positional := s.params.positional ++ [id]
                                                defaults := s.params.defaults + value.toList.length } }

/-- Reads parameters up to the operator that ends them. -/
def parametersFrom (annotated : Bool) (stop : String) :
    (limit : Nat) → ParameterState → Parser ParameterState
  | 0, _ => refuse
  | limit + 1, s => do
    if ← isOp stop then
      require !s.needsKeyword
      return s
    else
      let s ← r.parameter annotated s
      if ← acceptOp "," then
        require (!s.needsKeyword || !(← isOp stop))
        parametersFrom annotated stop limit s
      else
        require ((← isOp stop) && !s.needsKeyword)
        return s

/-- The parameters and their default values, in the order of the parts of a lambda. -/
def parameters (annotated : Bool) (stop : String) : Parser (Parameters × List Expr) := do
  let s ← r.parametersFrom annotated stop r.limit {}
  return (s.params, s.keywordDefaults ++ s.defaults)

/-! ### Texts -/

/-- Neighbouring text literals become one. -/
structure TextState where
  parts : List Expr := []
  pending : List Nat := []
  isFormatted : Bool := false

/-- Ends the literal text that is pending. -/
def TextState.flush (s : TextState) : TextState :=
  if s.pending.isEmpty then s
  else { s with parts := s.parts ++ [.literal (.text s.pending false)], pending := [] }

/-- Runs a parser on the source of a replacement field, which is read as if it stood in
    parentheses. -/
def fieldExpression (starExpressions : Parser Expr) (line : Nat) (source : List Char) :
    Parser Expr := do
  let tokens := tokenize line ('(' :: source ++ [')'])
  match run starExpressions tokens.tokens with
  | .ok e => return e
  | .error c =>
    complain (c.place tokens).line (some (String.ofList ('(' :: source ++ [')', '\n'])))

/-- The expressions of the pieces of a formatted text that begins on a line. -/
def addPieces (starExpressions : Parser Expr) (line : Nat) :
    (fuel : Nat) → List Piece → TextState → Parser TextState
  | 0, _, _ => refuse
  | _, [], s => pure s
  | fuel + 1, .literal codes :: rest, s =>
    addPieces starExpressions line fuel rest { s with pending := s.pending ++ codes }
  | fuel + 1, .field source linesBefore shown conversion format :: rest, s => do
    let value ← fieldExpression starExpressions (line + linesBefore) source
    let spec ← match format with
      | none => pure []
      | some pieces =>
        let inner ← addPieces starExpressions line fuel pieces {}
        pure [Expr.apply .joined inner.flush.parts]
    -- the source that is shown belongs to the text in front of the field
    let s := { s with pending := s.pending ++ shown.getD [] }.flush
    let field := Expr.apply (.replacement conversion) (value :: spec)
    addPieces starExpressions line fuel rest { s with parts := s.parts ++ [field] }
  | _ + 1, .broken :: _, _ => complainHere

/-- Reads one text literal after the ones before it. -/
def addText (starExpressions : Parser Expr) (token : Token) (t : TextSpelling)
    (s : TextState) : Parser TextState :=
  if t.isFormatted then do
    let fuel := t.body.length + 2
    let (pieces, rest) := splitPieces t.isRaw fuel 0 0 t.body
    let s ← addPieces starExpressions token.line (2 * fuel + 2) pieces { s with isFormatted := true }
    if rest.isEmpty then return s else complainHere
  else if t.isRaw then
    pure { s with pending := s.pending ++ t.body.map Char.toNat }
  else
    match decodeText 0 t.body with
    | some codes => pure { s with pending := s.pending ++ codes }
    | none => complainHere

/-- Joins byte strings. -/
def joinBytes : List (Token × TextSpelling) → Parser (List Nat)
  | [] => pure []
  | (token, t) :: rest => do
    if !t.isBytes then complainHere
    else if t.body.any (·.toNat ≥ 128) then complain token.line
    else
      let here := if t.isRaw then some (t.body.map Char.toNat) else decodeBytes 0 t.body
      match here with
      | none => complainHere
      | some values =>
        let later ← joinBytes rest
        return values ++ later

/-- Joins text literals. -/
def joinTexts (starExpressions : Parser Expr) : List (Token × TextSpelling) → TextState →
    Parser TextState
  | [], s => pure s
  | (token, t) :: rest, s => do
    if t.isBytes then
      if t.body.any (·.toNat ≥ 128) then complain token.line else complainHere
    else
      let s ← addText starExpressions token t s
      joinTexts starExpressions rest s

/-- Reads neighbouring text literals. -/
def texts (starExpressions : Parser Expr) : Parser Expr := do
  let tokens ← many (kind .text) r.limit
  let spellings := tokens.map fun t => (t, TextSpelling.ofChars t.spelling.toList)
  match spellings with
  | [] => refuse
  | (_, first) :: _ =>
    if first.isBytes then return .literal (.bytes (← joinBytes spellings))
    else
      let s ← joinTexts starExpressions spellings {}
      if s.isFormatted then return .apply .joined s.flush.parts
      else return .literal (.text s.pending first.isMarked)

/-! ### Atoms and what follows them -/

/-- `|`, `^`, `&`, shifts, sums and products, down to signs. -/
def bitOr : Parser Expr :=
  let term := r.binaryLevel [("*", .multiply), ("/", .divide), ("//", .floorDivide),
    ("%", .modulo), ("@", .matrixMultiply)] r.factor
  let sum := r.binaryLevel [("+", .add), ("-", .subtract)] term
  let shift := r.binaryLevel [("<<", .shiftLeft), (">>", .shiftRight)] sum
  let bitAnd := r.binaryLevel [("&", .bitAnd)] shift
  let bitXor := r.binaryLevel [("^", .bitXor)] bitAnd
  r.binaryLevel [("|", .bitOr)] bitXor

/-- Reads a comparison operator, if one comes next. -/
def compareOp : Parser (Option CompareOp) := do
  let token ← peek
  if token.kind == .operator then
    let table : List (String × CompareOp) := [("==", .equal), ("!=", .unequal), ("<", .less),
      ("<=", .lessEqual), (">", .greater), (">=", .greaterEqual)]
    match table.lookup token.spelling with
    | some op =>
      advance
      return some op
    | none => return none
  else if ← acceptWord "in" then return some .member
  else if ← acceptWord "is" then
    if ← acceptWord "not" then return some .notSame else return some .same
  else if ← isWord "not" then
    attempt (do
      advance
      word "in"
      return .notMember)
  else return none

/-- Comparison operators, each with its right operand. -/
def comparisons : (limit : Nat) → Parser (List (CompareOp × Expr))
  | 0 => pure []
  | limit + 1 => do
    match ← compareOp with
    | none => return []
    | some op =>
      let right ← r.bitOr
      return (op, right) :: (← comparisons limit)

/-- Operands between comparison operators. -/
def comparison : Parser Expr := do
  let first ← r.bitOr
  let rest ← r.comparisons r.limit
  if rest.isEmpty then return first
  else return .apply (.comparison (rest.map Prod.fst)) (first :: rest.map Prod.snd)

/-- `or`, `and` and what binds tighter. -/
def disjunction : Parser Expr :=
  r.wordChain "or" .or (r.wordChain "and" .and r.inversion)

/-- Reads a name and the sign that gives it a value in passing. -/
def namedTarget : Parser (Option String) :=
  attempt do
    let id ← name
    op ":="
    return id

/-- An expression that may be given a name in passing. -/
def namedExpression : Parser Expr := do
  match ← namedTarget with
  | some id =>
    let value ← r.expression
    return .apply .named [.name id, value]
  | none =>
    let e ← r.expression
    require !(← isOp ":=")
    return e

/-- An expression, or a starred operand. -/
def starExpression : Parser Expr := do
  if ← acceptOp "*" then return .apply .starred [← r.bitOr] else r.expression

/-- Expressions between commas, of which some may be starred. -/
def starExpressions : Parser Expr := do
  let (items, trailing) ← commaList r.limit r.starExpression
  return tupleOf items trailing

/-- An expression with or without a name, or a starred operand. -/
def starNamedExpression : Parser Expr := do
  if ← acceptOp "*" then return .apply .starred [← r.bitOr] else r.namedExpression

/-- Targets of a loop. -/
def starTargets : Parser Expr := do
  let target : Parser Expr := do
    let e ← if ← acceptOp "*" then pure (Expr.apply .starred [← r.bitOr]) else r.bitOr
    require (isStarTarget e)
    return e
  let (items, trailing) ← commaList r.limit target
  return tupleOf items trailing

/-- The value of a generator's `yield`. -/
def yieldExpression : Parser Expr := do
  word "yield"
  if ← acceptWord "from" then return .apply .yieldFrom [← r.expression]
  else
    match ← attempt r.starExpressions with
    | some e => return .apply .yield [e]
    | none => return .apply .yield []

/-- Conditions of a comprehension. -/
def conditions : (limit : Nat) → Parser (List Expr)
  | 0 => pure []
  | limit + 1 => do
    if ← acceptWord "if" then
      let e ← r.disjunction
      return e :: (← conditions limit)
    else return []

/-- Does a comprehension begin here? -/
def comprehensionFollows : Parser Bool := do
  if ← isWord "for" then return true
  else if ← isWord "async" then follows (do advance; word "for")
  else return false

/-- The clauses of a comprehension, with their parts. -/
def clauses : (limit : Nat) → Parser (List (Clause × List Expr))
  | 0 => pure []
  | limit + 1 => do
    if ← comprehensionFollows then
      let isAsync ← acceptWord "async"
      word "for"
      let target ← r.starTargets
      word "in"
      let source ← r.disjunction
      let conds ← r.conditions r.limit
      let later ← clauses limit
      return ({ isAsync, conditions := conds.length }, target :: source :: conds) :: later
    else return []

/-- A comprehension after its element. -/
def comprehension (kind : Comprehension) (front : List Expr) : Parser Expr := do
  let cs ← r.clauses r.limit
  require !cs.isEmpty
  return .apply (.comprehension kind (cs.map Prod.fst)) (front ++ cs.flatMap Prod.snd)

def isStarred : Expr → Bool
  | .apply .starred _ => true
  | _ => false

/-- Reads what stands in parentheses after the opening one. -/
def parenthesized : Parser Expr := do
  if ← acceptOp ")" then return .apply .tuple []
  else if ← isWord "yield" then
    let e ← r.yieldExpression
    op ")"
    return e
  else
    let first ← r.starNamedExpression
    if ← comprehensionFollows then
      require !(isStarred first)
      let e ← r.comprehension .generator [first]
      op ")"
      return e
    else
      let (rest, trailing) ← afterSeparators (acceptOp ",") r.starNamedExpression r.limit
      op ")"
      -- a starred item needs a comma
      require (!rest.isEmpty || trailing || !(isStarred first))
      return tupleOf (first :: rest) trailing

/-- Reads a list after its opening bracket. -/
def bracketed : Parser Expr := do
  if ← acceptOp "]" then return .apply .list []
  else
    let first ← r.starNamedExpression
    if ← comprehensionFollows then
      require !(isStarred first)
      let e ← r.comprehension .list [first]
      op "]"
      return e
    else
      let (rest, _) ← afterSeparators (acceptOp ",") r.starNamedExpression r.limit
      op "]"
      return .apply .list (first :: rest)

/-- An entry of a dictionary: its key, if it has one, and its value. -/
def entry : Parser (Option Expr × Expr) := do
  if ← acceptOp "**" then return (none, ← r.bitOr)
  else
    let key ← r.expression
    op ":"
    let value ← r.expression
    return (some key, value)

/-- A dictionary after its first entry. -/
def dictionaryFrom (first : Option Expr × Expr) : Parser Expr := do
  if ← comprehensionFollows then
    require first.1.isSome
    let e ← r.comprehension .dictionary (first.1.toList ++ [first.2])
    op "\x7d"
    return e
  else
    let (rest, _) ← afterSeparators (acceptOp ",") r.entry r.limit
    op "\x7d"
    let entries := first :: rest
    return .apply (.dictionary (entries.map fun e => e.1.isSome))
      (entries.filterMap Prod.fst ++ entries.map Prod.snd)

/-- Reads a dictionary or a set after its opening brace. -/
def braced : Parser Expr := do
  if ← acceptOp "\x7d" then return .apply (.dictionary []) []
  else if ← isOp "**" then
    let first ← r.entry
    r.dictionaryFrom first
  else
    -- neither a starred item nor a named one can be a key
    let isKey := !(← isOp "*") && !(← follows (do let _ ← name; op ":="))
    let first ← r.starNamedExpression
    if ← isOp ":" then
      require isKey
      advance
      let value ← r.expression
      r.dictionaryFrom (some first, value)
    else if ← comprehensionFollows then
      require !(isStarred first)
      let e ← r.comprehension .set [first]
      op "\x7d"
      return e
    else
      let (rest, _) ← afterSeparators (acceptOp ",") r.starNamedExpression r.limit
      op "\x7d"
      return .apply .set (first :: rest)

/-- Names, literals and what stands in brackets. -/
def atom : Parser Expr := do
  let token ← peek
  match token.kind with
  | .name =>
    if isName token then return .name (← name)
    else if ← acceptWord "True" then return .literal .true
    else if ← acceptWord "False" then return .literal .false
    else if ← acceptWord "None" then return .literal .none
    else refuse
  | .number =>
    advance
    match numberValue? token.spelling.toList with
    | some v => return .literal v
    | none => complain token.line
  | .text => r.texts r.starExpressions
  | .operator =>
    if ← acceptOp "(" then r.parenthesized
    else if ← acceptOp "[" then r.bracketed
    else if ← acceptOp "\x7b" then r.braced
    else if ← acceptOp "..." then return .literal .ellipsis
    else refuse
  | _ => refuse

/-- An argument of a call. -/
inductive Argument where
  | positional (e : Expr)
  | starred (e : Expr)
  | keyword (name : String) (e : Expr)
  | unpacked (e : Expr)

/-- Reads one argument. -/
def argument : Parser Argument := do
  if ← acceptOp "*" then return .starred (.apply .starred [← r.expression])
  else if ← acceptOp "**" then return .unpacked (← r.expression)
  else
    match ← attempt (do let id ← name; op "="; return id) with
    | some id => return .keyword id (← r.expression)
    | none =>
      let e ← r.namedExpression
      require !(← isOp "=")
      return .positional e

/-- May the arguments stand in this order? Positional ones come before keywords, and
    starred ones before unpacked mappings. -/
def argumentsInOrder : (sawKeyword sawUnpacked : Bool) → List Argument → Bool
  | _, _, [] => true
  | k, u, .positional _ :: rest => !k && !u && argumentsInOrder k u rest
  | k, u, .starred _ :: rest => !u && argumentsInOrder k u rest
  | _, u, .keyword _ _ :: rest => argumentsInOrder true u rest
  | _, _, .unpacked _ :: rest => argumentsInOrder true true rest

/-- The call of a function with some arguments. -/
def callOf (function : Expr) (arguments : List Argument) : Expr :=
  let positional := arguments.filterMap fun
    | .positional e | .starred e => some e
    | _ => none
  let keywords := arguments.filterMap fun
    | .keyword name e => some (some name, e)
    | .unpacked e => some (none, e)
    | _ => none
  .apply (.call positional.length (keywords.map Prod.fst))
    (function :: positional ++ keywords.map Prod.snd)

/-- Reads the arguments of a call up to the closing parenthesis. -/
def arguments : Parser (List Argument) := do
  if ← acceptOp ")" then return []
  else
    let first ← r.argument
    -- a generator that is the only argument needs no brackets of its own
    let generates ← match first with
      | .positional e =>
        if ← comprehensionFollows then
          let g ← r.comprehension .generator [e]
          op ")"
          pure (some [Argument.positional g])
        else pure none
      | _ => pure none
    match generates with
    | some arguments => return arguments
    | none =>
      let (rest, _) ← afterSeparators (acceptOp ",") r.argument r.limit
      require (argumentsInOrder false false (first :: rest))
      op ")"
      return first :: rest

/-- One index: a slice or an expression. -/
def sliceItem : Parser Expr := do
  let bound : Parser (Option Expr) := do
    if (← isOp ":") || (← isOp ",") || (← isOp "]") then return none
    else return some (← r.expression)
  let range (lower : Option Expr) : Parser Expr := do
    let upper ← bound
    let step ← if ← acceptOp ":" then bound else pure none
    return .apply (.slice lower.isSome upper.isSome step.isSome)
      (lower.toList ++ upper.toList ++ step.toList)
  if ← acceptOp ":" then range none
  else if ← acceptOp "*" then return .apply .starred [← r.expression]
  else
    match ← namedTarget with
    | some id => return .apply .named [.name id, ← r.expression]
    | none =>
      let first ← r.expression
      if ← acceptOp ":" then range (some first) else return first

/-- Reads an index after its opening bracket. -/
def subscriptIndex : Parser Expr := do
  let (items, trailing) ← commaList r.limit r.sliceItem
  op "]"
  match items, trailing with
  | [e], false => return if isStarred e then .apply .tuple [e] else e
  | _, _ => return .apply .tuple items

/-- One attribute, call or index after an expression. -/
def trailer (e : Expr) : Parser Expr := do
  if ← acceptOp "." then return .apply (.attribute (← name)) [e]
  else if ← acceptOp "(" then return callOf e (← r.arguments)
  else
    op "["
    return .apply .subscript [e, ← r.subscriptIndex]

/-- Attributes, calls and indices after an expression. -/
def trailers : (limit : Nat) → Expr → Parser Expr
  | 0, e => pure e
  | limit + 1, e => do
    match ← attempt (r.trailer e) with
    | some longer => trailers limit longer
    | none => return e

/-- An atom with what follows it. -/
def primary : Parser Expr := do
  let first ← r.atom
  r.trailers r.limit first

/-- Powers and awaited values. -/
def power : Parser Expr := do
  let base ← if ← acceptWord "await" then do
      let e ← r.primary
      pure (Expr.apply .await [e])
    else r.primary
  if ← acceptOp "**" then
    let exponent ← r.factor
    return .apply (.binary .power) [base, exponent]
  else return base

/-! ### The rules that come back to themselves -/

/-- Signs. -/
def factorRule : Parser Expr := do
  if ← acceptOp "+" then return .apply (.unary .plus) [← r.factor]
  else if ← acceptOp "-" then return .apply (.unary .minus) [← r.factor]
  else if ← acceptOp "~" then return .apply (.unary .invert) [← r.factor]
  else r.power

/-- Negations. -/
def inversionRule : Parser Expr := do
  if ← acceptWord "not" then return .apply (.unary .not) [← r.inversion] else r.comparison

/-- A lambda. -/
def lambdaExpression : Parser Expr := do
  word "lambda"
  let (params, defaults) ← r.parameters false ":"
  op ":"
  let body ← r.expression
  return .apply (.lambda params) (defaults ++ [body])

/-- Words that are names in most places; after one of them, or the beginning of one, a
    second expression may be meant as a statement. -/
def softWords : List String := ["_", "case", "match"]

/-- In the second pass: does another expression follow the one that begins at the token,
    inside brackets and with nothing between them? Then a comma may have been forgotten. -/
def forgottenComma (start : Token) (first : Expr) : Parser Unit := do
  if ← isDiagnosing then
    let next ← peek
    let depth := if next.spelling == "(" || next.spelling == "[" || next.spelling == "\x7b"
      then next.depth - 1 else next.depth
    let isExempt := match first with
      | .name id => id == "print" || id == "exec" || next.kind == .text
      | _ => false
    let isSoft := start.kind == .name && softWords.any fun w => w.startsWith start.spelling
    if !isExempt && !isSoft then
      if ← follows (quietly (orElse r.disjunction r.lambdaExpression)) then
        if depth > 0 then complain start.line

/-- Expressions. -/
def expressionRule : Parser Expr := do
  if ← isWord "lambda" then r.lambdaExpression
  else
    let start ← peek
    let value ← r.disjunction
    r.forgottenComma start value
    if ← acceptWord "if" then
      let condition ← r.disjunction
      if !(← isWord "else") then
        -- where a colon follows, the condition may have been meant for a statement
        if ← isDiagnosing then
          if !(← isOp ":") then complain start.line
      word "else"
      let other ← r.expression
      return .apply .conditional [condition, value, other]
    else return value

end Rules

end Waymark.Grammar

import Waymark.Grammar.Literal
import Waymark.Grammar.Token
import Waymark.Grammar.Tree
import Waymark.Text.Compose

/-! # Parsers

    A parser reads tokens from the front of its input. It accepts, or it refuses, after
    which another alternative may be tried, or it complains, which ends the whole
    parse. The input remembers the furthest token that was looked at: if nothing more
    specific can be said, the fault is there.

    Faults are found in two passes. Only the second one (`Input.diagnosing`) looks for
    specific complaints, so that they never get in the way of a text that parses.
-/

namespace Waymark.Grammar

/-- What a parser reads from. -/
structure Input where
  rest : List Token
  reach : Token
  diagnosing : Bool := false

/-- What ends a parse for good. -/
inductive Complaint where
  /-- The parser got to the place where the tokens break off. -/
  | broken (at_ : Token)
  /-- Something definite is wrong at a line; `shown` is the text to show for it if that is
      not the line itself. -/
  | specific (line : Nat) (reach : Token) (shown : Option String)

/-- How a parser answers. -/
inductive Reply (α : Type) where
  | accepted (value : α) (input : Input)
  | refused (reach : Token)
  | complained (complaint : Complaint)

/-- A parser. -/
def Parser (α : Type) : Type :=
  Input → Reply α

namespace Parser

/-- Accepts without reading. -/
protected def pure {α : Type} (a : α) : Parser α := fun input => .accepted a input

/-- Reads one thing after another. -/
protected def bind {α β : Type} (p : Parser α) (f : α → Parser β) : Parser β := fun input =>
  match p input with
  | .accepted a next => f a next
  | .refused reach => .refused reach
  | .complained c => .complained c

instance : Monad Parser where
  pure := Parser.pure
  bind := Parser.bind

/-- Refuses. -/
def refuse {α : Type} : Parser α := fun input => .refused input.reach

/-- Complains of the line. -/
def complain {α : Type} (line : Nat) (shown : Option String := none) : Parser α := fun input =>
  .complained (.specific line input.reach shown)

/-- Complains of the furthest token that was looked at. -/
def complainHere {α : Type} : Parser α := fun input =>
  .complained (.specific input.reach.line input.reach none)

/-- Refuses unless the condition holds. -/
def require (condition : Bool) : Parser Unit :=
  if condition then pure () else refuse

/-- Tries a parser; if it refuses, nothing is read. -/
def attempt {α : Type} (p : Parser α) : Parser (Option α) := fun input =>
  match p input with
  | .accepted a next => .accepted (some a) next
  | .refused reach => .accepted none { input with reach }
  | .complained c => .complained c

/-- Tries a parser, then the other one. -/
def orElse {α : Type} (p : Parser α) (other : Parser α) : Parser α := do
  match ← attempt p with
  | some a => pure a
  | none => other

/-- Looks whether a parser accepts, and reads nothing. -/
def follows {α : Type} (p : Parser α) : Parser Bool := fun input =>
  match p input with
  | .accepted _ next => .accepted true { input with reach := next.reach }
  | .refused reach => .accepted false { input with reach }
  | .complained c => .complained c

/-- The same parser without looking for specific complaints. -/
def quietly {α : Type} (p : Parser α) : Parser α := fun input =>
  match p { input with diagnosing := false } with
  | .accepted a next => .accepted a { next with diagnosing := input.diagnosing }
  | .refused reach => .refused reach
  | .complained c => .complained c

/-- Is the second pass on? -/
def isDiagnosing : Parser Bool := fun input => .accepted input.diagnosing input

/-- The next token, which is not read. -/
def peek : Parser Token := fun input =>
  match input.rest with
  | [] => .refused input.reach
  | token :: _ =>
    match token.kind with
    | .broken _ => .complained (.broken token)
    | _ =>
      .accepted token
        { input with reach := if token.index > input.reach.index then token else input.reach }

/-- Goes past a token. -/
def advance : Parser Unit := fun input => .accepted () { input with rest := input.rest.drop 1 }

/-- Reads a token that satisfies a condition. -/
def satisfy (p : Token → Bool) : Parser Token := do
  let token ← peek
  require (p token)
  advance
  return token

/-- Reads a token of a kind. -/
def kind (k : TokenKind) : Parser Token :=
  satisfy fun token => token.kind == k

/-- Is the next token the operator? -/
def isOp (s : String) : Parser Bool := do
  let token ← peek
  return token.kind == .operator && token.spelling == s

/-- Reads an operator. -/
def op (s : String) : Parser Unit := do
  require (← isOp s)
  advance

/-- Reads an operator if it is there. -/
def acceptOp (s : String) : Parser Bool := do
  if ← isOp s then
    advance
    return true
  else return false

/-- Is the next token the word? -/
def isWord (s : String) : Parser Bool := do
  let token ← peek
  return token.kind == .name && token.spelling == s

/-- Reads a word. -/
def word (s : String) : Parser Unit := do
  require (← isWord s)
  advance

/-- Reads a word if it is there. -/
def acceptWord (s : String) : Parser Bool := do
  if ← isWord s then
    advance
    return true
  else return false

/-- Reads one of some words if it is there. -/
def acceptAnyWord (words : List String) : Parser Bool := do
  let token ← peek
  if token.kind == .name && words.contains token.spelling then
    advance
    return true
  else return false

/-- Reads one of some operators if it is there. -/
def acceptAnyOp (ops : List String) : Parser Bool := do
  let token ← peek
  if token.kind == .operator && ops.contains token.spelling then
    advance
    return true
  else return false

/-- The words that are no names. -/
def keywords : List String :=
  ["False", "None", "True", "and", "as", "assert", "async", "await", "break", "class",
    "continue", "def", "del", "elif", "else", "except", "finally", "for", "from", "global",
    "if", "import", "in", "is", "lambda", "nonlocal", "not", "or", "pass", "raise", "return",
    "try", "while", "with", "yield"]

/-- Is the token a name? -/
def isName (token : Token) : Bool :=
  token.kind == .name && !keywords.contains token.spelling

/-- Reads a name, which is known by its common form. The common form of an identifier is
    an identifier again. -/
def name : Parser String := do
  let token ← satisfy isName
  let id := Text.commonForm token.spelling
  require (Text.isIdentifier id)
  return id

/-- Reads as many as there are, at most `limit`. -/
def many {α : Type} (p : Parser α) : (limit : Nat) → Parser (List α)
  | 0 => pure []
  | limit + 1 => do
    match ← attempt p with
    | none => return []
    | some a => return a :: (← many p limit)

/-- Reads what follows separators, where a separator may also stand at the end: the items
    and whether the last separator was followed by nothing. -/
def afterSeparators {α : Type} (separator : Parser Bool) (p : Parser α) :
    (limit : Nat) → Parser (List α × Bool)
  | 0 => pure ([], false)
  | limit + 1 => do
    if ← separator then
      match ← attempt p with
      | none => return ([], true)
      | some a =>
        let (rest, trailing) ← afterSeparators separator p limit
        return (a :: rest, trailing)
    else return ([], false)

/-- Items between commas, at least one, and whether a comma ends them. -/
def commaList {α : Type} (limit : Nat) (p : Parser α) : Parser (List α × Bool) := do
  let first ← p
  let (rest, trailing) ← afterSeparators (acceptOp ",") p limit
  return (first :: rest, trailing)

/-- What a parse that did not accept complains of. -/
def complaintOf {α : Type} (reach : Token) : Reply α → Complaint
  | .complained c => c
  | _ => .specific reach.line reach none

/-- Runs a parser; if it does not accept, once more to find out why. -/
def run {α : Type} (p : Parser α) (tokens : List Token) : Except Complaint α :=
  let start : Token := { kind := .newline, line := 1, lastLine := 1 }
  let input : Input := { rest := tokens, reach := tokens.headD start }
  match p input with
  | .accepted a _ => .ok a
  | .complained c => .error c
  | .refused reach => .error (complaintOf reach (p { input with diagnosing := true }))

end Parser

/-- Where a text does not parse: the line, and whether the tokens had been cut no further
    than that line when the fault was noticed. -/
structure FaultPlace where
  line : Nat
  isLatest : Bool
  shown : Option String := none

/-- The place that a complaint is about. A malformed token anywhere in the text comes
    first, and an open bracket before the fault is to blame for it. -/
def Complaint.place (tokens : Tokens) : Complaint → FaultPlace
  | .broken t =>
    match t.kind with
    | .broken .malformed => { line := t.line, isLatest := false }
    | .broken .misplaced => { line := t.line, isLatest := true }
    | _ =>
      match tokens.openLine with
      | some line => { line, isLatest := t.line ≤ line }
      | none => { line := t.line, isLatest := true }
  | .specific line reach shown =>
    let here : FaultPlace := { line, isLatest := reach.lastLine ≤ line, shown }
    -- indentation that nothing asked for is reported at once
    if reach.kind == .indent || reach.kind == .dedent then here
    else
      let last := tokens.tokens.getLast?
      match last.map Token.kind with
      | some (.broken .malformed) =>
        { line := (last.map Token.line).getD line, isLatest := false }
      | _ =>
        match tokens.openLine with
        | some bracket => if reach.line > bracket then { line := bracket, isLatest := false } else here
        | none => here

end Waymark.Grammar

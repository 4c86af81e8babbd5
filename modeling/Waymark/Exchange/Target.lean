import Waymark.Text.Percent
import Waymark.Text.Quoted
import Waymark.Text.Ranges
import Waymark.Wire.Json

/-! # Request targets

    The target of a request is the path and the query that stand in its first line. It
    is made of a base URL, a route that is appended to the base path, and the entries of
    a query.

    * Characters that a path or a query may not hold are percent-encoded; what is
      encoded already stays as it is.
    * Steps of a path that stay (`.`) or go back (`..`) are carried out.
    * Entries take the place of a query that the route has itself, and entries of one
      name are listed together.
-/

namespace Waymark.Exchange

/-- Why a request has no target. -/
inductive TargetFault where
  | tooLong
  | componentTooLong (component : String)
  /-- A control character at a position. -/
  | unprintable (c : Char) (position : Nat)
  deriving Repr, DecidableEq

/-- The wording of a fault. -/
def TargetFault.message : TargetFault → String
  | .tooLong => "URL too long"
  | .componentTooLong component => "URL component " ++ Text.quoted component ++ " too long"
  | .unprintable c position =>
    "Invalid non-printable ASCII character in URL, " ++ Text.quoted (String.singleton c)
      ++ " at position " ++ toString position ++ "."

/-- The greatest length of a URL and of its components. -/
def maxLength : Nat := 65536

/-- A path with an optional query, both as they are sent. -/
structure Target where
  path : String
  query : Option String := none
  deriving Repr, DecidableEq

namespace Target

/-- Is it a control character? -/
def isControl (c : Char) : Bool :=
  c.toNat < 0x20 || c.toNat == 0x7f

/-- The printable ASCII characters without the given ones. -/
def isPrintableExcept (excluded : List Char) (c : Char) : Bool :=
  0x20 ≤ c.toNat && c.toNat < 0x7f && !excluded.contains c

/-- May the character stand in a query? -/
def inQuery (c : Char) : Bool :=
  isPrintableExcept [' ', '"', '#', '<', '>'] c

/-- May the character stand in a path? -/
def inPath (c : Char) : Bool :=
  isPrintableExcept [' ', '"', '#', '<', '>', '?', Char.ofNat 0x60, '\x7b', '\x7d'] c

/-- Splits at the first character that satisfies `p`, which is dropped. -/
def splitFirst (p : Char → Bool) (cs : List Char) : List Char × Option (List Char) :=
  match cs.dropWhile fun c => !p c with
  | [] => (cs, none)
  | _ :: after => (cs.takeWhile (fun c => !p c), some after)

/-- The target as text. -/
def text (t : Target) : String :=
  t.path ++ match t.query with
    | none => ""
    | some q => "?" ++ q

/-- Splits a text at its question mark. -/
def ofText (s : String) : Target :=
  let (path, query) := splitFirst (· == '?') s.toList
  { path := String.ofList path, query := query.map String.ofList }

/-- Carries out the steps of a path, where `done` are the steps so far, last one first. -/
def walk (done : List String) : List String → List String
  | [] => done.reverse
  | step :: rest =>
    if step == "." then walk done rest
    else if step == ".." then
      walk (if done.isEmpty || done == [""] then done else done.tail) rest
    else walk (step :: done) rest

/-- The path with all steps carried out that stay or go back; a slash if nothing is left. -/
def normalized (path : String) : String :=
  let steps := (Text.splitWhere (· == '/') path.toList).map String.ofList
  if steps.contains "." || steps.contains ".." then
    let left := "/".intercalate (walk [] steps)
    if left.isEmpty then "/" else left
  else path

/-- The target that a route stands for by itself. A part after a number sign is dropped. -/
def ofRoute (route : String) : Except TargetFault Target :=
  if route.length > maxLength then .error .tooLong
  else match route.toList.findIdx? isControl with
    | some i => .error (.unprintable (route.toList.getD i ' ') i)
    | none =>
      let (front, _) := splitFirst (· == '#') route.toList
      let (path, query) := splitFirst (· == '?') front
      .ok { path := Text.percentEncodeUnless inPath (String.ofList path)
            query := query.map fun q => Text.percentEncodeUnless inQuery (String.ofList q) }

/-- The target without its component that is too long. -/
def checked (t : Target) : Except TargetFault Target :=
  if t.path.length > maxLength then .error (.componentTooLong "path")
  else if (t.query.getD "").length > maxLength then .error (.componentTooLong "query")
  else .ok { path := Text.percentEncodeUnless inPath (normalized t.path)
             query := t.query.map (Text.percentEncodeUnless inQuery) }

/-- What stands behind the scheme of a URL, if it has one. -/
def afterScheme? : List Char → Option (List Char)
  | [] => none
  | ':' :: '/' :: '/' :: rest => some rest
  | _ :: rest => afterScheme? rest

/-- The target that a base URL stands for; its path ends in a slash. -/
def ofBase (base : String) : String :=
  let address := (afterScheme? base.toList).getD base.toList
  let place := address.dropWhile fun c => c != '/' && c != '?' && c != '#'
  let (front, _) := splitFirst (· == '#') place
  let (path, query) := splitFirst (· == '?') front
  let path := if path.isEmpty then ['/'] else path
  let whole := path ++ match query with
    | none => []
    | some q => '?' :: q
  String.ofList (if whole.getLast? == some '/' then whole else whole ++ ['/'])

/-- The entries of a query, those of one name together at the place of the first. -/
def grouped (entries : List (String × String)) : List (String × String) :=
  let names := entries.foldl (fun ns e => if ns.contains e.1 then ns else ns ++ [e.1]) []
  names.flatMap fun n => entries.filter fun e => e.1 == n

/-- The entries of a query as text. -/
def queryText (entries : List (String × String)) : String :=
  "&".intercalate ((grouped entries).map fun (n, v) =>
    Text.formEncoded n ++ "=" ++ Text.formEncoded v)

/-- The target of a request. -/
def ofRequest (base route : String) (entries : List (String × String)) :
    Except TargetFault Target := do
  let own ← ofRoute route
  let tail := String.ofList (own.text.toList.dropWhile (· == '/'))
  let joined ← (ofText (ofBase base ++ tail)).checked
  ({ joined with query := if entries.isEmpty then none else some (queryText entries) }).checked

end Target

end Waymark.Exchange

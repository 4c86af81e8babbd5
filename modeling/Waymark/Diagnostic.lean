/-! # Diagnostics

    A run reports everything that is wrong with its descriptors, each problem as one
    `Diagnostic`, and goes on with the rest. Computations that report hand back their
    result together with what they found, in the order of finding (`Report`).
-/

namespace Waymark

/-- How grave a diagnostic is. Only errors make a run fail. -/
inductive Severity where
  | error
  | warning
  deriving Repr, DecidableEq

/-- What a diagnostic is about: the shape of the descriptors, or the reading of the type
    arguments of one capability. -/
inductive Concern where
  | configuration
  | resolution
  deriving Repr, DecidableEq

/-- The word for a severity. -/
def Severity.word : Severity → String
  | .error => "error"
  | .warning => "warning"

/-- The word for a concern. -/
def Concern.word : Concern → String
  | .configuration => "configuration"
  | .resolution => "resolution"

/-- One problem: where it is and what it is. -/
structure Diagnostic where
  severity : Severity
  concern : Concern
  location : String
  message : String
  line : Option Int := none
  slot : Option Int := none
  deriving Repr, DecidableEq

namespace Diagnostic

/-- An error at a place. -/
def error (concern : Concern) (location message : String) (line slot : Option Int := none) :
    Diagnostic :=
  { severity := .error, concern, location, message, line, slot }

/-- Where the problem is, with its line when it has one. -/
def place (d : Diagnostic) : String :=
  match d.line with
  | none => d.location
  | some line => d.location ++ " (line " ++ toString line ++ ")"

/-- The diagnostic as one line of text. -/
def render (d : Diagnostic) : String :=
  d.severity.word ++ ": " ++ d.concern.word ++ ": " ++ d.place ++ ": " ++ d.message

/-- Is it an error? -/
def isError (d : Diagnostic) : Bool :=
  d.severity == .error

end Diagnostic

/-- The errors among some diagnostics. -/
def errorsOf (ds : List Diagnostic) : List Diagnostic :=
  ds.filter Diagnostic.isError

/-- Is there an error among the diagnostics? -/
def hasErrors (ds : List Diagnostic) : Bool :=
  ds.any Diagnostic.isError

/-- A result together with the diagnostics found on the way to it. -/
structure Report (α : Type) where
  value : α
  diagnostics : List Diagnostic := []

namespace Report

/-- A result that nothing is wrong with. -/
protected def pure {α : Type} (value : α) : Report α := { value }

/-- Goes on with a result; what is found later is listed later. -/
protected def bind {α β : Type} (r : Report α) (f : α → Report β) : Report β :=
  let next := f r.value
  { value := next.value, diagnostics := r.diagnostics ++ next.diagnostics }

instance : Monad Report where
  pure := Report.pure
  bind := Report.bind

/-- Reports some diagnostics. -/
def tell (ds : List Diagnostic) : Report Unit := { value := (), diagnostics := ds }

@[simp] theorem value_pure {α : Type} (a : α) : (pure a : Report α).value = a := rfl

@[simp] theorem diagnostics_pure {α : Type} (a : α) : (pure a : Report α).diagnostics = [] := rfl

@[simp] theorem value_bind {α β : Type} (r : Report α) (f : α → Report β) :
    (r >>= f).value = (f r.value).value := rfl

@[simp] theorem diagnostics_bind {α β : Type} (r : Report α) (f : α → Report β) :
    (r >>= f).diagnostics = r.diagnostics ++ (f r.value).diagnostics := rfl

end Report

end Waymark

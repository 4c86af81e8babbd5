import Waymark.Exchange.Outcome
import Waymark.Log
import Waymark.Value.Reading

/-! # Settings

    What a run of the generator can be told besides its roots. Every setting has a
    default. Values for settings are read as leniently as values of the API are.
-/

namespace Waymark

/-- The settings. -/
structure Settings where
  /-- The module that generated clients send their requests through. -/
  transportModule : String := "shapi.client.transport"
  /-- The directories that are searched for modules. -/
  sourceRoots : List String := ["."]
  /-- The one status for errors of the API. -/
  errorStatus : Int := Exchange.Standing.defaultErrorStatus
  logLevel : String := "WARNING"
  logStyle : LogStyle := .styled
  deriving Repr, DecidableEq

/-- The settings by themselves, without values. -/
inductive Setting where
  | transportModule
  | sourceRoots
  | errorStatus
  | logLevel
  | logStyle
  deriving Repr, DecidableEq

namespace Setting

/-- All settings, in their order. -/
def all : List Setting := [.transportModule, .sourceRoots, .errorStatus, .logLevel, .logStyle]

/-- The name of a setting. -/
def name : Setting → String
  | .transportModule => "transport_module"
  | .sourceRoots => "source_roots"
  | .errorStatus => "error_status"
  | .logLevel => "log_level"
  | .logStyle => "log_format"

/-- The setting of a name. -/
def ofName? (s : String) : Option Setting :=
  all.find? fun setting => setting.name == s

end Setting

namespace Settings

/-- The settings with one of them changed; nothing if the value does not suit it. -/
def put? (s : Settings) (setting : Setting) (v : Value) : Option Settings :=
  match setting with
  | .transportModule => (Kind.textOf? v).map fun t => { s with transportModule := t }
  | .sourceRoots => do
    let roots ← (← Kind.itemsOf? v).mapM Kind.textOf?
    return { s with sourceRoots := roots }
  | .errorStatus => (Kind.intOf? v).map fun n => { s with errorStatus := n }
  | .logLevel => (Kind.textOf? v).map fun t => { s with logLevel := t }
  | .logStyle => match v with
    | .text t => (LogStyle.ofWord? t).map fun style => { s with logStyle := style }
    | _ => none

/-- The default settings with the given ones changed, by name. Names of no setting are
    passed over. -/
def ofValues? (given : List (String × Value)) : Option Settings :=
  given.foldlM (fun s (name, v) => match Setting.ofName? name with
    | some setting => s.put? setting v
    | none => some s) {}

end Settings

end Waymark

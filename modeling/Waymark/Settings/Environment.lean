import Waymark.Settings.Basic
import Waymark.Settings.EnvFile
import Waymark.Text.Letter

/-! # Settings from the environment

    A setting is given by the environment variable of its name with `SHAPI_` in front, in
    any case, or by such a line in a file of variables. The environment comes first. A
    setting that is a list is written as a JSON array.
-/

namespace Waymark

/-- Why no settings could be read. -/
inductive SettingsFault where
  /-- A list is not written in JSON. -/
  | unreadable
  /-- A value does not suit its setting. -/
  | unsuitable
  deriving Repr, DecidableEq

namespace Settings

/-- What every variable's name begins with, in lower case. -/
def mark : String := "shapi_"

/-- A value for a setting. A text that spells no value is kept as such, since that counts
    only if no other source goes before. -/
abbrev Reading : Type := Setting × Option Value

/-- Half a character in a JSON text becomes a whole one: its number is made to begin with
    zero. -/
def withWholeCharacters : List Char → List Char
  | '\\' :: 'u' :: c :: rest =>
    if c == 'd' || c == 'D' then '\\' :: 'u' :: '0' :: withWholeCharacters rest
    else '\\' :: 'u' :: withWholeCharacters (c :: rest)
  | c :: rest => c :: withWholeCharacters rest
  | [] => []

/-- Reads a list: a JSON document. One that is well formed but for halves of characters in
    its texts spells no value. -/
def readList (s : String) : Except SettingsFault (Option Value) :=
  match Wire.Json.parse? s s.length with
  | some j => .ok (some j.toValue)
  | none =>
    match Wire.Json.parse? (String.ofList (withWholeCharacters s.toList)) s.length with
    | some _ => .ok none
    | none => .error .unreadable

/-- Reads the text of a variable. -/
def readText (setting : Setting) (s : String) : Except SettingsFault (Option Value) :=
  match setting with
  | .sourceRoots => readList s
  | _ => .ok (some (.text s))

/-- What a source says about one setting. A list that is null says nothing. -/
def reading (bindings : List EnvFile.Binding) (setting : Setting) :
    Except SettingsFault (Option Reading) := do
  match (lastOf? (mark ++ setting.name) bindings).join with
  | none => return none
  | some s =>
    match ← readText setting s with
    | some .none => return none
    | v => return some (setting, v)

/-- What a source says. Of names that differ only in case the last counts. -/
def readings (bindings : List EnvFile.Binding) : Except SettingsFault (List Reading) := do
  let lowered := bindings.map fun (name, v) => (Text.lower name, v)
  return (← Setting.all.mapM (reading lowered)).filterMap id

/-- The settings that the environment and a file of variables give. -/
def ofEnvironment (environment : List (String × String)) (file : Option String) :
    Except SettingsFault Settings := do
  let environment := Wire.mergeMembers environment
  let first ← readings (environment.map fun (name, v) => (name, some v))
  let second ← readings ((file.map (EnvFile.values environment)).getD [])
  let given := second.filter fun (setting, _) => !(first.any fun r => r.1 == setting)
  match (first ++ given).foldlM (fun s (setting, v) => v.bind fun v => put? s setting v) {} with
  | some s => return s
  | none => throw .unsuitable

end Settings

end Waymark

import Waymark.Display.Markup
import Waymark.Display.Outline
import Waymark.Display.Table
import Waymark.Document.Writing
import Waymark.Generation
import Waymark.Wire.Indented

/-! # What is shown

    The result of a run is shown as a table of its roots, and the tree of a client as an
    outline or as JSON. Diagnostics follow on the error output. All is fitted to the width of
    the screen.
-/

namespace Waymark.CommandLine

open Waymark.Display (MarkupFault Outline Table Column)

/-- The lines in which a marked-up text is shown on a screen. -/
def shownLines (width : Nat) (s : String) : Except MarkupFault (List String) := do
  return (Display.fit {} width (← Display.plain s)).map String.ofList

/-! ### Results -/

/-- What became of the module of a root. -/
def status (g : Generation) (m : Client.ClientModule) : String :=
  match g.out.map fun out => out.child m.filename with
  | none => "checked"
  | some p =>
    if g.written.contains p then "[green]written[/green]"
    else if g.unchanged.contains p then "unchanged"
    else "checked"

/-- The columns of the table of roots. -/
def rootColumns : List Column :=
  [{ title := "ROOT", breaks := false }, { title := "MODULE" },
    { title := "UNITS", side := .right }, { title := "OPS", side := .right },
    { title := "STATUS", breaks := false }]

/-- The row of a root that there is a module for. -/
def outputRow (g : Generation) (m : Client.ClientModule) : List String :=
  [m.module ++ ":" ++ m.root, m.moduleName, toString m.unitCount, toString m.operationCount,
    status g m]

/-- The row of a root that failed. -/
def failedRow (label : String) : List String :=
  [label, "-", "-", "-", "[red]failed[/red]"]

/-- The lines of the table of roots. -/
def rootTable (width : Nat) (g : Generation) : Except MarkupFault (List String) := do
  let rows ← (g.outputs.map (outputRow g) ++ g.failed.map failedRow).mapM
    fun row => row.mapM Display.plain
  return (Table.lines { columns := rootColumns, rows } width).map String.ofList

/-! ### Diagnostics -/

/-- The colour of a diagnostic. -/
def colour (d : Diagnostic) : String :=
  if d.isError then "red" else "yellow"

/-- A diagnostic, marked up. -/
def diagnosticText (d : Diagnostic) : String :=
  "  [" ++ colour d ++ "]" ++ Display.escape d.render ++ "[/" ++ colour d ++ "]"

/-- The lines in which diagnostics are shown, if there are any. -/
def diagnosticLines (width : Nat) (ds : List Diagnostic) : Except MarkupFault (List String) := do
  if ds.isEmpty then return []
  let title ← shownLines width ("[bold]Diagnostics:[/bold] " ++ toString ds.length)
  return "" :: title ++ (← ds.mapM fun d => shownLines width (diagnosticText d)).flatten

/-! ### Trees -/

/-- An operation with its types. -/
def operationText (op : Operation) : String :=
  let verb := match op.verb with
    | .get => "GET"
    | .post => "POST(" ++ op.paramType.getD "None" ++ ")"
  verb ++ " -> ApiResponse[" ++ op.resultType ++ ", " ++ op.errorType ++ "]"

/-- The label of an operation. -/
def operationLabel (op : Operation) : Except MarkupFault Outline := do
  return .node (← Display.plain ("[cyan]" ++ Display.escape (operationText op) ++ "[/cyan]")) []

/-- The label of a unit. -/
def unitLabel (name segment : String) : Except MarkupFault (List Char) :=
  Display.plain ("[bold]" ++ name ++ "[/bold]  [dim]" ++ Display.escape segment ++ "[/dim]")

mutual
/-- The outline of a unit: its operations, then the units in it. -/
def unitOutline (u : ClientUnit) : Except MarkupFault Outline :=
  match u with
  | ⟨name, _, segment, operations, children⟩ => do
    let label ← unitLabel name segment
    let inner ← operations.mapM operationLabel
    return .node label (inner ++ (← unitOutlines children))

/-- The outlines of some units. -/
def unitOutlines : List ClientUnit → Except MarkupFault (List Outline)
  | [] => .ok []
  | u :: rest => do return (← unitOutline u) :: (← unitOutlines rest)
end

/-- The form in which a tree is shown. -/
inductive TreeForm where
  | outline
  | json
  deriving Repr, DecidableEq

/-- The form of a name; case and blanks around it do not count. -/
def TreeForm.ofName? (s : String) : Option TreeForm :=
  match Text.trim (Text.lower s) with
  | "tree" => some .outline
  | "json" => some .json
  | _ => none

/-- The lines in which a client is shown. -/
def clientLines (width : Nat) (form : TreeForm) (c : ClientRoot) :
    Except MarkupFault (List String) :=
  match form with
  | .outline => do
    return ((← unitOutline c.root).lines width).map String.ofList
  | .json => .ok (Text.lines (c.root.toJson.renderIndented Value.numberLayout 0))

end Waymark.CommandLine

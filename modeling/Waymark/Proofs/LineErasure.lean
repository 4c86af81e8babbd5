import Waymark.Proofs.Provenance

/-! # Reading without line numbers

    Statements, what is read from them and diagnostics hold the lines on which they stand in
    the source. `eraseLines` puts zero in the place of all of them, so that two sources can be
    compared although their lines differ.

    * The scope of a module and whether it can be read do not depend on lines
      (`ofStatements_eraseAllLines`, `moduleFault?_eraseAllLines`).
    * Reading statements without lines gives what reading gives, without lines
      (`readRoots_eraseAllLines`).
    * What a capability resolves to does not depend on lines (`outcomes_eraseLines`).
-/

namespace Waymark

open Waymark.Grammar

/-! ## Erasure -/

mutual
/-- The statement without line numbers. -/
def Grammar.Statement.eraseLines : Statement → Statement
  | .classDef name bases decorators body _ =>
    .classDef name bases decorators (eraseAllLines body) 0
  | .functionDef name decorators body => .functionDef name decorators (eraseAllLines body)
  | .compound body => .compound (eraseAllLines body)
  | s => s

/-- The statements without line numbers. -/
def Grammar.eraseAllLines : List Statement → List Statement
  | [] => []
  | s :: rest => s.eraseLines :: eraseAllLines rest
end

theorem Grammar.eraseAllLines_eq_map (body : List Statement) :
    eraseAllLines body = body.map Statement.eraseLines := by
  induction body with
  | nil => rfl
  | cons s rest ih => rw [eraseAllLines, ih, List.map_cons]

/-- The diagnostic without its line. -/
def Diagnostic.eraseLine (d : Diagnostic) : Diagnostic := { d with line := none }

/-- The capability without its line. -/
def Capability.eraseLine (cap : Capability) : Capability := { cap with line := 0 }

namespace Endpoint

mutual
/-- The endpoint without line numbers. -/
def eraseLines : Endpoint → Endpoint
  | ⟨name, qualname, segment, fields, children, capabilities, _⟩ =>
    ⟨name, qualname, segment, fields, eraseAllLines children,
      capabilities.map Capability.eraseLine, 0⟩

/-- The endpoints without line numbers. -/
def eraseAllLines : List Endpoint → List Endpoint
  | [] => []
  | e :: rest => e.eraseLines :: eraseAllLines rest
end

theorem eraseAllLines_eq_map (es : List Endpoint) : eraseAllLines es = es.map eraseLines := by
  induction es with
  | nil => rfl
  | cons e rest ih => rw [eraseAllLines, ih, List.map_cons]

theorem eraseLines_eq (e : Endpoint) :
    e.eraseLines = { e with children := e.children.map eraseLines
                            capabilities := e.capabilities.map Capability.eraseLine
                            line := 0 } := by
  obtain ⟨name, qualname, segment, fields, children, capabilities, line⟩ := e
  rw [eraseLines, eraseAllLines_eq_map]

end Endpoint

/-- The members without line numbers. -/
def Members.eraseLines (m : Members) : Members :=
  { m with children := m.children.map Endpoint.eraseLines
           capabilities := m.capabilities.map Capability.eraseLine }

/-! ## Scopes -/

@[simp] theorem Grammar.Statement.bindings_eraseLines (module : String) (isPackage : Bool)
    (s : Statement) : s.eraseLines.bindings module isPackage = s.bindings module isPackage := by
  cases s <;> simp only [eraseLines] <;> rfl

/-- Lines have no part in what names mean. -/
theorem Scope.ofStatements_eraseAllLines (module : String) (isPackage : Bool)
    (body : List Statement) :
    ofStatements module isPackage (eraseAllLines body) = ofStatements module isPackage body := by
  unfold ofStatements
  rw [foldl_bindStatement, foldl_bindStatement, eraseAllLines_eq_map, List.flatMap_map]
  simp only [Statement.bindings_eraseLines]

/-! ## Reading -/

theorem Capability.read?_eraseLine (scope : Scope) (path name : String)
    (bases decorators : List Expr) (line : Nat) :
    read? scope path name bases decorators 0
      = (read? scope path name bases decorators line).map eraseLine := by
  unfold read?
  dsimp only
  split <;> rfl

theorem parentDiagnostics_eraseLine (scope : Scope) (qualname : String) (line : Nat)
    (fields : List Field) :
    (parentDiagnostics scope qualname 0 fields).map Diagnostic.eraseLine
      = (parentDiagnostics scope qualname line fields).map Diagnostic.eraseLine := by
  unfold parentDiagnostics
  dsimp only
  split <;> rfl

/-- By induction on the reading: classes go through their bodies, bodies through their
    statements. -/
theorem read_eraseLines (scope : Scope) :
    (∀ (path : String) (s : Statement),
      (Endpoint.read scope path s.eraseLines).value
        = (Endpoint.read scope path s).value.map Endpoint.eraseLines ∧
      (Endpoint.read scope path s.eraseLines).diagnostics.map Diagnostic.eraseLine
        = (Endpoint.read scope path s).diagnostics.map Diagnostic.eraseLine) ∧
    ∀ (path : String) (body : List Statement),
      (Members.read scope path (eraseAllLines body)).value
        = (Members.read scope path body).value.eraseLines ∧
      (Members.read scope path (eraseAllLines body)).diagnostics.map Diagnostic.eraseLine
        = (Members.read scope path body).diagnostics.map Diagnostic.eraseLine := by
  apply Endpoint.read.mutual_induct scope
  case case1 =>
    -- a class that is no endpoint
    intro path name bases decorators body line hnone
    simp [Statement.eraseLines, Endpoint.read, hnone]
  case case2 =>
    -- an endpoint whose path is not known: what is reported names the line
    intro path name bases decorators body line decorator hdecorator hsegment
    simp [Statement.eraseLines, Endpoint.read, hdecorator, hsegment, classDiagnostic,
      Diagnostic.error, Diagnostic.eraseLine]
  case case3 =>
    -- an endpoint that is read, by what is read of its body
    intro path name bases decorators body line decorator hdecorator qualname codes hsegment ih
    obtain ⟨hvalue, hdiagnostics⟩ := ih
    simp only [Statement.eraseLines, Endpoint.read, hdecorator, hsegment, Report.value_bind,
      Report.value_pure, Report.diagnostics_bind, Report.diagnostics_pure, Report.diagnostics_tell,
      List.map_append, List.append_nil]
    rw [hvalue, hdiagnostics]
    refine ⟨?_, ?_⟩
    · rw [Option.map_some, Endpoint.eraseLines_eq]
      rfl
    · rw [parentDiagnostics_eraseLine scope _ line]
      rfl
  case case4 =>
    intro st path hne
    cases st with
    | classDef name bases decorators body line => exact (hne name bases decorators body line rfl).elim
    | _ => exact ⟨rfl, rfl⟩
  case case5 =>
    intro path
    exact ⟨rfl, rfl⟩
  case case6 =>
    -- a field, which has no line
    intro path rest name typeExpr value ih
    obtain ⟨hvalue, hdiagnostics⟩ := ih
    simp only [eraseAllLines, Statement.eraseLines, Members.read, Report.value_bind,
      Report.value_pure, Report.diagnostics_bind, Report.diagnostics_pure, List.append_nil, hvalue]
    exact ⟨rfl, hdiagnostics⟩
  case case7 =>
    -- an endpoint in the body
    intro path rest name bases decorators body line hclass hone ih
    obtain ⟨hchild, hchildDiagnostics⟩ := hone
    obtain ⟨hvalue, hdiagnostics⟩ := ih
    simp only [Statement.eraseLines] at hchild hchildDiagnostics
    simp only [eraseAllLines, Statement.eraseLines, Members.read, hclass, if_true,
      Report.value_bind, Report.value_pure, Report.diagnostics_bind, Report.diagnostics_pure,
      List.append_nil, List.map_append, hvalue, hchild, hchildDiagnostics, hdiagnostics]
    simp only [Members.eraseLines, List.map_append, Option.toList_map, and_self]
  case case8 =>
    -- another class in the body, which may be a capability
    intro path rest name bases decorators body line hclass ih
    obtain ⟨hvalue, hdiagnostics⟩ := ih
    simp only [eraseAllLines, Statement.eraseLines, Members.read, hclass, Bool.false_eq_true,
      if_false, Report.value_bind, Report.value_pure, Report.diagnostics_bind,
      Report.diagnostics_pure, List.append_nil, hvalue, hdiagnostics,
      Capability.read?_eraseLine scope path name bases decorators line]
    simp only [Members.eraseLines, List.map_append, Option.toList_map, and_self]
  case case9 =>
    -- any other statement declares nothing
    intro path st rest hannotate hclass ih
    cases st with
    | classDef name bases decorators body line =>
      exact (hclass name bases decorators body line rfl).elim
    | annotate target typeExpr value =>
      cases target with
      | name id => exact (hannotate id typeExpr value rfl).elim
      | _ => simpa only [eraseAllLines, Statement.eraseLines, Members.read] using ih
    | _ => simpa only [eraseAllLines, Statement.eraseLines, Members.read] using ih

/-- **Without lines the same endpoints are read.** -/
theorem readRoots_eraseAllLines (scope : Scope) (body : List Statement) :
    (readRoots scope (eraseAllLines body)).value
      = (readRoots scope body).value.map Endpoint.eraseLines ∧
    (readRoots scope (eraseAllLines body)).diagnostics.map Diagnostic.eraseLine
      = (readRoots scope body).diagnostics.map Diagnostic.eraseLine := by
  induction body with
  | nil => exact ⟨rfl, rfl⟩
  | cons s rest ih =>
    obtain ⟨hroot, hrootDiagnostics⟩ := (read_eraseLines scope).1 "" s
    obtain ⟨hvalue, hdiagnostics⟩ := ih
    simp only [eraseAllLines, readRoots, Report.value_bind, Report.value_pure,
      Report.diagnostics_bind, Report.diagnostics_pure, List.append_nil, List.map_append,
      Option.toList_map, hroot, hvalue, hrootDiagnostics, hdiagnostics, and_self]

/-! ## Faults -/

/-- By induction on the search for a fault. -/
theorem fault?_eraseLines (scope : Scope) :
    (∀ s : Statement, classFault? scope s.eraseLines = classFault? scope s) ∧
    ∀ body : List Statement, bodyFault? scope (eraseAllLines body) = bodyFault? scope body := by
  apply classFault?.mutual_induct scope
  case case1 =>
    intro name bases decorators body line hnone
    simp only [Statement.eraseLines, classFault?, hnone]
  case case2 =>
    intro name bases decorators body line codes hsome ih
    simp only [Statement.eraseLines, classFault?, hsome, ih]
  case case3 =>
    intro s hne
    cases s with
    | classDef name bases decorators body line => exact (hne name bases decorators body line rfl).elim
    | _ => rfl
  case case4 => rfl
  -- only classes hold a line, all other statements are the same without lines
  case case5 =>
    intro s rest hclass ih
    cases s with
    | classDef name bases decorators body line =>
      simp only [Statement.eraseLines] at hclass
      simp only [eraseAllLines, Statement.eraseLines, bodyFault?, hclass, ih]
    | annotate target typeExpr value =>
      cases target <;> simp only [eraseAllLines, Statement.eraseLines, bodyFault?, ih]
    | _ => simp only [eraseAllLines, Statement.eraseLines, bodyFault?, ih]

/-- Lines have no part in whether a module can be read. -/
theorem moduleFault?_eraseAllLines (scope : Scope) (body : List Statement) :
    moduleFault? scope (eraseAllLines body) = moduleFault? scope body := by
  unfold moduleFault?
  rw [eraseAllLines_eq_map, List.findSome?_map]
  exact congrArg (List.findSome? · body) (funext (fault?_eraseLines scope).1)

/-! ## Outcomes -/

namespace Endpoint

/-- What the capabilities of a tree resolve to, each with its name. -/
def outcomes (scope : Scope) (e : Endpoint) : List (String × Except Rejection Operation) :=
  e.walk.flatMap fun d => d.capabilities.map fun cap => (cap.qualname, cap.resolve scope d)

theorem walk_eraseLines (e : Endpoint) : e.eraseLines.walk = e.walk.map eraseLines := by
  induction e using tree_induction with
  | step e ih =>
    have hchildren : e.eraseLines.children = e.children.map eraseLines := by
      rw [eraseLines_eq]
    rw [walk_eq e.eraseLines, walk_eq e, List.map_cons, List.map_flatMap, hchildren,
      List.flatMap_map, List.flatMap_def, List.flatMap_def, List.map_congr_left ih]

/-- Lines have no part in what capabilities resolve to. -/
theorem outcomes_eraseLines (scope : Scope) (e : Endpoint) :
    e.eraseLines.outcomes scope = e.outcomes scope := by
  unfold outcomes
  rw [walk_eraseLines, List.flatMap_map]
  congr 1
  funext d
  rw [eraseLines_eq, List.map_map]
  rfl

end Endpoint

end Waymark

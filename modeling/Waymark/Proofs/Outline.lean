import Waymark.Proofs.Provenance

/-! # The classes of a client module

    The text of a client module is printed in one go. This module says what is printed:
    one class with a method for each operation and with classes nested in it (`ClassDef`).
    Printing that class gives the same lines (`unitLines_eq`), so what a client does can be
    stated about the class instead of its text.

    Printing never fails for clients that were compiled (`generate_eq`).
-/

namespace Waymark.Client

/-- A method: its parameters with their annotations, and the call that it returns. Of the
    types in that call, `mentions` lists the names. -/
structure Method where
  name : String
  parameters : List (String × Option String)
  returns : String
  callee : String
  arguments : List String
  mentions : List String

/-- A class: the texts of its bases, the route that documents it, and its body. -/
structure ClassDef where
  name : String
  bases : List String
  route : String
  methods : List Method
  nested : List ClassDef

/-- The method of an operation. -/
def methodOf (op : Operation) : Method :=
  { name := op.verb.method
    parameters := ("self", none) :: ("node", some op.requestType) ::
      match op.verb with
      | .get => []
      | .post => [("param", op.paramType)]
    returns := responseType ++ "[" ++ op.resultType ++ ", " ++ op.errorType ++ "]"
    callee := primitive op.verb
    arguments := match op.verb with
      | .get => ["node", op.requestType, op.resultType, op.errorType]
      | .post => ["node", "param", op.requestType, op.paramType.getD "", op.resultType, op.errorType]
    mentions := op.names }

mutual
/-- The class of a unit that is called `name` and hangs at `route`. -/
def classOf (route name : String) (u : ClientUnit) : ClassDef :=
  match u with
  | ⟨_, _, segment, operations, children⟩ =>
    { name
      bases := operations.map Operation.capability
      route := Route.join route segment
      methods := operations.map methodOf
      nested := classesOf (Route.join route segment) children }

/-- The classes of nested units. -/
def classesOf (route : String) : List ClientUnit → List ClassDef
  | [] => []
  | u :: rest => classOf route u.name u :: classesOf route rest
end

/-- The class of a client. -/
def outline (root : ClientUnit) : ClassDef :=
  classOf "" (className root.name) root

theorem classesOf_eq_map (route : String) (us : List ClientUnit) :
    classesOf route us = us.map fun u => classOf route u.name u := by
  induction us with
  | nil => rfl
  | cons u rest ih => rw [classesOf, ih, List.map_cons]

theorem classOf_eq (route name : String) (u : ClientUnit) :
    classOf route name u =
      { name
        bases := u.operations.map Operation.capability
        route := Route.join route u.segment
        methods := u.operations.map methodOf
        nested := u.children.map fun c => classOf (Route.join route u.segment) c.name c } := by
  obtain ⟨unitName, qualname, segment, operations, children⟩ := u
  rw [classOf, classesOf_eq_map]

/-! ## Printing -/

/-- A parameter with its annotation. -/
def parameterText : String × Option String → String
  | (name, none) => name
  | (name, some annotation) => name ++ ": " ++ annotation

/-- The lines of a method. -/
def Method.lines (depth : Nat) (m : Method) : List String :=
  let pad := padding depth
  argumentLines pad ("async def " ++ m.name) (m.parameters.map parameterText)
      (" -> " ++ m.returns ++ ":")
    ++ argumentLines (pad ++ indent) ("return await " ++ m.callee) m.arguments ""

/-- The first line of a class. -/
def ClassDef.header (pad : String) (c : ClassDef) : String :=
  let bases := ", ".intercalate c.bases
  if bases = "" then pad ++ "class " ++ c.name ++ ":"
  else pad ++ "class " ++ c.name ++ "(" ++ bases ++ "):"

mutual
/-- The lines of a class. -/
def ClassDef.lines (depth : Nat) (c : ClassDef) : List String :=
  match c with
  | ⟨name, bases, route, methods, nested⟩ =>
    ClassDef.header (padding depth) ⟨name, bases, route, methods, nested⟩
      :: routeLine (padding depth) route
      :: (methods.flatMap (fun m => "" :: m.lines (depth + 1)) ++ linesOfAll (depth + 1) nested)

/-- The lines of nested classes, each after an empty line. -/
def linesOfAll (depth : Nat) : List ClassDef → List String
  | [] => []
  | c :: rest => "" :: c.lines depth ++ linesOfAll depth rest
end

theorem linesOfAll_eq_flatMap (depth : Nat) (cs : List ClassDef) :
    linesOfAll depth cs = cs.flatMap fun c => "" :: c.lines depth := by
  induction cs with
  | nil => rfl
  | cons c rest ih => rw [linesOfAll, ih, List.flatMap_cons]

theorem ClassDef.lines_eq (depth : Nat) (c : ClassDef) :
    c.lines depth = c.header (padding depth) :: routeLine (padding depth) c.route
      :: (c.methods.flatMap (fun m => "" :: m.lines (depth + 1))
        ++ c.nested.flatMap fun d => "" :: d.lines (depth + 1)) := by
  obtain ⟨name, bases, route, methods, nested⟩ := c
  rw [ClassDef.lines, linesOfAll_eq_flatMap]

/-- A method can be printed for the operation: a `POST` has a parameter type. -/
def Printable (op : Operation) : Prop :=
  op.verb = .post → op.paramType ≠ none

theorem operationLines_eq {op : Operation} (h : Printable op) (depth : Nat) :
    operationLines depth op = .ok ((methodOf op).lines depth) := by
  obtain ⟨node, capability, verb, requestType, paramType, resultType, errorType, names⟩ := op
  cases verb with
  | get => rfl
  | post =>
    cases paramType with
    | none => exact absurd rfl (h rfl)
    | some param => rfl

theorem mapM_operationLines {ops : List Operation} (h : ∀ op ∈ ops, Printable op) (depth : Nat) :
    ops.mapM (operationLines depth) = .ok (ops.map fun op => (methodOf op).lines depth) := by
  induction ops with
  | nil => rfl
  | cons op rest ih =>
    have hrest := ih fun other hother => h other (List.mem_cons_of_mem _ hother)
    rw [List.mapM_cons, operationLines_eq (h op List.mem_cons_self), hrest]
    rfl

theorem unitLines_unfold (depth : Nat) (route name : String) (u : ClientUnit) :
    unitLines depth route name u = (do
      let methods ← u.operations.mapM (operationLines (depth + 1))
      let nested ← nestedLines (depth + 1) (Route.join route u.segment) u.children
      return classHeader (padding depth) name u.operations
        :: routeLine (padding depth) (Route.join route u.segment)
        :: (methods.flatMap ("" :: ·) ++ nested)) := by
  obtain ⟨unitName, qualname, segment, operations, children⟩ := u
  rw [unitLines]

theorem header_classOf (pad route name : String) (u : ClientUnit) :
    (classOf route name u).header pad = classHeader pad name u.operations := by
  rw [classOf_eq]
  rfl

/-- **Printing a unit is printing its class**, and it never fails. -/
theorem unitLines_eq {u : ClientUnit} (h : ∀ op ∈ u.allOperations, Printable op) (depth : Nat)
    (route name : String) :
    unitLines depth route name u = .ok ((classOf route name u).lines depth) := by
  induction u using ClientUnit.tree_induction generalizing depth route name with
  | step u ih =>
    rw [ClientUnit.allOperations_eq] at h
    have hown : ∀ op ∈ u.operations, Printable op := fun op hop =>
      h op (List.mem_append_left _ hop)
    have hbelow : ∀ c ∈ u.children, ∀ op ∈ c.allOperations, Printable op := fun c hc op hop =>
      h op (List.mem_append_right _ (List.mem_flatMap.mpr ⟨c, hc, hop⟩))
    -- the nested units one after the other
    have hnested : ∀ cs : List ClientUnit, (∀ c ∈ cs, c ∈ u.children) → ∀ route : String,
        nestedLines (depth + 1) route cs
          = .ok (cs.flatMap fun c => "" :: (classOf route c.name c).lines (depth + 1)) := by
      intro cs
      induction cs with
      | nil => intro _ _; rfl
      | cons c rest ihrest =>
        intro hmem route
        have hc := hmem c List.mem_cons_self
        rw [nestedLines, ih c hc (hbelow c hc),
          ihrest (fun d hd => hmem d (List.mem_cons_of_mem _ hd)) route, List.flatMap_cons]
        rfl
    rw [unitLines_unfold, mapM_operationLines hown, hnested u.children (fun _ hc => hc),
      ClassDef.lines_eq, header_classOf, classOf_eq]
    simp only [bind, Except.bind, pure, Except.pure, List.flatMap_map]

/-- A traced client is printed: its header, its imports and its class. -/
theorem generate_eq {module : String} {isPackage : Bool} {body : List Grammar.Statement}
    {client : ClientRoot} (h : client.Traced module isPackage body) (transport : String) :
    ∃ m, generate client transport = .ok m ∧
      m.source = textOfLines (headerLines client.module
        ++ importBlock (client.plan transport) ++ ["", ""] ++ (outline client.root).lines 0) := by
  have hclasses : classSection client.root = .ok ((outline client.root).lines 0) :=
    unitLines_eq h.complete 0 "" (className client.root.name)
  have hblock : importBlock (client.plan transport) = importBlock (client.imports transport) :=
    importBlock_importPlan h.imports_legible
  rw [hblock]
  unfold generate
  dsimp only
  rw [hclasses]
  exact ⟨_, rfl, rfl⟩

end Waymark.Client

import Mathlib.Tactic.Ring
import Waymark.Proofs.Indentation
import Waymark.Proofs.Outline

/-! # The class section as a tree

    Reading the class section of a client by indentation gives back the tree of its units
    (`generate_reads_as_tree`): a class for each unit, nested and in order as the units are,
    with a line for its route, a method for each operation and then the classes of the units
    nested in it. Neither the items of a long argument list nor a closing bracket nor the line
    of a route is ever taken for a class or a method, at any depth.

    What is read depends on the texts in the tree being on one line each (`OnLines`). They may
    be any texts besides.
-/

namespace Waymark

open Waymark.Layout Waymark.Client

/-- The texts of an operation are on one line each, and it has those that are needed. -/
structure Operation.OnLines (op : Operation) : Prop where
  named : op.capability ≠ ""
  capability : Unbroken op.capability
  requestType : Unbroken op.requestType
  paramType : ∀ param, op.paramType = some param → Unbroken param
  resultType : Unbroken op.resultType
  errorType : Unbroken op.errorType
  printable : Printable op

/-- The texts of a unit and of its operations are on one line each. -/
structure ClientUnit.OnLines (u : ClientUnit) : Prop where
  name : Unbroken u.name
  segment : Unbroken u.segment
  operations : ∀ op ∈ u.operations, op.OnLines

namespace Client

/-! ## The tree that is expected -/

/-- The first line of a class. -/
def classText (name : String) (bases : List String) : String :=
  if bases = [] then "class " ++ name ++ ":"
  else "class " ++ name ++ "(" ++ ", ".intercalate bases ++ "):"

/-- The method of an operation: its parameters and what it returns, and below it the call. -/
def methodBlock (op : Operation) : Block :=
  let node := op.requestType
  let param := op.paramType.getD ""
  let answer := op.resultType ++ ", " ++ op.errorType
  match op.verb with
  | .get =>
    { text := "async def get(self, node: " ++ node ++ ") -> ApiResponse[" ++ answer ++ "]:"
      inner := [{ text := "return await _get(node, " ++ node ++ ", " ++ answer ++ ")" }] }
  | .post =>
    { text := "async def post(self, node: " ++ node ++ ", param: " ++ param
        ++ ") -> ApiResponse[" ++ answer ++ "]:"
      inner := [{ text := "return await _post(node, param, " ++ node ++ ", " ++ param ++ ", "
        ++ answer ++ ")" }] }

/-- The line that documents a route. -/
def routeBlock (route : String) : Block :=
  { text := "\"\"\"" ++ route ++ "\"\"\"" }

mutual
/-- The class of a unit that is called `name` and hangs at `route`. -/
def unitBlock (route name : String) (u : ClientUnit) : Block :=
  match u with
  | ⟨_, _, segment, operations, children⟩ =>
    { text := classText name (operations.map Operation.capability)
      inner := routeBlock (Route.join route segment)
        :: (operations.map methodBlock ++ unitBlocks (Route.join route segment) children) }

/-- The classes of nested units. -/
def unitBlocks (route : String) : List ClientUnit → List Block
  | [] => []
  | u :: rest => unitBlock route u.name u :: unitBlocks route rest
end

theorem unitBlocks_eq_map (route : String) (us : List ClientUnit) :
    unitBlocks route us = us.map fun u => unitBlock route u.name u := by
  induction us with
  | nil => rfl
  | cons u rest ih => rw [unitBlocks, ih, List.map_cons]

theorem unitBlock_eq (route name : String) (u : ClientUnit) :
    unitBlock route name u =
      { text := classText name (u.operations.map Operation.capability)
        inner := routeBlock (Route.join route u.segment) :: (u.operations.map methodBlock
          ++ u.children.map fun c => unitBlock (Route.join route u.segment) c.name c) } := by
  obtain ⟨unitName, qualname, segment, operations, children⟩ := u
  rw [unitBlock, unitBlocks_eq_map]

/-! ## Methods -/

/-- A method on its own lines: what it takes and returns, and below it the call. -/
def Method.block (m : Method) : Block :=
  { text := "async def " ++ m.name ++ "(" ++ ", ".intercalate (m.parameters.map parameterText)
      ++ ")" ++ (" -> " ++ m.returns ++ ":")
    inner := [{ text := "return await " ++ m.callee ++ "(" ++ ", ".intercalate m.arguments ++ ")"
      ++ "" }] }

/-- A method is read with its call, each in either layout. -/
theorem Method.readsAs {m : Method} (hname : Unbroken m.name)
    (hparameters : ∀ text ∈ m.parameters.map parameterText, Unbroken text)
    (hreturns : Unbroken m.returns) (hcallee : Unbroken m.callee)
    (harguments : ∀ text ∈ m.arguments, Unbroken text) (depth : Nat) :
    ReadsAs depth (m.lines depth) [m.block] := by
  have hdef : Opening ("async def " ++ m.name).toList := by
    rw [String.toList_append]
    exact Opening.append ⟨'a', _, rfl, by decide, by decide⟩ _
  have hreturn : Opening ("return await " ++ m.callee).toList := by
    rw [String.toList_append]
    exact Opening.append ⟨'r', _, rfl, by decide, by decide⟩ _
  -- the call is the only line inside the method
  have hcall : ReadsAs (depth + 1)
      (argumentLines (padding (depth + 1)) ("return await " ++ m.callee) m.arguments "" ++ [])
      m.block.inner :=
    ReadsAs.arguments hreturn (Unbroken.append (by decide) hcallee) harguments (by decide)
      (ReadsAs.nil (depth + 1 + 1))
  rw [List.append_nil, padding_succ] at hcall
  exact ReadsAs.arguments hdef (Unbroken.append (by decide) hname) hparameters
    (Unbroken.append (Unbroken.append (by decide) hreturns) (by decide)) hcall

/-- The method of an operation has these lines. -/
theorem block_methodOf {op : Operation} (h : Printable op) :
    (methodOf op).block = methodBlock op := by
  obtain ⟨node, capability, verb, requestType, paramType, resultType, errorType, names⟩ := op
  cases verb with
  | get =>
    simp [Method.block, methodOf, methodBlock, parameterText, Verb.method, primitive,
      responseType, ← String.toList_inj]
  | post =>
    cases paramType with
    | none => exact absurd rfl (h rfl)
    | some param =>
      simp [Method.block, methodOf, methodBlock, parameterText, Verb.method, primitive,
        responseType, ← String.toList_inj]

theorem unbroken_parameter {op : Operation} (h : op.OnLines) :
    ∀ text ∈ (methodOf op).parameters.map parameterText, Unbroken text := by
  have hnode : Unbroken ("node: " ++ op.requestType) := Unbroken.append (by decide) h.requestType
  have hparam : ∀ param, op.paramType = some param → Unbroken ("param: " ++ param) :=
    fun param hsome => Unbroken.append (by decide) (h.paramType param hsome)
  have hprintable := h.printable
  obtain ⟨node, capability, verb, requestType, paramType, resultType, errorType, names⟩ := op
  cases verb with
  | get =>
    simp only [methodOf, parameterText, List.map_cons, List.map_nil, List.forall_mem_cons]
    exact ⟨by decide, hnode, fun text htext => absurd htext List.not_mem_nil⟩
  | post =>
    cases paramType with
    -- a POST without a type for its parameter is not printed
    | none => exact absurd rfl (hprintable rfl)
    | some param =>
      simp only [methodOf, parameterText, List.map_cons, List.map_nil, List.forall_mem_cons]
      exact ⟨by decide, hnode, hparam param rfl, fun text htext => absurd htext List.not_mem_nil⟩

theorem unbroken_argument {op : Operation} (h : op.OnLines) :
    ∀ text ∈ (methodOf op).arguments, Unbroken text := by
  obtain ⟨-, -, hnode, hparam, hresult, herror, hprintable⟩ := h
  obtain ⟨node, capability, verb, requestType, paramType, resultType, errorType, names⟩ := op
  cases verb with
  | get =>
    simp only [methodOf, List.forall_mem_cons]
    exact ⟨by decide, hnode, hresult, herror, fun text htext => absurd htext List.not_mem_nil⟩
  | post =>
    cases paramType with
    | none => exact absurd rfl (hprintable rfl)
    | some param =>
      simp only [methodOf, List.forall_mem_cons]
      exact ⟨by decide, by decide, hnode, hparam param rfl, hresult, herror,
        fun text htext => absurd htext List.not_mem_nil⟩

/-- The method of an operation is read as it is expected, in either layout. -/
theorem readsAs_method {op : Operation} (h : op.OnLines) (depth : Nat) :
    ReadsAs depth ((methodOf op).lines depth) [methodBlock op] := by
  have hname : ∀ verb : Verb, Unbroken verb.method := by
    intro verb
    cases verb <;> decide
  have hcallee : ∀ verb : Verb, Unbroken (primitive verb) := by
    intro verb
    cases verb <;> decide
  have hreturns : Unbroken (methodOf op).returns := by
    simp only [methodOf, unbroken_append]
    exact ⟨⟨⟨⟨by decide, h.resultType⟩, by decide⟩, h.errorType⟩, by decide⟩
  rw [← block_methodOf h.printable]
  exact Method.readsAs (hname op.verb) (unbroken_parameter h) hreturns (hcallee op.verb)
    (unbroken_argument h) depth

/-! ## Units -/

theorem unbroken_bare {segment : String} (h : Unbroken segment) : Unbroken (Route.bare segment) := by
  unfold Unbroken Route.bare Text.trimWhere
  rw [String.toList_ofList]
  exact fun hmem => h (Text.mem_of_mem_dropAround hmem)

theorem unbroken_join {route segment : String} (hroute : Unbroken route)
    (hsegment : Unbroken segment) : Unbroken (Route.join route segment) := by
  refine Unbroken.append (by decide) (Unbroken.intercalate (by decide) fun part hpart => ?_)
  simp only [List.mem_filter, List.mem_cons, List.not_mem_nil, or_false] at hpart
  rcases hpart.1 with rfl | rfl
  · exact unbroken_bare hroute
  · exact unbroken_bare hsegment

/-- The bases have a text where there are any. -/
theorem intercalate_ne_empty {parts : List String} (hne : parts ≠ []) (h : ∀ part ∈ parts, part ≠ "") :
    ", ".intercalate parts ≠ "" := by
  obtain ⟨part, rest, rfl⟩ := List.exists_cons_of_ne_nil hne
  have hpart := h part List.mem_cons_self
  cases rest with
  | nil => rwa [String.intercalate_singleton]
  | cons next more =>
    rw [String.intercalate_cons_cons, String.append_assoc]
    intro heq
    rw [String.append_eq_empty_iff] at heq
    exact hpart heq.1

/-- The first line of a class. -/
theorem header_eq {c : ClassDef} (h : ∀ base ∈ c.bases, base ≠ "") (depth : Nat) :
    c.header (padding depth) = padding depth ++ classText c.name c.bases := by
  unfold ClassDef.header classText
  by_cases hbases : c.bases = []
  · rw [hbases]
    simp [String.append_assoc]
  · rw [if_neg hbases]
    dsimp only
    rw [if_neg (intercalate_ne_empty hbases h)]
    simp only [String.append_assoc]

theorem opening_classText (name : String) (bases : List String) :
    Opening (classText name bases).toList := by
  unfold classText
  split
  · rw [String.append_assoc, String.toList_append]
    exact Opening.append ⟨'c', _, rfl, by decide, by decide⟩ _
  · rw [String.append_assoc, String.append_assoc, String.append_assoc, String.toList_append]
    exact Opening.append ⟨'c', _, rfl, by decide, by decide⟩ _

theorem unbroken_classText {name : String} {bases : List String} (hname : Unbroken name)
    (hbases : ∀ base ∈ bases, Unbroken base) : Unbroken (classText name bases) := by
  unfold classText
  split
  · simp only [unbroken_append]
    exact ⟨⟨by decide, hname⟩, by decide⟩
  · simp only [unbroken_append]
    exact ⟨⟨⟨⟨by decide, hname⟩, by decide⟩, Unbroken.intercalate (by decide) hbases⟩, by decide⟩

theorem readsAs_route {route : String} (h : Unbroken route) (depth : Nat) :
    ReadsAs (depth + 1) [routeLine (padding depth) route] [routeBlock route] := by
  have hopening : Opening ("\"\"\"" ++ route ++ "\"\"\"").toList := by
    rw [String.append_assoc, String.toList_append]
    exact Opening.append ⟨'"', _, rfl, by decide, by decide⟩ _
  have hunbroken : Unbroken ("\"\"\"" ++ route ++ "\"\"\"") :=
    (Unbroken.append (by decide) h).append (by decide)
  have hline := ReadsAs.block hopening hunbroken (ReadsAs.nil (depth + 1 + 1))
  have heq : routeLine (padding depth) route
      = padding (depth + 1) ++ ("\"\"\"" ++ route ++ "\"\"\"") := by
    unfold routeLine
    rw [padding_succ]
    simp only [String.append_assoc]
  rw [heq]
  exact hline

/-- **A unit is read as its class**, at every depth. By induction over the tree: below the line
    of the class stand its route, its methods and its nested classes, one step deeper. -/
theorem readsAs_unit {u : ClientUnit} (h : ∀ v ∈ u.walk, v.OnLines) {route name : String}
    (hroute : Unbroken route) (hname : Unbroken name) (depth : Nat) :
    ReadsAs depth ((classOf route name u).lines depth) [unitBlock route name u] := by
  induction u using ClientUnit.tree_induction generalizing route name depth with
  | step u ih =>
    have hown := h u (ClientUnit.mem_walk_self u)
    have hbelow : ∀ c ∈ u.children, ∀ v ∈ c.walk, v.OnLines := by
      intro c hc v hv
      refine h v ?_
      rw [ClientUnit.walk_eq, List.mem_cons, List.mem_flatMap]
      exact .inr ⟨c, hc, hv⟩
    have hjoined := unbroken_join hroute hown.segment
    -- a class is its route, then its methods, then the classes inside it, each behind a blank line
    have hmethods : ReadsAs (depth + 1)
        (u.operations.flatMap fun op => "" :: (methodOf op).lines (depth + 1))
        (u.operations.map methodBlock) :=
      ReadsAs.flatMap fun op hop => (readsAs_method (hown.operations op hop) (depth + 1)).blank
    have hnested : ReadsAs (depth + 1)
        (u.children.flatMap fun c =>
          "" :: (classOf (Route.join route u.segment) c.name c).lines (depth + 1))
        (u.children.map fun c => unitBlock (Route.join route u.segment) c.name c) :=
      ReadsAs.flatMap fun c hc =>
        (ih c hc (hbelow c hc) hjoined (hbelow c hc c (ClientUnit.mem_walk_self c)).name
          (depth + 1)).blank
    have hbases : ∀ base ∈ u.operations.map Operation.capability, base ≠ "" ∧ Unbroken base := by
      intro base hbase
      obtain ⟨op, hop, rfl⟩ := List.mem_map.mp hbase
      exact ⟨(hown.operations op hop).named, (hown.operations op hop).capability⟩
    have hclass := ReadsAs.block (opening_classText name _)
      (unbroken_classText hname fun base hbase => (hbases base hbase).2)
      ((readsAs_route hjoined depth).append (hmethods.append hnested))
    rw [ClassDef.lines_eq, unitBlock_eq, header_eq]
    · rw [classOf_eq]
      simpa only [List.flatMap_map, List.singleton_append] using hclass
    · rw [classOf_eq]
      exact fun base hbase => (hbases base hbase).1

/-! ## Numbers -/

/-- What is counted in methods that count alike. -/
theorem countP_methods {p : Block → Bool} {methods : Nat}
    (h : ∀ op, (methodBlock op).walk.countP p = methods) (ops : List Operation) :
    ((ops.map methodBlock).flatMap Block.walk).countP p = methods * ops.length := by
  induction ops with
  | nil => rfl
  | cons op rest ih =>
    rw [List.map_cons, List.flatMap_cons, List.countP_append, h, ih, List.length_cons]
    ring

/-- What is counted in the class of a unit, if all classes count alike, all methods count alike
    and the lines of routes do not count. -/
theorem countP_walk_unitBlock (p : Block → Bool) (classes methods : Nat)
    (hclass : ∀ name bases inner,
      (if p { text := classText name bases, inner } then 1 else 0) = classes)
    (hmethod : ∀ op, (methodBlock op).walk.countP p = methods)
    (hroute : ∀ route, p (routeBlock route) = false) (route name : String) (u : ClientUnit) :
    (unitBlock route name u).walk.countP p
      = classes * u.unitCount + methods * u.operationCount := by
  induction u using ClientUnit.tree_induction generalizing route name with
  | step u ih =>
    have hown : (if p (unitBlock route name u) then 1 else 0) = classes := by
      rw [unitBlock_eq]
      exact hclass _ _ _
    -- what is below counts as often as the children say, one after another
    have hbelow : ∀ route, ((u.children.map fun c => unitBlock route c.name c).flatMap
          Block.walk).countP p
        = classes * (u.children.flatMap ClientUnit.walk).length
          + methods * (u.children.flatMap ClientUnit.allOperations).length := by
      intro route
      generalize hcs : u.children = cs at ih
      clear hcs
      induction cs with
      | nil => rfl
      | cons c rest ihrest =>
        have hfirst := ih c List.mem_cons_self route c.name
        have hrest := ihrest fun d hd => ih d (List.mem_cons_of_mem _ hd)
        unfold ClientUnit.unitCount ClientUnit.operationCount at hfirst
        rw [List.map_cons, List.flatMap_cons, List.countP_append, hfirst, hrest, List.flatMap_cons,
          List.flatMap_cons, List.length_append, List.length_append]
        ring
    -- the line of the route never counts
    have hline : (routeBlock (Route.join route u.segment)).walk.countP p = 0 := by
      rw [Block.walk_eq, List.countP_cons, hroute]
      rfl
    unfold ClientUnit.unitCount ClientUnit.operationCount
    rw [Block.walk_eq, List.countP_cons, hown, unitBlock_eq, List.flatMap_cons, List.flatMap_append,
      List.countP_append, List.countP_append, hline, countP_methods hmethod, hbelow,
      ClientUnit.walk_eq, ClientUnit.allOperations_eq, List.length_cons, List.length_append]
    ring

/-- There are as many classes as units. -/
theorem countP_classes (route name : String) (u : ClientUnit) :
    (unitBlock route name u).walk.countP (Block.begins "class ") = u.unitCount := by
  have hcount := countP_walk_unitBlock (Block.begins "class ") 1 0 ?_ ?_ ?_ route name u
  · rwa [Nat.one_mul, Nat.zero_mul, Nat.add_zero] at hcount
  -- the header of a class begins with the word, and no other line does
  · intro name bases inner
    have hbegins : Block.begins "class " { text := classText name bases, inner } = true := by
      unfold Block.begins classText
      split
      · simp
      · simp
    rw [hbegins, if_pos rfl]
  · intro op
    obtain ⟨node, capability, verb, requestType, paramType, resultType, errorType, names⟩ := op
    cases verb <;> simp [methodBlock, Block.walk_eq, Block.begins]
  · intro route
    simp [routeBlock, Block.begins, List.isPrefixOf]

/-- There are as many methods as operations. -/
theorem countP_defs (route name : String) (u : ClientUnit) :
    (unitBlock route name u).walk.countP (Block.begins "async def ") = u.operationCount := by
  have hcount := countP_walk_unitBlock (Block.begins "async def ") 0 1 ?_ ?_ ?_ route name u
  · rwa [Nat.one_mul, Nat.zero_mul, Nat.zero_add] at hcount
  · intro name bases inner
    have hbegins : Block.begins "async def " { text := classText name bases, inner } = false := by
      unfold Block.begins classText
      split
      · simp [List.isPrefixOf]
      · simp [List.isPrefixOf]
    rw [hbegins]
    rfl
  · intro op
    obtain ⟨node, capability, verb, requestType, paramType, resultType, errorType, names⟩ := op
    cases verb <;> simp [methodBlock, Block.walk_eq, Block.begins]
  · intro route
    simp [routeBlock, Block.begins, List.isPrefixOf]

/-! ## The class section of a module -/

/-- Texts of lines are put one behind the other. -/
theorem textOfLines_append {xs ys : List String} (hx : xs ≠ []) (hy : ys ≠ []) :
    textOfLines (xs ++ ys) = textOfLines xs ++ textOfLines ys := by
  unfold textOfLines
  rw [String.intercalate_append_of_ne_nil hx hy]
  simp only [String.append_assoc]

/-- What stands before the class section: the header, the imports and two empty lines. -/
def preamble (client : ClientRoot) (transport : String) : String :=
  textOfLines (headerLines client.module
    ++ importBlock (imports client.scope client.root.name client.root.allOperations transport)
    ++ ["", ""])

/-- **The class section of a client is its tree.** For a tree of texts on one line each the
    module is its preamble and a class section, and reading that by indentation gives one
    class for the root, called `<Root>Client`, with everything in it as it is in the tree:
    each class names the capabilities of its unit as its bases, then come its route, a method
    for each operation with its parameters, its answer and its one call, and after them the
    classes of the units nested in it. The numbers that are reported are those of the methods
    and of the classes. -/
theorem generate_reads_as_tree {client : ClientRoot} (h : ∀ u ∈ client.root.walk, u.OnLines)
    (transport : String) :
    ∃ m classes, generate client transport = .ok m ∧
      m.source = preamble client transport ++ classes ∧
      Layout.read classes = [unitBlock "" (client.root.name ++ "Client") client.root] ∧
      m.operationCount = (Block.walkAll (Layout.read classes)).countP (Block.begins "async def ") ∧
      m.unitCount = (Block.walkAll (Layout.read classes)).countP (Block.begins "class ") := by
  have hroot := h client.root (ClientUnit.mem_walk_self client.root)
  have hprintable : ∀ op ∈ client.root.allOperations, Printable op := by
    intro op hop
    obtain ⟨u, hu, hmem⟩ := List.mem_flatMap.mp hop
    exact ((h u hu).operations op hmem).printable
  -- nothing that is on lines fails to print
  have hsection : classSection client.root = .ok ((outline client.root).lines 0) :=
    unitLines_eq hprintable 0 "" (className client.root.name)
  have hreads : ReadsAs 0 ((outline client.root).lines 0)
      [unitBlock "" (client.root.name ++ "Client") client.root] :=
    readsAs_unit h (by decide) (Unbroken.append hroot.name (by decide)) 0
  have hne : (outline client.root).lines 0 ≠ [] := by
    rw [ClassDef.lines_eq]
    exact List.cons_ne_nil _ _
  have hread := read_textOfLines hne hreads
  refine ⟨_, textOfLines ((outline client.root).lines 0),
    by unfold generate; dsimp only; rw [hsection]; rfl, ?_, hread, ?_, ?_⟩
  · exact textOfLines_append (List.append_ne_nil_of_right_ne_nil _ (List.cons_ne_nil _ _)) hne
  -- both numbers are found again by counting headers in what was read
  · rw [hread, Block.walkAll_eq_flatMap, List.flatMap_singleton, countP_defs]
    rfl
  · rw [hread, Block.walkAll_eq_flatMap, List.flatMap_singleton, countP_classes]

theorem sample_onLines : ∀ u ∈ Sample.client.root.walk, u.OnLines := by
  intro u hu
  have hwalk : Sample.client.root.walk = [Sample.client.root] := rfl
  rw [hwalk, List.mem_singleton] at hu
  subst hu
  refine ⟨by decide, by decide, ?_⟩
  intro op hop
  obtain rfl : op = Sample.operation := List.mem_singleton.mp hop
  exact
    { named := by decide
      capability := by decide
      requestType := by decide
      paramType := fun param hparam => by cases hparam
      resultType := by decide
      errorType := by decide
      printable := fun hverb => by cases hverb }

theorem generate_reads_as_tree_sample :
    (∀ u ∈ Sample.client.root.walk, u.OnLines) ∧
      ∃ m classes, generate Sample.client "shapi.client.transport" = .ok m ∧
        m.source = preamble Sample.client "shapi.client.transport" ++ classes ∧
        Layout.read classes =
          [{ text := "class AClient(A.G):"
             inner := [{ text := "\"\"\"/\"\"\"" },
               { text := "async def get(self, node: A) -> ApiResponse[AClient, t.T]:"
                 inner := [{ text := "return await _get(node, A, AClient, t.T)" }] }] }] := by
  obtain ⟨m, classes, hgenerate, hsource, hread, -, -⟩ :=
    generate_reads_as_tree sample_onLines "shapi.client.transport"
  have htree : unitBlock "" (Sample.client.root.name ++ "Client") Sample.client.root =
      { text := "class AClient(A.G):"
        inner := [{ text := "\"\"\"/\"\"\"" },
          { text := "async def get(self, node: A) -> ApiResponse[AClient, t.T]:"
            inner := [{ text := "return await _get(node, A, AClient, t.T)" }] }] } := by
    cbv
  rw [htree] at hread
  exact ⟨sample_onLines, m, classes, hgenerate, hsource, hread⟩

end Client

end Waymark

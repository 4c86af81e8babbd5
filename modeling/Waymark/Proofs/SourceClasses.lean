import Waymark.Proofs.ArgumentSites
import Waymark.Proofs.EndpointTree

/-! # The classes that endpoints are read from

    Endpoints are read from classes, each from one (`Endpoint.ReadFrom`). This module goes the
    other way as well, from what was read to the statements that it was read from:

    * The children and the capabilities of an endpoint are what the statements of its class
      body give, in order (`Members.read_children`, `Members.read_capabilities`), and the
      outermost endpoints are what the statements of the module give (`readRoots_value`).
    * Whatever capability stands in a tree of endpoints, there is a class for it somewhere in
      the classes of the module (`Endpoint.exists_class`).
-/

namespace Waymark

open Waymark.Grammar

variable {scope : Scope} {path : String} {st : Statement} {body : List Statement} {e : Endpoint}

/-! ## Statement by statement -/

/-- The capability that a statement in the body of an endpoint declares, if it declares one. -/
def Grammar.Statement.capability? (scope : Scope) (path : String) : Statement → Option Capability
  | .classDef name bases decorators _ line =>
    if isEndpointClass scope decorators then none
    else Capability.read? scope path name bases decorators line
  | _ => none

/-- The endpoint is what is read from the class. -/
inductive Endpoint.ReadFrom (scope : Scope) (path : String) : Statement → Endpoint → Prop
  | intro {name : String} {bases decorators : List Expr} {body : List Statement} {line : Nat}
      {decorator : Expr} {codes : List Nat}
      (decorated : endpointDecorator scope decorators = some decorator)
      (known : segmentCodes decorator = some codes) :
      Endpoint.ReadFrom scope path (.classDef name bases decorators body line)
        { name, qualname := path ++ name, segment := ofCodes codes
          fields := (Members.read scope (path ++ name ++ ".") body).value.fields
          children := (Members.read scope (path ++ name ++ ".") body).value.children
          capabilities := (Members.read scope (path ++ name ++ ".") body).value.capabilities
          line }

/-- Nothing is read but from classes that are endpoints with a path that is known. -/
theorem Endpoint.read_eq_some_iff :
    (Endpoint.read scope path st).value = some e ↔ Endpoint.ReadFrom scope path st e := by
  constructor
  · intro h
    cases st with
    | classDef name bases decorators body line =>
      cases hdecorator : endpointDecorator scope decorators with
      | none => simp [Endpoint.read, hdecorator] at h
      | some decorator =>
        cases hsegment : segmentCodes decorator with
        | none => simp [Endpoint.read, hdecorator, hsegment] at h
        | some codes =>
          simp only [Endpoint.read, hdecorator, hsegment] at h
          cases h
          exact .intro hdecorator hsegment
    | _ => simp [Endpoint.read] at h
  · rintro ⟨hdecorator, hsegment⟩
    simp only [Endpoint.read, hdecorator, hsegment]
    rfl

theorem Endpoint.read_of_plain {name : String} {bases decorators : List Expr} {line : Nat}
    (h : isEndpointClass scope decorators = false) :
    (Endpoint.read scope path (.classDef name bases decorators body line)).value = none := by
  have hnone : endpointDecorator scope decorators = none := by
    rw [← Option.not_isSome_iff_eq_none]
    exact Bool.eq_false_iff.mp h
  simp [Endpoint.read, hnone]

namespace Members

/-- A single statement declares one member at most. -/
theorem read_single (st : Statement) :
    (read scope path [st]).value.children = (Endpoint.read scope path st).value.toList ∧
    (read scope path [st]).value.capabilities = (st.capability? scope path).toList := by
  cases st with
  | classDef name bases decorators body line =>
    by_cases hclass : isEndpointClass scope decorators = true
    · simp [read, hclass, Statement.capability?]
    · simp [read, hclass, Statement.capability?, Endpoint.read_of_plain (Bool.eq_false_iff.mpr hclass)]
  | annotate target typeExpr value =>
    cases target <;> simp [read, Endpoint.read, Statement.capability?]
  | _ => simp [read, Endpoint.read, Statement.capability?]

/-- The children are read from the statements of the body, in order. -/
theorem read_children (scope : Scope) (path : String) (body : List Statement) :
    (read scope path body).value.children
      = body.filterMap fun st => (Endpoint.read scope path st).value := by
  induction body with
  | nil => simp [read]
  | cons st rest ih =>
    rw [read_cons_value, append, ih, (read_single st).1, List.filterMap_cons]
    cases (Endpoint.read scope path st).value <;> rfl

/-- The capabilities are read from the statements of the body, in order. -/
theorem read_capabilities (scope : Scope) (path : String) (body : List Statement) :
    (read scope path body).value.capabilities
      = body.filterMap (Statement.capability? scope path) := by
  induction body with
  | nil => simp [read]
  | cons st rest ih =>
    rw [read_cons_value, append, ih, (read_single st).2, List.filterMap_cons]
    cases st.capability? scope path <;> rfl

end Members

/-- The outermost endpoints are read from the statements of the module, in order. -/
theorem readRoots_value (scope : Scope) (body : List Statement) :
    (readRoots scope body).value
      = body.filterMap fun st => (Endpoint.read scope "" st).value := by
  induction body with
  | nil => rfl
  | cons st rest ih =>
    simp only [readRoots, Report.value_bind, Report.value_pure, ih, List.filterMap_cons]
    cases (Endpoint.read scope "" st).value <;> rfl

/-- What is read from a source is what its statements make up. -/
theorem Descriptor.value_of_ofSource {module source complaint : String} {isPackage : Bool}
    {report : Report (Option Descriptor)} (hparsed : parseModule source.toList = .ok body)
    (h : ofSource module isPackage source complaint = .ok report) :
    report.value = some (ofStatements module isPackage body).value := by
  unfold ofSource at h
  rw [hparsed] at h
  dsimp only at h
  split at h
  · cases h
  · split at h
    · cases h
    · cases h
      rfl

/-! ## Classes inside classes -/

/-- The statement is one of these, or stands in the body of a class among them, at any depth. -/
inductive Grammar.Statement.Within (st : Statement) : List Statement → Prop
  | here {body : List Statement} (mem : st ∈ body) : Statement.Within st body
  | inside {name : String} {bases decorators : List Expr} {inner body : List Statement} {line : Nat}
      (mem : .classDef name bases decorators inner line ∈ body) (within : Statement.Within st inner) :
      Statement.Within st body

/-- **Every capability has its class.** By induction on the tree: the capabilities of an endpoint
    are read from the body of its class, those of its children from classes in that body. -/
theorem Endpoint.exists_class (h : (Endpoint.read scope path st).value = some e) {d : Endpoint}
    (hd : d ∈ e.walk) {cap : Capability} (hcap : cap ∈ d.capabilities) (hst : st ∈ body) :
    ∃ cls place, Statement.Within cls body ∧ cls.capability? scope place = some cap := by
  induction e using Endpoint.tree_induction generalizing path st body with
  | step e ih =>
    cases Endpoint.read_eq_some_iff.mp h with
    | @intro name bases decorators inner line decorator codes hdecorator hsegment =>
      rw [Endpoint.walk_eq, List.mem_cons, List.mem_flatMap] at hd
      -- the capability is declared in this class, or in one nested in it
      rcases hd with rfl | ⟨c, hc, hd⟩
      · rw [Members.read_capabilities, List.mem_filterMap] at hcap
        obtain ⟨cls, hcls, hread⟩ := hcap
        exact ⟨cls, _, .inside hst (.here hcls), hread⟩
      · have hchild := hc
        rw [Members.read_children, List.mem_filterMap] at hchild
        obtain ⟨st', hst', hread⟩ := hchild
        obtain ⟨cls, place, hwithin, hdeclared⟩ := ih c hc hread hd hst'
        exact ⟨cls, place, .inside hst hwithin, hdeclared⟩

/-- Every capability of a module has its class in the module. -/
theorem exists_class_of_readRoots (h : e ∈ (readRoots scope body).value) {d : Endpoint}
    (hd : d ∈ e.walk) {cap : Capability} (hcap : cap ∈ d.capabilities) :
    ∃ cls place, Statement.Within cls body ∧ cls.capability? scope place = some cap := by
  rw [readRoots_value, List.mem_filterMap] at h
  obtain ⟨st, hst, hread⟩ := h
  exact Endpoint.exists_class hread hd hcap hst

end Waymark

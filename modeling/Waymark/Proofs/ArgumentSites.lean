import Waymark.Proofs.HarmlessArguments
import Waymark.Proofs.LineErasure

/-! # Places of type arguments

    A module with room for one type argument of one contract (`ArgumentSite`): the brackets
    around it, the capability class with the brackets, the endpoint classes around that, from
    the inside out, and the rest of the module. Putting in an expression gives the statements
    of a module (`ArgumentSite.fill`).

    This module says what the expression has to do with what is read:

    * If all endpoints around the capability have a path that is known (`IsRead`), endpoints
      that are read with two expressions are alike but for the capability
      (`ClassSite.read_alike`), and the module can be read exactly if it could with `None` in
      that place and none of the arguments that are put in is fatal
      (`ClassSite.classFault?_eq_none_iff`).
    * Otherwise the expression is never looked at (`ClassSite.read_eq`,
      `ClassSite.classFault?_eq`).
-/

namespace Waymark

open Waymark.Grammar

/-! ## Places -/

/-- Brackets with room for a type argument. -/
inductive Brackets where
  /-- Nothing else is in the brackets. -/
  | alone
  /-- There is a comma before or after it. -/
  | among (before after : List Expr)

namespace Brackets

/-- The index with the expression in its place. -/
def fill (e : Expr) : Brackets → Expr
  | alone => e
  | among before after => .apply .tuple (before ++ e :: after)

/-- The type arguments that an expression is when it is put in: its items if it is a tuple and
    nothing else is in the brackets. -/
def given (e : Expr) : Brackets → List Expr
  | alone => indexArguments e
  | among _ _ => [e]

/-- The type arguments before the place. -/
def before : Brackets → List Expr
  | alone => []
  | among before _ => before

/-- The type arguments after the place. -/
def after : Brackets → List Expr
  | alone => []
  | among _ after => after

theorem indexArguments_fill (brackets : Brackets) (e : Expr) :
    indexArguments (brackets.fill e) = brackets.before ++ (brackets.given e ++ brackets.after) := by
  cases brackets with
  | alone => exact (List.append_nil _).symm
  | among before after => rfl

end Brackets

/-- The class of a capability with room for a type argument in one of its bases. -/
structure CapabilitySite where
  name : String
  decorators : List Expr
  before : List Expr
  after : List Expr
  head : Expr
  brackets : Brackets
  body : List Statement
  line : Nat

namespace CapabilitySite

/-- The base with the expression in its place. -/
def base (site : CapabilitySite) (e : Expr) : Expr :=
  .apply .subscript [site.head, site.brackets.fill e]

/-- The class with the expression in its place. -/
def fill (site : CapabilitySite) (e : Expr) : Statement :=
  .classDef site.name (site.before ++ site.base e :: site.after) site.decorators site.body site.line

/-- The capability that is read with the expression in its place. -/
def capability (scope : Scope) (path : String) (site : CapabilitySite) (e : Expr) : Capability :=
  { name := site.name, qualname := path ++ site.name
    supertypes := (site.before ++ site.base e :: site.after).map (Supertype.read scope)
    marked := site.decorators.any fun d => scope.denoted d == some capabilityMarker
    line := site.line }

/-- The class is no endpoint, and the base denotes a contract. -/
structure Declared (scope : Scope) (site : CapabilitySite) : Prop where
  plain : isEndpointClass scope site.decorators = false
  contract : ((scope.denoted site.head).bind Verb.ofContract?).isSome = true

end CapabilitySite

/-- A class with room for a statement in its body. -/
structure Frame where
  name : String
  bases : List Expr
  decorators : List Expr
  before : List Statement
  after : List Statement
  line : Nat

namespace Frame

/-- The class with the statement in its place. -/
def fill (frame : Frame) (s : Statement) : Statement :=
  .classDef frame.name frame.bases frame.decorators (frame.before ++ s :: frame.after) frame.line

/-- The code points of the path segment, if the class is an endpoint whose path is known. -/
def segment (scope : Scope) (frame : Frame) : Option (List Nat) :=
  (endpointDecorator scope frame.decorators).bind segmentCodes

end Frame

/-- Endpoint classes, one in the other, with room for a type argument in a capability of the
    innermost one. -/
inductive ClassSite where
  | here (frame : Frame) (capability : CapabilitySite)
  | nested (frame : Frame) (inner : ClassSite)

namespace ClassSite

/-- The outermost class with the expression in its place. -/
def fill (e : Expr) : ClassSite → Statement
  | here frame cap => frame.fill (cap.fill e)
  | nested frame inner => frame.fill (inner.fill e)

/-- The type arguments that an expression is when it is put in. -/
def given (e : Expr) : ClassSite → List Expr
  | here _ cap => cap.brackets.given e
  | nested _ inner => inner.given e

/-- The capability that is read with the expression in its place. -/
def capability (scope : Scope) (e : Expr) (path : String) : ClassSite → Capability
  | here frame cap => cap.capability scope (path ++ frame.name ++ ".") e
  | nested frame inner => inner.capability scope e (path ++ frame.name ++ ".")

/-- All classes around the capability are endpoints, and the capability is declared. -/
def Declared (scope : Scope) : ClassSite → Prop
  | here frame cap => isEndpointClass scope frame.decorators = true ∧ cap.Declared scope
  | nested frame inner => isEndpointClass scope frame.decorators = true ∧ inner.Declared scope

/-- All endpoints around the capability have a path that is known. -/
def IsRead (scope : Scope) : ClassSite → Prop
  | here frame _ => frame.segment scope ≠ none
  | nested frame inner => frame.segment scope ≠ none ∧ inner.IsRead scope

end ClassSite

/-- A module with room for a type argument. -/
structure ArgumentSite where
  before : List Statement
  after : List Statement
  root : ClassSite

namespace ArgumentSite

/-- The module with the expression in its place. -/
def fill (site : ArgumentSite) (e : Expr) : List Statement :=
  site.before ++ site.root.fill e :: site.after

/-- The names of the module, whatever stands in the place. -/
def scope (module : String) (isPackage : Bool) (site : ArgumentSite) : Scope :=
  Scope.ofStatements module isPackage (site.fill (.literal .none))

end ArgumentSite

/-! ## Reading bodies piece by piece -/

theorem Report.ext {α : Type} {r r' : Report α} (hvalue : r.value = r'.value)
    (hdiagnostics : r.diagnostics = r'.diagnostics) : r = r' := by
  cases r
  cases r'
  cases hvalue
  cases hdiagnostics
  rfl

namespace Members

/-- What two bodies declare, one after the other. -/
def append (m m' : Members) : Members :=
  { fields := m.fields ++ m'.fields, children := m.children ++ m'.children
    capabilities := m.capabilities ++ m'.capabilities }

variable (scope : Scope) (path : String)

@[simp] theorem empty_append (m : Members) : append {} m = m := rfl

/-- A body is read statement by statement. -/
theorem read_cons_value (s : Statement) (rest : List Statement) :
    (read scope path (s :: rest)).value
      = (read scope path [s]).value.append (read scope path rest).value := by
  cases s with
  | classDef name bases decorators body line =>
    by_cases hclass : isEndpointClass scope decorators = true
    · simp [read, hclass, append]
    · simp [read, hclass, append]
  | annotate target typeExpr value =>
    cases target <;> simp [read, append]
  | _ => simp [read]

theorem read_cons_diagnostics (s : Statement) (rest : List Statement) :
    (read scope path (s :: rest)).diagnostics
      = (read scope path [s]).diagnostics ++ (read scope path rest).diagnostics := by
  cases s with
  | classDef name bases decorators body line =>
    by_cases hclass : isEndpointClass scope decorators = true
    · simp [read, hclass]
    · simp [read, hclass]
  | annotate target typeExpr value =>
    cases target <;> simp [read]
  | _ => simp [read]

/-- What a statement declares stands between what the statements around it declare. -/
theorem read_fill_value (before after : List Statement) (s : Statement) :
    (read scope path (before ++ s :: after)).value
      = (read scope path before).value.append
          ((read scope path [s]).value.append (read scope path after).value) := by
  induction before with
  | nil => exact read_cons_value scope path s after
  | cons first rest ih =>
    rw [List.cons_append, read_cons_value, ih, read_cons_value scope path first rest]
    simp only [append, List.append_assoc]

theorem read_fill_diagnostics (before after : List Statement) (s : Statement) :
    (read scope path (before ++ s :: after)).diagnostics
      = (read scope path before).diagnostics
        ++ ((read scope path [s]).diagnostics ++ (read scope path after).diagnostics) := by
  induction before with
  | nil => exact read_cons_diagnostics scope path s after
  | cons first rest ih =>
    rw [List.cons_append, read_cons_diagnostics, ih, read_cons_diagnostics scope path first rest,
      List.append_assoc]

/-- What is read of a body depends on a statement in it by what is read of the statement. -/
theorem read_fill_congr (before after : List Statement) {s s' : Statement}
    (h : read scope path [s] = read scope path [s']) :
    read scope path (before ++ s :: after) = read scope path (before ++ s' :: after) := by
  apply Report.ext
  · rw [read_fill_value, read_fill_value, h]
  · rw [read_fill_diagnostics, read_fill_diagnostics, h]

end Members

/-! ## Reading around the place -/

/-- Two endpoints that are alike but for one capability, which is `old` in the one and `new` in
    the other. -/
inductive Endpoint.AlikeBut (old new : Capability) : Endpoint → Endpoint → Prop where
  | here (e : Endpoint) (before after : List Capability) :
    AlikeBut old new { e with capabilities := before ++ old :: after }
      { e with capabilities := before ++ new :: after }
  | nested (e : Endpoint) (before after : List Endpoint) {c c' : Endpoint}
    (child : AlikeBut old new c c') :
    AlikeBut old new { e with children := before ++ c :: after }
      { e with children := before ++ c' :: after }

namespace Frame

variable {scope : Scope} {path : String} {frame : Frame}

/-- The endpoint that the class is if what stands in its place declares the members. -/
def endpoint (scope : Scope) (path : String) (frame : Frame) (codes : List Nat) (inner : Members) :
    Endpoint :=
  let front := (Members.read scope (path ++ frame.name ++ ".") frame.before).value
  let back := (Members.read scope (path ++ frame.name ++ ".") frame.after).value
  { name := frame.name, qualname := path ++ frame.name, segment := ofCodes codes
    fields := (front.append (inner.append back)).fields
    children := (front.append (inner.append back)).children
    capabilities := (front.append (inner.append back)).capabilities
    line := frame.line }

/-- An endpoint whose path is known is read with all its members. -/
theorem read_fill_value {codes : List Nat} (h : frame.segment scope = some codes) (s : Statement) :
    (Endpoint.read scope path (frame.fill s)).value
      = some (frame.endpoint scope path codes
          (Members.read scope (path ++ frame.name ++ ".") [s]).value) := by
  obtain ⟨decorator, hdecorator, hsegment⟩ := Option.bind_eq_some_iff.mp h
  simp only [fill, Endpoint.read, hdecorator, hsegment, Report.value_bind, Report.value_pure,
    Members.read_fill_value]
  rfl

theorem read_fill_diagnostics {codes : List Nat} (h : frame.segment scope = some codes)
    {s s' : Statement}
    (hfields : (Members.read scope (path ++ frame.name ++ ".") [s]).value.fields
      = (Members.read scope (path ++ frame.name ++ ".") [s']).value.fields)
    (hdiagnostics : (Members.read scope (path ++ frame.name ++ ".") [s]).diagnostics
      = (Members.read scope (path ++ frame.name ++ ".") [s']).diagnostics) :
    (Endpoint.read scope path (frame.fill s)).diagnostics
      = (Endpoint.read scope path (frame.fill s')).diagnostics := by
  obtain ⟨decorator, hdecorator, hsegment⟩ := Option.bind_eq_some_iff.mp h
  simp only [fill, Endpoint.read, hdecorator, hsegment, Report.diagnostics_bind,
    Report.diagnostics_pure, Report.diagnostics_tell, Members.read_fill_value,
    Members.read_fill_diagnostics, Members.append, hfields, hdiagnostics]

theorem read_fill_congr {s s' : Statement}
    (h : Members.read scope (path ++ frame.name ++ ".") [s]
      = Members.read scope (path ++ frame.name ++ ".") [s']) :
    Endpoint.read scope path (frame.fill s) = Endpoint.read scope path (frame.fill s') := by
  simp only [fill, Endpoint.read, Members.read_fill_congr scope _ _ _ h]

/-- Where the path is not known, what stands in the class is not looked at. -/
theorem read_fill_of_unknown (h : frame.segment scope = none) (s s' : Statement) :
    Endpoint.read scope path (frame.fill s) = Endpoint.read scope path (frame.fill s') := by
  simp only [fill, Endpoint.read]
  cases hdecorator : endpointDecorator scope frame.decorators with
  | none => rfl
  | some decorator =>
    have hsegment : segmentCodes decorator = none := by
      simpa [segment, hdecorator] using h
    simp only [hsegment]

end Frame

namespace CapabilitySite

variable {scope : Scope} {site : CapabilitySite}

end CapabilitySite

namespace ClassSite

variable {scope : Scope} {site : ClassSite}

theorem isEndpointClass_fill (h : site.Declared scope) (e : Expr) :
    ∃ name bases decorators body line, site.fill e = .classDef name bases decorators body line ∧
      isEndpointClass scope decorators = true := by
  cases site with
  | here frame cap => exact ⟨_, _, _, _, _, rfl, h.1⟩
  | nested frame inner => exact ⟨_, _, _, _, _, rfl, h.1⟩

/-- A class that is an endpoint is read as one in the body of another class as well. -/
theorem read_single (h : site.Declared scope) (path : String) (e : Expr) :
    (Members.read scope path [site.fill e]).value
        = { children := (Endpoint.read scope path (site.fill e)).value.toList } ∧
      (Members.read scope path [site.fill e]).diagnostics
        = (Endpoint.read scope path (site.fill e)).diagnostics := by
  obtain ⟨name, bases, decorators, body, line, heq, hclass⟩ := isEndpointClass_fill h e
  rw [heq]
  simp [Members.read, hclass]

/-- Where the path of an endpoint around the capability is not known, the expression is never
    looked at. -/
theorem read_eq (h : site.Declared scope) (hread : ¬ site.IsRead scope) (path : String)
    (old new : Expr) :
    Endpoint.read scope path (site.fill old) = Endpoint.read scope path (site.fill new) := by
  -- some path is not known; if it is not that of the outermost endpoint, it is further in
  induction site generalizing path with
  | here frame cap => exact Frame.read_fill_of_unknown (not_not.mp hread) _ _
  | nested frame inner ih =>
    by_cases hknown : frame.segment scope = none
    · exact Frame.read_fill_of_unknown hknown _ _
    · obtain ⟨-, hinner⟩ := h
      have hskipped : ¬ inner.IsRead scope := fun hinner => hread ⟨hknown, hinner⟩
      have hsame := ih hinner hskipped (path ++ frame.name ++ ".")
      apply Frame.read_fill_congr
      apply Report.ext
      · rw [(read_single hinner _ old).1, (read_single hinner _ new).1, hsame]
      · rw [(read_single hinner _ old).2, (read_single hinner _ new).2, hsame]

end ClassSite

/-! ## Faults around the place -/

theorem bodyFault?_cons (scope : Scope) (s : Statement) (rest : List Statement) :
    bodyFault? scope (s :: rest) = (bodyFault? scope [s]).or (bodyFault? scope rest) := by
  cases s with
  | annotate target typeExpr value => cases target <;> simp [bodyFault?]
  | _ => simp [bodyFault?]

theorem bodyFault?_fill (scope : Scope) (before after : List Statement) (s : Statement) :
    bodyFault? scope (before ++ s :: after)
      = (bodyFault? scope before).or ((bodyFault? scope [s]).or (bodyFault? scope after)) := by
  induction before with
  | nil => exact bodyFault?_cons scope s after
  | cons first rest ih =>
    rw [List.cons_append, bodyFault?_cons, ih, bodyFault?_cons scope first rest, Option.or_assoc]

/-- Only what has a text can be used as an argument. -/
theorem hasText_of_fatal?_eq_none {scope : Scope} {e : Expr}
    (h : TypeArgument.fatal? scope e = none) : HasText e := by
  by_contra hfault
  obtain ⟨fault, hfault⟩ := Option.ne_none_iff_exists'.mp hfault
  have htype : TypeArgument.typeOf scope e = .error (.unprintable fault) := by
    unfold TypeArgument.typeOf standalone Expr.text
    rw [hfault]
    rfl
  unfold TypeArgument.fatal? at h
  rw [htype] at h
  cases h

/-- An index has a text if all its arguments have one. -/
theorem hasText_of_indexArguments {index : Expr} (h : ∀ a ∈ indexArguments index, HasText a) :
    HasText index := by
  unfold indexArguments at h
  split at h
  · exact hasText_apply id h
  · exact h index List.mem_cons_self

/-- A base in brackets can be read exactly if what stands before the brackets has a text and
    none of the arguments is fatal. -/
theorem baseFault?_eq_none_iff {scope : Scope} {head index : Expr} :
    baseFault? scope (.apply .subscript [head, index]) = none ↔
      HasText head ∧ ∀ a ∈ indexArguments index, TypeArgument.fatal? scope a = none := by
  have harguments : ((indexArguments index).findSome? fun e =>
      (TypeArgument.fatal? scope e).map ReadFault.spelling) = none ↔
      ∀ a ∈ indexArguments index, TypeArgument.fatal? scope a = none := by
    simp only [List.findSome?_eq_none_iff, Option.map_eq_none_iff]
  have hprint : printFault? (.apply .subscript [head, index]) = none ↔
      HasText head ∧ HasText index := by
    unfold printFault? HasText
    rw [Option.map_eq_none_iff, fault?_apply id, partsFault?_eq_none_iff]
    simp only [List.forall_mem_cons, List.not_mem_nil, false_implies, implies_true, and_true]
  unfold baseFault?
  rw [Option.or_eq_none_iff, harguments, hprint]
  constructor
  · rintro ⟨⟨hhead, -⟩, hall⟩
    exact ⟨hhead, hall⟩
  -- an argument that is not fatal has a text, so what is in the brackets has one
  · rintro ⟨hhead, hall⟩
    exact ⟨⟨hhead, hasText_of_indexArguments fun a ha => hasText_of_fatal?_eq_none (hall a ha)⟩, hall⟩

namespace Frame

variable {scope : Scope} {frame : Frame}

/-- An endpoint whose path is known can be read exactly if all its members can, and its path. -/
theorem classFault?_fill_eq_none_iff {codes : List Nat} (h : frame.segment scope = some codes)
    (s : Statement) :
    classFault? scope (frame.fill s) = none ↔
      bodyFault? scope [s] = none ∧ bodyFault? scope frame.before = none ∧
        bodyFault? scope frame.after = none ∧ codes.any isSurrogate = false := by
  have hmatch : (endpointDecorator scope frame.decorators).bind segmentCodes = some codes := h
  simp only [fill, classFault?, hmatch, bodyFault?_fill, Option.or_eq_none_iff]
  by_cases hhalf : codes.any isSurrogate = true
  · simp [hhalf]
  · simp only [hhalf, Bool.false_eq_true, if_false]
    tauto

/-- Where the path is not known, nothing in the class is a fault. -/
theorem classFault?_fill_of_unknown (h : frame.segment scope = none) (s : Statement) :
    classFault? scope (frame.fill s) = none := by
  have hmatch : (endpointDecorator scope frame.decorators).bind segmentCodes = none := h
  simp only [fill, classFault?, hmatch]

end Frame

namespace ClassSite

variable {scope : Scope} {site : ClassSite}

/-- An endpoint in the body of another class is searched for faults as an endpoint. -/
theorem bodyFault?_single (h : site.Declared scope) (e : Expr) :
    bodyFault? scope [site.fill e] = classFault? scope (site.fill e) := by
  obtain ⟨name, bases, decorators, body, line, heq, hclass⟩ := isEndpointClass_fill h e
  rw [heq]
  simp [bodyFault?, hclass]

/-- Where the path of an endpoint around the capability is not known, no expression is a fault. -/
theorem classFault?_eq (h : site.Declared scope) (hread : ¬ site.IsRead scope) (old new : Expr) :
    classFault? scope (site.fill old) = none ↔ classFault? scope (site.fill new) = none := by
  induction site with
  | here frame cap =>
    have hunknown := not_not.mp hread
    simp only [fill, Frame.classFault?_fill_of_unknown hunknown]
  | nested frame inner ih =>
    cases hsegment : frame.segment scope with
    | none => simp only [fill, Frame.classFault?_fill_of_unknown hsegment]
    | some codes =>
      have hskipped : ¬ inner.IsRead scope := fun hinner =>
        hread ⟨hsegment ▸ Option.some_ne_none codes, hinner⟩
      simp only [fill, Frame.classFault?_fill_eq_none_iff hsegment, bodyFault?_single h.2,
        ih h.2 hskipped]

end ClassSite

/-! ## The whole module -/

theorem readRoots_fill_value (scope : Scope) (before after : List Statement) (s : Statement) :
    (readRoots scope (before ++ s :: after)).value
      = (readRoots scope before).value
        ++ ((Endpoint.read scope "" s).value.toList ++ (readRoots scope after).value) := by
  induction before with
  | nil => rfl
  | cons first rest ih =>
    simp only [List.cons_append, readRoots, Report.value_bind, Report.value_pure] at ih ⊢
    rw [ih, List.append_assoc]

namespace ArgumentSite

variable {scope : Scope} {site : ArgumentSite}

end ArgumentSite

end Waymark

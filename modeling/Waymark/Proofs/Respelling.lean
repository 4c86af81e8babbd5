import Waymark.Proofs.ScopeAgreement

/-! # Two spellings of the same classes

    Two class bodies may differ in how they refer to the decorators and contracts of the library,
    in lines, and in statements of which nothing is read (`RespelledBody`). The differences are in
    decorators, in what base classes extend and in the values of fields; type arguments and
    annotations are the same.

    Where the scopes of the two modules agree, the two bodies are read alike but for lines and
    for the texts of base classes, which are as they stand in the source
    (`Endpoint.withoutTexts`), and either both can be read or none can.
-/

namespace Waymark

open Waymark.Grammar

/-! ## Classes -/

/-- Two base classes that are the same but for how they refer to markers, with the same type
    arguments. -/
inductive Grammar.Expr.RespelledBase (refer : Expr → Expr → Prop) (names : List String) :
    Expr → Expr → Prop
  | brackets {head head' index : Expr} (front : head.Respelled refer names head') :
    Expr.RespelledBase refer names (.apply .subscript [head, index])
      (.apply .subscript [head', index])
  | plain {e e' : Expr} (plain : ∀ head index, e ≠ .apply .subscript [head, index])
    (whole : e.Respelled refer names e') : Expr.RespelledBase refer names e e'

/-- Neither a class nor an annotation of a name: nothing is read of the statement. -/
def Grammar.Statement.IsSilent : Statement → Prop
  | .classDef .. => False
  | .annotate (.name _) _ _ => False
  | _ => True

/-- Two class bodies that are the same but for how they refer to markers, for lines, and for
    statements of which nothing is read. -/
inductive RespelledBody (refer : Expr → Expr → Prop) (names : List String) :
    List Statement → List Statement → Prop
  | nil : RespelledBody refer names [] []
  | classDef {name : String} {bases bases' decorators decorators' : List Expr}
    {inner inner' rest rest' : List Statement} {line line' : Nat}
    (extended : List.Forall₂ (Expr.RespelledBase refer names) bases bases')
    (decorated : List.Forall₂ (Expr.Respelled refer names) decorators decorators')
    (nested : RespelledBody refer names inner inner')
    (later : RespelledBody refer names rest rest') :
    RespelledBody refer names (.classDef name bases decorators inner line :: rest)
      (.classDef name bases' decorators' inner' line' :: rest')
  | field {name : String} {typeExpr : Expr} {value value' : Option Expr}
    {rest rest' : List Statement}
    (given : Option.Rel (Expr.Respelled refer names) value value')
    (later : RespelledBody refer names rest rest') :
    RespelledBody refer names (.annotate (.name name) typeExpr value :: rest)
      (.annotate (.name name) typeExpr value' :: rest')
  | left {st : Statement} {rest body' : List Statement} (silent : st.IsSilent)
    (later : RespelledBody refer names rest body') : RespelledBody refer names (st :: rest) body'
  | right {st : Statement} {body rest' : List Statement} (silent : st.IsSilent)
    (later : RespelledBody refer names body rest') : RespelledBody refer names body (st :: rest')

/-! ## Texts of base classes -/

/-- The base class without its text. -/
def Supertype.withoutText (s : Supertype) : Supertype := { s with display := "" }

/-- The capability without the texts of its base classes, and without its line. -/
def Capability.withoutTexts (cap : Capability) : Capability :=
  { cap with supertypes := cap.supertypes.map Supertype.withoutText, line := 0 }

namespace Endpoint

mutual
/-- The endpoint without the texts of base classes, and without lines. -/
def withoutTexts : Endpoint → Endpoint
  | ⟨name, qualname, segment, fields, children, capabilities, _⟩ =>
    ⟨name, qualname, segment, fields, withoutAllTexts children,
      capabilities.map Capability.withoutTexts, 0⟩

/-- The endpoints without the texts of base classes, and without lines. -/
def withoutAllTexts : List Endpoint → List Endpoint
  | [] => []
  | e :: rest => e.withoutTexts :: withoutAllTexts rest
end

theorem withoutAllTexts_eq_map (es : List Endpoint) : withoutAllTexts es = es.map withoutTexts := by
  induction es with
  | nil => rfl
  | cons e rest ih => rw [withoutAllTexts, ih, List.map_cons]

theorem withoutTexts_eq (e : Endpoint) :
    e.withoutTexts = { e with children := e.children.map withoutTexts
                              capabilities := e.capabilities.map Capability.withoutTexts
                              line := 0 } := by
  obtain ⟨name, qualname, segment, fields, children, capabilities, line⟩ := e
  rw [withoutTexts, withoutAllTexts_eq_map]

/-- Without texts there are no lines either. -/
theorem withoutTexts_eraseLines (e : Endpoint) : e.eraseLines.withoutTexts = e.withoutTexts := by
  induction e using tree_induction with
  | step e ih =>
    have hchildren : (e.children.map eraseLines).map withoutTexts
        = e.children.map withoutTexts := by
      rw [List.map_map]
      exact List.map_congr_left ih
    have hcapabilities : (e.capabilities.map Capability.eraseLine).map Capability.withoutTexts
        = e.capabilities.map Capability.withoutTexts := by
      rw [List.map_map]
      rfl
    rw [withoutTexts_eq, eraseLines_eq, withoutTexts_eq e, hchildren, hcapabilities]

end Endpoint

/-- The members without the texts of base classes, and without lines. -/
def Members.withoutTexts (m : Members) : Members :=
  { m with children := m.children.map Endpoint.withoutTexts
           capabilities := m.capabilities.map Capability.withoutTexts }

theorem Members.withoutTexts_eq_iff {m m' : Members} :
    m.withoutTexts = m'.withoutTexts ↔ m.fields = m'.fields ∧
      m.children.map Endpoint.withoutTexts = m'.children.map Endpoint.withoutTexts ∧
      m.capabilities.map Capability.withoutTexts = m'.capabilities.map Capability.withoutTexts := by
  unfold withoutTexts
  rw [Members.mk.injEq]

/-! ## Base classes and capabilities -/

section

variable {refer : Expr → Expr → Prop} {names : List String} {scope scope' : Scope}

theorem Supertype.read_of_plain {base : Expr}
    (hplain : ∀ head index, base ≠ .apply .subscript [head, index]) :
    Supertype.read scope base
      = { display := base.print false Level.test, target := scope.denoted base } := by
  unfold read
  split
  · exact absurd rfl (hplain _ _)
  · rfl

theorem baseFault?_of_plain {base : Expr}
    (hplain : ∀ head index, base ≠ .apply .subscript [head, index]) :
    baseFault? scope base = none ↔ HasText base := by
  have hfault : baseFault? scope base = printFault? base := by
    unfold baseFault?
    split
    · exact absurd rfl (hplain _ _)
    · exact Option.or_none
  rw [hfault]
  exact Option.map_eq_none_iff

variable (h : Scope.Agrees refer names scope scope')

include h

/-- With the one spelling the other has no brackets either. -/
theorem Grammar.Expr.Respelled.plain {e e' : Expr} (hr : e.Respelled refer names e')
    (hplain : ∀ head index, e ≠ .apply .subscript [head, index]) :
    ∀ head index, e' ≠ .apply .subscript [head, index] := by
  intro head index heq
  cases hr with
  | same free => exact hplain head index heq
  | marker both =>
    cases h.marked _ _ both with
    | @intro name name' path attributes attributes' first second =>
      -- a dotted name is a name or an attribute
      rcases Expr.dotted_cases name' attributes' with hname | ⟨member, e, hmember⟩
      · rw [hname] at heq
        cases heq
      · rw [hmember] at heq
        cases heq
  | @apply form parts parts' _ length each =>
    cases heq
    match parts, length with
    | [first, second], _ => exact hplain first second rfl

/-- The two spellings of a base class are read alike, but for its text. -/
theorem Grammar.Expr.RespelledBase.read_eq {base base' : Expr}
    (hr : base.RespelledBase refer names base') :
    (Supertype.read scope base).withoutText = (Supertype.read scope' base').withoutText := by
  cases hr with
  | brackets front =>
    have harguments : ∀ es : List Expr, es.map (TypeArgument.read scope)
        = es.map (TypeArgument.read scope') :=
      fun es => List.map_congr_left fun e _ => h.argument_eq e
    simp only [Supertype.read, Supertype.withoutText, front.denoted_eq h, harguments]
  | plain hplain whole =>
    rw [Supertype.read_of_plain hplain, Supertype.read_of_plain (whole.plain h hplain),
      whole.denoted_eq h]
    rfl

theorem Grammar.Expr.RespelledBase.fault_iff {base base' : Expr}
    (hr : base.RespelledBase refer names base') :
    baseFault? scope base = none ↔ baseFault? scope' base' = none := by
  cases hr with
  | brackets front =>
    rw [baseFault?_eq_none_iff, baseFault?_eq_none_iff, front.hasText_iff h]
    simp only [h.fatal?_eq]
  | plain hplain whole =>
    rw [baseFault?_of_plain hplain, baseFault?_of_plain (whole.plain h hplain), whole.hasText_iff h]

/-- The two spellings of a class declare the same capability, but for the texts of its base
    classes, or none. -/
theorem capability_respelled {bases bases' decorators decorators' : List Expr} (path name : String)
    (line line' : Nat) (hbases : List.Forall₂ (Expr.RespelledBase refer names) bases bases')
    (hdecorators : List.Forall₂ (Expr.Respelled refer names) decorators decorators') :
    (Capability.read? scope path name bases decorators line).map Capability.withoutTexts
      = (Capability.read? scope' path name bases' decorators' line').map
          Capability.withoutTexts := by
  have hsupertypes : (bases.map (Supertype.read scope)).map Supertype.withoutText
      = (bases'.map (Supertype.read scope')).map Supertype.withoutText := by
    induction hbases with
    | nil => rfl
    | cons hfirst _ ih => simp only [List.map_cons, hfirst.read_eq h, ih]
  have hcontract : (bases.map (Supertype.read scope)).any Supertype.isContract
      = (bases'.map (Supertype.read scope')).any Supertype.isContract := by
    -- the text of a base class has no part in whether it is a contract
    have hany : ∀ supertypes : List Supertype, supertypes.any Supertype.isContract
        = (supertypes.map Supertype.withoutText).any Supertype.isContract := by
      intro supertypes
      rw [List.any_map]
      rfl
    rw [hany, hsupertypes, ← hany]
  unfold Capability.read?
  simp only [isMarked_respelled h capabilityMarker hdecorators, hcontract]
  split
  · simp only [Option.map_some, Capability.withoutTexts, hsupertypes]
  · rfl

end

/-! ## Endpoints -/

/-- Two reports are the same but for the lines of what is reported, and for what `f` takes away
    from their values. -/
structure Report.Alike {α β : Type} (f : α → β) (r r' : Report α) : Prop where
  value : f r.value = f r'.value
  diagnostics : r.diagnostics.map Diagnostic.eraseLine = r'.diagnostics.map Diagnostic.eraseLine

section

variable {refer : Expr → Expr → Prop} {names : List String} {scope scope' : Scope}

/-- Nothing is read of a silent statement. -/
theorem Grammar.Statement.IsSilent.members_eq {st : Statement} (h : st.IsSilent) (path : String)
    (rest : List Statement) :
    Members.read scope path (st :: rest) = Members.read scope path rest := by
  cases st with
  | classDef name bases decorators body line => exact h.elim
  | annotate target typeExpr value =>
    cases target with
    | name id => exact h.elim
    | _ => simp only [Members.read]
  | _ => simp only [Members.read]

theorem Grammar.Statement.IsSilent.endpoint_eq {st : Statement} (h : st.IsSilent) (path : String) :
    Endpoint.read scope path st = pure none := by
  cases st with
  | classDef name bases decorators body line => exact h.elim
  | _ => simp only [Endpoint.read]

theorem Grammar.Statement.IsSilent.bodyFault?_eq {st : Statement} (h : st.IsSilent)
    (rest : List Statement) : bodyFault? scope (st :: rest) = bodyFault? scope rest := by
  cases st with
  | classDef name bases decorators body line => exact h.elim
  | annotate target typeExpr value =>
    cases target with
    | name id => exact h.elim
    | _ => simp only [bodyFault?, Option.none_or]
  | _ => simp only [bodyFault?, Option.none_or]

theorem Grammar.Statement.IsSilent.classFault?_eq {st : Statement} (h : st.IsSilent) :
    classFault? scope st = none := by
  cases st with
  | classDef name bases decorators body line => exact h.elim
  | _ => simp only [classFault?]

variable (h : Scope.Agrees refer names scope scope')

include h

/-- Two spellings of a class are read alike if what stands in them is. -/
theorem endpoint_respelled {decorators decorators' : List Expr} {inner inner' : List Statement}
    (path name : String) (bases bases' : List Expr) (line line' : Nat)
    (hdecorators : List.Forall₂ (Expr.Respelled refer names) decorators decorators')
    (hinner : ∀ path, (Members.read scope path inner).Alike Members.withoutTexts
      (Members.read scope' path inner')) :
    (Endpoint.read scope path (.classDef name bases decorators inner line)).Alike
      (Option.map Endpoint.withoutTexts)
      (Endpoint.read scope' path (.classDef name bases' decorators' inner' line')) := by
  have hdecorator := endpointDecorator_respelled h hdecorators
  rw [Endpoint.read, Endpoint.read]
  generalize endpointDecorator scope decorators = found at hdecorator ⊢
  generalize endpointDecorator scope' decorators' = found' at hdecorator ⊢
  cases hdecorator with
  | none => exact ⟨rfl, rfl⟩
  | @some decorator decorator' hr =>
    dsimp only
    rw [hr.segmentCodes_eq h]
    cases segmentCodes decorator' with
    | none =>
      -- what is reported names the class and its line
      refine ⟨rfl, ?_⟩
      simp [classDiagnostic, Diagnostic.error, Diagnostic.eraseLine, Scope.locate, h.module]
    | some codes =>
      obtain ⟨hvalue, hdiagnostics⟩ := hinner (path ++ name ++ ".")
      obtain ⟨hfields, hchildren, hcapabilities⟩ := Members.withoutTexts_eq_iff.mp hvalue
      have hparents : ∀ fields : List Field,
          (parentDiagnostics scope (path ++ name) line fields).map Diagnostic.eraseLine
            = (parentDiagnostics scope' (path ++ name) line' fields).map Diagnostic.eraseLine := by
        intro fields
        unfold parentDiagnostics classDiagnostic Scope.locate
        rw [h.module]
        dsimp only
        split <;> rfl
      constructor
      · simp only [Report.value_bind, Report.value_pure, Option.map_some]
        rw [Endpoint.withoutTexts_eq, Endpoint.withoutTexts_eq]
        simp only [hfields, hchildren, hcapabilities]
      · simp only [Report.diagnostics_bind, Report.diagnostics_tell, Report.diagnostics_pure,
          List.map_append, hdiagnostics, hfields, hparents]

/-- **Two spellings of a class body are read alike.** By induction on how they differ. -/
theorem RespelledBody.members {body body' : List Statement}
    (hr : RespelledBody refer names body body') (path : String) :
    (Members.read scope path body).Alike Members.withoutTexts (Members.read scope' path body') := by
  induction hr generalizing path with
  | nil => exact ⟨rfl, rfl⟩
  | @classDef name bases bases' decorators decorators' inner inner' rest rest' line line'
      extended decorated nested later ihnested ihlater =>
    obtain ⟨hvalue, hdiagnostics⟩ := ihlater path
    obtain ⟨hfields, hchildren, hcapabilities⟩ := Members.withoutTexts_eq_iff.mp hvalue
    have hclass := isEndpointClass_respelled h decorated
    rw [Members.read, Members.read, hclass]
    split
    · -- an endpoint, which is a child
      obtain ⟨hchild, hchildDiagnostics⟩ :=
        endpoint_respelled h path name bases bases' line line' decorated ihnested
      constructor
      · refine Members.withoutTexts_eq_iff.mpr ⟨hfields, ?_, hcapabilities⟩
        simp only [Report.value_bind, Report.value_pure, List.map_append, ← Option.toList_map,
          hchild, hchildren]
      · simp only [Report.diagnostics_bind, Report.diagnostics_pure, List.map_append,
          hchildDiagnostics, hdiagnostics]
    · -- another class, which may be a capability
      have hcapability := capability_respelled h path name line line' extended decorated
      constructor
      · refine Members.withoutTexts_eq_iff.mpr ⟨hfields, hchildren, ?_⟩
        simp only [Report.value_bind, Report.value_pure, List.map_append, ← Option.toList_map,
          hcapability, hcapabilities]
      · simp only [Report.diagnostics_bind, Report.diagnostics_pure, List.map_append, hdiagnostics]
  | @field name typeExpr value value' rest rest' given later ih =>
    obtain ⟨hvalue, hdiagnostics⟩ := ih path
    obtain ⟨hfields, hchildren, hcapabilities⟩ := Members.withoutTexts_eq_iff.mp hvalue
    rw [Members.read, Members.read]
    constructor
    · refine Members.withoutTexts_eq_iff.mpr ⟨?_, hchildren, hcapabilities⟩
      have hfield := field_respelled h name typeExpr given
      simp only [Report.value_bind, Report.value_pure, hfield, hfields]
    · simp only [Report.diagnostics_bind, Report.diagnostics_pure, List.map_append, hdiagnostics]
  -- a statement that is passed over may be on one side only
  | left silent later ih => rw [silent.members_eq]; exact ih path
  | right silent later ih => rw [silent.members_eq]; exact ih path

/-- The outermost endpoints of two spellings of a module are read alike. By induction on how the
    spellings differ. -/
theorem RespelledBody.roots {body body' : List Statement}
    (hr : RespelledBody refer names body body') :
    (readRoots scope body).Alike (List.map Endpoint.withoutTexts) (readRoots scope' body') := by
  -- what a root is read as comes before what the later ones are
  have hcons : ∀ {st st' : Statement} {rest rest' : List Statement},
      (Endpoint.read scope "" st).Alike (Option.map Endpoint.withoutTexts)
        (Endpoint.read scope' "" st') →
      (readRoots scope rest).Alike (List.map Endpoint.withoutTexts) (readRoots scope' rest') →
      (readRoots scope (st :: rest)).Alike (List.map Endpoint.withoutTexts)
        (readRoots scope' (st' :: rest')) := by
    intro st st' rest rest' hroot hlater
    obtain ⟨hvalue, hdiagnostics⟩ := hroot
    obtain ⟨hvalues, hlaterDiagnostics⟩ := hlater
    rw [readRoots, readRoots]
    constructor
    · simp only [Report.value_bind, Report.value_pure, List.map_append, ← Option.toList_map,
        hvalue, hvalues]
    · simp only [Report.diagnostics_bind, Report.diagnostics_pure, List.map_append, hdiagnostics,
        hlaterDiagnostics]
  have hsilent : ∀ (scope : Scope) {st : Statement} (rest : List Statement), st.IsSilent →
      readRoots scope (st :: rest) = readRoots scope rest := by
    intro scope st rest silent
    rw [readRoots, silent.endpoint_eq]
    apply Report.ext <;> simp
  induction hr with
  | nil => exact ⟨rfl, rfl⟩
  | @classDef name bases bases' decorators decorators' inner inner' rest rest' line line'
      extended decorated nested later _ ih =>
    exact hcons (endpoint_respelled h "" name bases bases' line line' decorated
      fun path => nested.members h path) ih
  | field given later ih => exact hcons ⟨rfl, rfl⟩ ih
  | left silent later ih =>
    rw [hsilent scope _ silent]
    exact ih
  | right silent later ih =>
    rw [hsilent scope' _ silent]
    exact ih

/-! ## Faults -/

/-- Two spellings of a class can both be read, or none can, if that is so of what stands in
    them. -/
theorem classFault?_respelled {decorators decorators' : List Expr} {inner inner' : List Statement}
    (name : String) (bases bases' : List Expr) (line line' : Nat)
    (hdecorators : List.Forall₂ (Expr.Respelled refer names) decorators decorators')
    (hinner : bodyFault? scope inner = none ↔ bodyFault? scope' inner' = none) :
    classFault? scope (.classDef name bases decorators inner line) = none ↔
      classFault? scope' (.classDef name bases' decorators' inner' line') = none := by
  -- both decorators give the same segment, and all else is about the bodies
  have hsegment : (endpointDecorator scope decorators).bind segmentCodes
      = (endpointDecorator scope' decorators').bind segmentCodes := by
    have hdecorator := endpointDecorator_respelled h hdecorators
    generalize endpointDecorator scope decorators = found at hdecorator ⊢
    generalize endpointDecorator scope' decorators' = found' at hdecorator ⊢
    cases hdecorator with
    | none => rfl
    | some hr => exact hr.segmentCodes_eq h
  rw [classFault?, classFault?, hsegment]
  cases (endpointDecorator scope' decorators').bind segmentCodes with
  | none => rfl
  | some codes =>
    dsimp only
    rw [Option.or_eq_none_iff, Option.or_eq_none_iff, hinner]

/-- Two spellings of a class body can both be read, or none can. -/
theorem RespelledBody.bodyFault_iff {body body' : List Statement}
    (hr : RespelledBody refer names body body') :
    bodyFault? scope body = none ↔ bodyFault? scope' body' = none := by
  induction hr with
  | nil => rfl
  | @classDef name bases bases' decorators decorators' inner inner' rest rest' line line'
      extended decorated nested later ihnested ihlater =>
    have hclass := classFault?_respelled h name bases bases' line line' decorated ihnested
    -- a base has a fault exactly if its other spelling has one
    have hbases : bases.findSome? (baseFault? scope) = none ↔
        bases'.findSome? (baseFault? scope') = none := by
      clear hclass
      rw [List.findSome?_eq_none_iff, List.findSome?_eq_none_iff]
      induction extended with
      | nil => simp
      | cons hfirst _ ih => simp only [List.forall_mem_cons, hfirst.fault_iff h, ih]
    simp only [bodyFault?, isEndpointClass_respelled h decorated, Option.or_eq_none_iff, ihlater]
    split
    · rw [hclass]
    · rw [hbases]
  | field given later ih => simp only [bodyFault?, Option.or_eq_none_iff, ih]
  | left silent later ih =>
    rw [silent.bodyFault?_eq]
    exact ih
  | right silent later ih =>
    rw [silent.bodyFault?_eq]
    exact ih

/-- Two spellings of a module can both be read, or none can. -/
theorem RespelledBody.moduleFault_iff {body body' : List Statement}
    (hr : RespelledBody refer names body body') :
    moduleFault? scope body = none ↔ moduleFault? scope' body' = none := by
  unfold moduleFault?
  rw [List.findSome?_eq_none_iff, List.findSome?_eq_none_iff]
  induction hr with
  | nil => simp
  | @classDef name bases bases' decorators decorators' inner inner' rest rest' line line'
      extended decorated nested later _ ih =>
    rw [List.forall_mem_cons, List.forall_mem_cons, ih,
      classFault?_respelled h name bases bases' line line' decorated (nested.bodyFault_iff h)]
  | field given later ih => simp only [List.forall_mem_cons, classFault?, true_and, ih]
  | left silent later ih =>
    rw [List.forall_mem_cons, silent.classFault?_eq, ih]
    exact and_iff_right rfl
  | right silent later ih =>
    rw [List.forall_mem_cons, silent.classFault?_eq, ih]
    exact (and_iff_right rfl).symm

end

end Waymark

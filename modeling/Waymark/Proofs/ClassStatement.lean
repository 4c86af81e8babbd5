import Waymark.Proofs.ArgumentSites
import Waymark.Proofs.ClassShape

/-! # Sources of class trees

    A definition is written as a class statement (`Writes`): a decorator with a literal text
    gives the segment, annotated names are fields, a field whose value is a call of `parent` is
    for the parent, and nested class statements are nested definitions.

    Whatever the source of a definition looks like, what is read from it has the shape of the
    definition, but for blanks at the ends of segments (`Writes.exists_endpoint`, by induction
    on the source together with `WritesAll.reads` for class bodies).
-/

namespace Waymark

open Waymark.Grammar
open Waymark.Api

/-! ## Texts and their codes -/

/-- A text is what its codes spell. -/
theorem Grammar.ofCodes_toNat (cs : List Char) :
    ofCodes (cs.map Char.toNat) = String.ofList cs := by
  unfold ofCodes
  rw [List.map_map]
  simp [Function.comp_def]

theorem Text.dropAround_map {α β : Type} (f : α → β) (p : β → Bool) (xs : List α) :
    Text.dropAround p (xs.map f) = (Text.dropAround (fun x => p (f x)) xs).map f := by
  unfold Text.dropAround
  simp [List.dropWhile_map, ← List.map_reverse, Function.comp_def]

/-- No character is half of one. -/
theorem not_isSurrogate (c : Char) : isSurrogate c.toNat = false := by
  have hvalid : c.toNat < 0xd800 ∨ 0xdfff < c.toNat ∧ c.toNat < 0x110000 := c.valid
  unfold isSurrogate
  simp only [Bool.and_eq_false_iff, decide_eq_false_iff_not]
  omega

/-! ## Sources -/

/-- Is one of the decorators the mark of capabilities? -/
def isMarked (scope : Scope) (decorators : List Expr) : Bool :=
  decorators.any fun d => scope.denoted d == some capabilityMarker

/-- The contracts among the base classes. -/
def contractsOf (scope : Scope) (bases : List Expr) : List Verb :=
  (bases.map (Supertype.read scope)).filterMap fun s => s.target.bind Verb.ofContract?

/-- The decorators give the class its path, as a literal text, if it is a resource; else they
    make it neither a resource nor a capability. -/
def Decorates (scope : Scope) (decorators : List Expr) : Option String → Prop
  | some path => ∃ decorator argument, endpointDecorator scope decorators = some decorator ∧
      pathArgument decorator = some argument ∧ argument.text? = some (path.toList.map Char.toNat)
  | none => endpointDecorator scope decorators = none ∧ isMarked scope decorators = false

variable {ε : Type} {scope : Scope}

mutual
/-- The statement is the source of the definition. Base classes that are no contracts are taken
    to be none of the classes that are defined. -/
inductive Writes (scope : Scope) : Definition ε → Statement → Prop
  | intro {name : String} {segment : Option String} {members : List (Member ε)}
    {bases decorators : List Expr} {body : List Statement} {line : Nat}
    (decorated : Decorates scope decorators segment) (extended : contractsOf scope bases = [])
    (readable : ∀ b ∈ bases, baseFault? scope b = none) (inner : WritesAll scope members body) :
    Writes scope (.mk name none segment none members) (.classDef name bases decorators body line)

/-- The statements are the source of the members. -/
inductive WritesAll (scope : Scope) : List (Member ε) → List Statement → Prop
  | nil : WritesAll scope [] []
  /-- Such as a documentation text. -/
  | skip {members : List (Member ε)} {rest : List Statement} (later : WritesAll scope members rest) :
    WritesAll scope members (.simple :: rest)
  | field {name : String} {default : Option ε} {typeExpr : Expr} {value : Option Expr}
    {members : List (Member ε)} {rest : List Statement}
    (declared : isClassVariable scope typeExpr = false) (readable : printFault? typeExpr = none)
    (given : value.isSome = default.isSome) (plain : value.any (isParentCall scope) = false)
    (later : WritesAll scope members rest) :
    WritesAll scope (.field name default :: members) (.annotate (.name name) typeExpr value :: rest)
  | parent {name : String} {typeExpr value : Expr} {members : List (Member ε)}
    {rest : List Statement}
    (declared : isClassVariable scope typeExpr = false) (readable : printFault? typeExpr = none)
    (called : isParentCall scope value = true) (later : WritesAll scope members rest) :
    WritesAll scope (.parent name :: members) (.annotate (.name name) typeExpr (some value) :: rest)
  | nested {definition : Definition ε} {s : Statement} {members : List (Member ε)}
    {rest : List Statement} (written : Writes scope definition s)
    (later : WritesAll scope members rest) :
    WritesAll scope (.nested definition :: members) (s :: rest)
  | capability {name : String} {verb : Option Verb} {marked : Bool} {bases decorators : List Expr}
    {body : List Statement} {line : Nat} {members : List (Member ε)} {rest : List Statement}
    (undecorated : endpointDecorator scope decorators = none)
    (mark : isMarked scope decorators = marked) (extended : contractsOf scope bases = verb.toList)
    (readable : ∀ b ∈ bases, baseFault? scope b = none) (later : WritesAll scope members rest) :
    WritesAll scope (.capability name verb marked :: members)
      (.classDef name bases decorators body line :: rest)
end

/-! ## What is read from sources -/

/-- The segment that is read is the path without blanks at the ends. -/
theorem segment_of_decorates {decorators : List Expr} {path : String}
    (h : Decorates scope decorators (some path)) :
    ∃ decorator codes, endpointDecorator scope decorators = some decorator ∧
      segmentCodes decorator = some codes ∧ ofCodes codes = Text.trim path ∧
      codes.any isSurrogate = false := by
  obtain ⟨decorator, argument, hdecorator, hargument, htext⟩ := h
  refine ⟨decorator, (Text.dropAround Text.isBlank path.toList).map Char.toNat, hdecorator, ?_,
    ofCodes_toNat _, ?_⟩
  · unfold segmentCodes
    rw [hargument, Option.bind_eq_bind, Option.bind_some, htext]
    exact congrArg some (Text.dropAround_map _ _ _)
  · simp [not_isSurrogate]

/-- A class is read as a capability if it extends a contract or is marked. -/
theorem read?_capability {bases : List Expr} (decorators : List Expr) {verb : Option Verb}
    (hextended : contractsOf scope bases = verb.toList) (path name : String) (line : Nat) :
    (Capability.read? scope path name bases decorators line).map Capability.shape
      = if verb.isSome || isMarked scope decorators then
          some { name, qualname := path ++ name, verb, marked := isMarked scope decorators }
        else none := by
  -- the verb is that of the first contract, and there is at most one here
  have hverb : ((bases.map (Supertype.read scope)).findSome? fun s =>
      s.target.bind Verb.ofContract?) = verb := by
    rw [← List.head?_filterMap]
    show (contractsOf scope bases).head? = verb
    rw [hextended, Option.head?_toList]
  have hcontract : (bases.map (Supertype.read scope)).any Supertype.isContract = verb.isSome := by
    rw [← hverb, List.isSome_findSome?]
    rfl
  unfold Capability.read?
  simp only [hcontract]
  rw [Bool.or_comm]
  show Option.map Capability.shape (if (verb.isSome || isMarked scope decorators) = true then _
    else none) = _
  split
  · simp only [Option.map_some, Capability.shape, Capability.verb?, hverb]
    rfl
  · rfl

/-- What is read from a class body has the shapes of the members. -/
structure ReadsAs (scope : Scope) (path : String) (members : List (Member ε))
    (body : List Statement) : Prop where
  children : Endpoint.shapes (Members.read scope (path ++ ".") body).value.children
    = ClassShape.trimmedAll (childShapes path members)
  capabilities : (Members.read scope (path ++ ".") body).value.capabilities.map Capability.shape
    = capabilityShapes path members
  parent : ((Members.read scope (path ++ ".") body).value.fields.find? Field.isParent).map Field.name
    = parentOf members
  readable : bodyFault? scope body = none

variable {path : String} {members : List (Member ε)} {s : Statement} {rest : List Statement}

/-- A member and the others, and the statement for it and the others. -/
theorem ReadsAs.cons {m : Member ε} (h : ReadsAs scope path [m] [s])
    (hrest : ReadsAs scope path members rest) :
    ReadsAs scope path (m :: members) (s :: rest) where
  children := by
    rw [Members.read_cons_value]
    show Endpoint.shapes (_ ++ _) = _
    rw [Endpoint.shapes_append, h.children, hrest.children, childShapes_cons path m members,
      ClassShape.trimmedAll_append]
  capabilities := by
    rw [Members.read_cons_value]
    show List.map _ (_ ++ _) = _
    rw [List.map_append, h.capabilities, hrest.capabilities, capabilityShapes_cons path m members,
      capabilityShapes_cons path m []]
    exact congrArg (· ++ capabilityShapes path members) (List.append_nil _)
  parent := by
    rw [Members.read_cons_value]
    show Option.map _ (List.find? _ (_ ++ _)) = _
    rw [List.find?_append, Option.map_or, h.parent, hrest.parent, parentOf_cons m members,
      parentOf_cons m []]
    exact congrArg (fun o : Option String => o.or (parentOf members)) Option.or_none
  readable := by
    rw [bodyFault?_cons, h.readable, hrest.readable]
    rfl

/-- What stands for no member is skipped. -/
theorem ReadsAs.skip (h : ReadsAs scope path members rest) :
    ReadsAs scope path members (.simple :: rest) where
  children := by
    simp only [Members.read]
    exact h.children
  capabilities := by
    simp only [Members.read]
    exact h.capabilities
  parent := by
    simp only [Members.read]
    exact h.parent
  readable := by
    simp only [bodyFault?]
    exact h.readable

theorem ReadsAs.field {name : String} {default : Option ε} {typeExpr : Expr} {value : Option Expr}
    (declared : isClassVariable scope typeExpr = false) (readable : printFault? typeExpr = none)
    (plain : value.any (isParentCall scope) = false) :
    ReadsAs scope path [.field name default] [.annotate (.name name) typeExpr value] := by
  refine ⟨?_, ?_, ?_, ?_⟩ <;>
    simp [Members.read, Field.read?, bodyFault?, declared, readable, plain, Endpoint.shapes,
      childShapes, ClassShape.trimmedAll, capabilityShapes, Member.capability?,
      parentOf, Member.parent?]

theorem ReadsAs.parentField {name : String} {typeExpr value : Expr}
    (declared : isClassVariable scope typeExpr = false) (readable : printFault? typeExpr = none)
    (called : isParentCall scope value = true) :
    ReadsAs scope path [(.parent name : Member ε)]
      [.annotate (.name name) typeExpr (some value)] := by
  refine ⟨?_, ?_, ?_, ?_⟩ <;>
    simp [Members.read, Field.read?, bodyFault?, declared, readable, called, Endpoint.shapes,
      childShapes, ClassShape.trimmedAll, capabilityShapes, Member.capability?,
      parentOf, Member.parent?]

/-- A class that is no resource is looked at as a capability. -/
theorem ReadsAs.ofClass {m : Member ε} {name : String} {verb : Option Verb}
    {bases decorators : List Expr} {body : List Statement} {line : Nat}
    (undecorated : endpointDecorator scope decorators = none)
    (extended : contractsOf scope bases = verb.toList)
    (readable : ∀ b ∈ bases, baseFault? scope b = none) (hchild : childShapes path [m] = [])
    (hparent : parentOf [m] = none)
    (hcapability : m.capability? path = if verb.isSome || isMarked scope decorators then
        some { name, qualname := path ++ "." ++ name, verb, marked := isMarked scope decorators }
      else none) :
    ReadsAs scope path [m] [.classDef name bases decorators body line] := by
  have hclass : isEndpointClass scope decorators = false := by
    unfold isEndpointClass
    rw [undecorated]
    rfl
  -- it is no endpoint, so it is a capability or it is nothing
  have hread := read?_capability decorators extended (path ++ ".") name line
  refine ⟨?_, ?_, ?_, ?_⟩
  · simp [Members.read, hclass, hchild, Endpoint.shapes, ClassShape.trimmedAll]
  · rw [capabilityShapes_cons, hcapability, ← hread]
    simp only [Members.read, hclass, Bool.false_eq_true, if_false, Report.value_bind,
      Report.value_pure, List.append_nil]
    cases Capability.read? scope (path ++ ".") name bases decorators line <;> rfl
  · simp [Members.read, hclass, hparent]
  · simp [bodyFault?, hclass, List.findSome?_eq_none_iff.mpr readable]

/-- A nested resource is read as an endpoint, and a nested class that is none is not read. -/
theorem ReadsAs.nested {d : Definition ε} (h : Writes scope d s)
    (hread : ∀ shape, d.shape? (some path) = some shape →
      ∃ e, (Endpoint.read scope (path ++ ".") s).value = some e ∧ e.shape = shape.trimmed ∧
        classFault? scope s = none) : ReadsAs scope path [.nested d] [s] := by
  obtain @⟨name, segment, _, bases, decorators, body, line, decorated, extended, readable, -⟩ := h
  cases segment with
  | none =>
    -- a plain class is looked at as a capability that extends nothing and has no mark
    obtain ⟨undecorated, unmarked⟩ := decorated
    have hextended : contractsOf scope bases = (none : Option Verb).toList := extended
    refine .ofClass undecorated hextended readable rfl rfl ?_
    rw [unmarked]
    rfl
  | some text =>
    obtain ⟨e, hvalue, hshape, hreadable⟩ := hread _ rfl
    obtain ⟨decorator, -, hdecorator, -⟩ := decorated
    have hclass : isEndpointClass scope decorators = true := by
      unfold isEndpointClass
      rw [hdecorator]
      rfl
    refine ⟨?_, ?_, ?_, ?_⟩
    · simp [Members.read, hclass, hvalue, Endpoint.shapes, hshape, childShapes, Definition.shape?,
        ClassShape.trimmedAll]
    · simp [Members.read, hclass, capabilityShapes, Member.capability?]
    · simp [Members.read, hclass, parentOf, Member.parent?]
    · simp [bodyFault?, hclass, hreadable]

mutual
/-- **The source of a resource is read as an endpoint of the same shape**, but for blanks at the
    ends of segments. -/
theorem Writes.exists_endpoint {d : Definition ε} {s : Statement} (h : Writes scope d s)
    {outer : Option String} {path : String} (hpath : ∀ name, path ++ name = nestedName outer name)
    {shape : ClassShape} (hshape : d.shape? outer = some shape) :
    ∃ e, (Endpoint.read scope path s).value = some e ∧ e.shape = shape.trimmed ∧
      classFault? scope s = none := by
  match h with
  | @Writes.intro _ _ name segment _ _ decorators _ _ decorated _ _ inner =>
    cases segment with
    | none => cases hshape
    | some text =>
      obtain rfl := Option.some.inj hshape
      obtain ⟨decorator, codes, hdecorator, hcodes, hsegment, hwhole⟩ := segment_of_decorates decorated
      have hreads := inner.reads (nestedName outer name)
      rw [← hpath] at hreads ⊢
      refine ⟨_, by simp only [Endpoint.read, hdecorator, hcodes, Report.value_bind,
        Report.value_pure]; rfl, ?_, ?_⟩
      · simp only [Endpoint.shape, ClassShape.trimmed, hreads.children, hreads.capabilities,
          hreads.parent, hsegment]
      · simp only [classFault?, hdecorator, Option.bind_some, hcodes, hreads.readable, hwhole]
        rfl

/-- The source of members is read as what has their shapes. -/
theorem WritesAll.reads {members : List (Member ε)} {body : List Statement}
    (h : WritesAll scope members body) (path : String) : ReadsAs scope path members body := by
  -- each statement is read apart from those behind it
  match h with
  | .nil => exact ⟨rfl, rfl, rfl, rfl⟩
  | .skip later => exact (later.reads path).skip
  | .field declared readable _ plain later =>
    exact (ReadsAs.field declared readable plain).cons (later.reads path)
  | .parent declared readable called later =>
    exact (ReadsAs.parentField declared readable called).cons (later.reads path)
  | .nested written later =>
    exact (ReadsAs.nested written fun _ hshape =>
      written.exists_endpoint (fun _ => rfl) hshape).cons (later.reads path)
  | .capability undecorated mark extended readable later =>
    refine (ReadsAs.ofClass undecorated extended readable rfl rfl ?_).cons (later.reads path)
    rw [mark]
    rfl
end

end Waymark

import Mathlib.Data.List.Forall2
import Waymark.Proofs.ArgumentEdit
import Waymark.Proofs.CompiledTree
import Waymark.Proofs.Provenance
import Waymark.Proofs.SourceClasses

/-! # Edits that clients do not show

    A descriptor module holds more than its clients are made of: lines, fields, marks, other
    classes and names. Two versions of a module are compared here that agree in the rest.

    * Two endpoints are `Akin` if they have the same names, segments and base classes in the same
      order, up to the texts of base classes, and the nested ones among them have a field for the
      parent in both versions or in none.
    * Two scopes are the same on some names (`Scope.SameOn`) if they bind these alike.
    * Two diagnostics are `Akin` if they are the same but for lines and for the texts of base
      classes that they repeat (`Rejection.Akin`).

    Compilation is followed step by step in both versions (`Report.Akin`). The main result is
    `sameClients_of_akin`: both versions have the same clients, to the letter, and akin
    diagnostics.
-/

namespace Waymark

open Waymark.Grammar

/-! ## Two versions of a module -/

/-- The base classes denote the same, with the same type arguments. -/
structure Supertype.Akin (s s' : Supertype) : Prop where
  target : s.target = s'.target
  arguments : s.arguments = s'.arguments

/-- The capabilities have the same name and the same base classes. -/
structure Capability.Akin (cap cap' : Capability) : Prop where
  name : cap.name = cap'.name
  supertypes : List.Forall₂ Supertype.Akin cap.supertypes cap'.supertypes

/-- The endpoints are two versions of one, at the root of a tree or nested. -/
inductive Endpoint.Akin : Bool → Endpoint → Endpoint → Prop
  | intro {isRoot : Bool} {e e' : Endpoint} (name : e.name = e'.name)
    (segment : e.segment = e'.segment)
    (parent : isRoot = false → e.parentField.isSome = e'.parentField.isSome)
    (capabilities : List.Forall₂ Capability.Akin e.capabilities e'.capabilities)
    (children : List.Forall₂ (Endpoint.Akin false) e.children e'.children) :
    Endpoint.Akin isRoot e e'

/-- The names that occur in the type arguments of the capability. -/
def Capability.typeNames (cap : Capability) : List String :=
  cap.supertypes.flatMap fun s => (s.arguments.getD []).flatMap TypeArgument.names

/-- The names that occur in the type arguments of a tree. -/
def Endpoint.typeNames (e : Endpoint) : List String :=
  e.walk.flatMap fun d => d.capabilities.flatMap Capability.typeNames

/-- Both scopes are those of one module, and bind the names alike. -/
structure Scope.SameOn (names : List String) (scope scope' : Scope) : Prop where
  module : scope.module = scope'.module
  lookup : ∀ name ∈ names, scope.lookup name = scope'.lookup name

/-! ## Two versions of what is reported -/

/-- The reasons are the same but for the texts of base classes. -/
inductive Rejection.Akin : Rejection → Rejection → Prop
  | same (r : Rejection) : Rejection.Akin r r
  | several {displays displays' : List String} (length : displays.length = displays'.length) :
    Rejection.Akin (.severalSupertypes displays) (.severalSupertypes displays')
  | unknown (display display' : String) :
    Rejection.Akin (.unknownSupertype display) (.unknownSupertype display')

/-- The diagnostics are the same but for their lines and for the texts of base classes. -/
structure Diagnostic.Akin (d d' : Diagnostic) : Prop where
  severity : d.severity = d'.severity
  concern : d.concern = d'.concern
  location : d.location = d'.location
  message : d.message = d'.message ∨
    ∃ r r' : Rejection, r.Akin r' ∧ d.message = r.message ∧ d'.message = r'.message
  hasLine : d.line.isSome = d'.line.isSome
  slot : d.slot = d'.slot

/-- The same comes of both computations, with akin diagnostics. -/
structure Report.Akin {α : Type} (r r' : Report α) : Prop where
  value : r.value = r'.value
  diagnostics : List.Forall₂ Diagnostic.Akin r.diagnostics r'.diagnostics

theorem Rejection.Akin.concern_eq {r r' : Rejection} (h : r.Akin r') : r.concern = r'.concern := by
  cases h <;> rfl

theorem Rejection.Akin.slot_eq {r r' : Rejection} (h : r.Akin r') : r.slot = r'.slot := by
  cases h <;> rfl

/-- What is reported of one reason in two places that differ in their lines. -/
theorem Diagnostic.akin_error {concern : Concern} {location message : String} {slot : Option Int}
    (line line' : Int) : (Diagnostic.error concern location message (some line) slot).Akin
      (.error concern location message (some line') slot) where
  severity := rfl
  concern := rfl
  location := rfl
  message := .inl rfl
  hasLine := rfl
  slot := rfl

namespace Report.Akin

variable {α β : Type}

theorem pure (a : α) : Report.Akin (Pure.pure a : Report α) (Pure.pure a) :=
  ⟨rfl, .nil⟩

theorem tell {ds ds' : List Diagnostic} (h : List.Forall₂ Diagnostic.Akin ds ds') :
    Report.Akin (Report.tell ds) (Report.tell ds') :=
  ⟨rfl, h⟩

/-- Two computations are akin if they go on alike with whatever they come to. -/
theorem bind {r r' : Report α} {f f' : α → Report β} (h : r.Akin r')
    (hnext : ∀ a, (f a).Akin (f' a)) : (r >>= f).Akin (r' >>= f') where
  value := by
    rw [Report.value_bind, Report.value_bind, h.value]
    exact (hnext r'.value).value
  diagnostics := by
    rw [Report.diagnostics_bind, Report.diagnostics_bind, h.value]
    exact List.rel_append h.diagnostics (hnext r'.value).diagnostics

end Report.Akin

/-! ## Resolution -/

section

variable {scope scope' : Scope}

theorem Scope.SameOn.mono {names fewer : List String} (h : Scope.SameOn names scope scope')
    (hfewer : ∀ name ∈ fewer, name ∈ names) : Scope.SameOn fewer scope scope' :=
  ⟨h.module, fun name hname => h.lookup name (hfewer name hname)⟩

/-- A type argument has the same fault in both scopes. -/
theorem Scope.SameOn.fault_eq {names : List String} (h : Scope.SameOn names scope scope')
    {argument : TypeArgument} (hnames : ∀ name ∈ argument.names, name ∈ names) :
    argument.fault scope = argument.fault scope' := by
  have hname : ∀ name ∈ argument.names, scope.nameFault name = scope'.nameFault name := by
    intro name hname
    unfold nameFault
    rw [h.lookup name (hnames name hname), h.module]
  have hfirst : argument.names.findSome? scope.nameFault
      = argument.names.findSome? scope'.nameFault := by
    rw [← List.head?_filterMap, ← List.head?_filterMap, List.filterMap_congr hname]
  unfold TypeArgument.fault
  rw [hfirst]

variable {e e' : Endpoint} {cap cap' : Capability}

/-- Two versions of a capability extend the same contract, or neither is accepted. -/
theorem Capability.Akin.contract (h : cap.Akin cap') :
    (∃ verb arguments, cap.contract = .ok (verb, arguments) ∧
      cap'.contract = .ok (verb, arguments) ∧
      ∀ argument ∈ arguments, ∀ name ∈ argument.names, name ∈ cap.typeNames) ∨
    ∃ r r', cap.contract = .error r ∧ cap'.contract = .error r' ∧ r.Akin r' := by
  have hsupertypes := h.supertypes
  unfold Capability.contract Capability.typeNames
  -- only how many bases there are, and the first, is looked at
  generalize cap.supertypes = bases at hsupertypes ⊢
  generalize cap'.supertypes = bases' at hsupertypes ⊢
  cases hsupertypes with
  | nil => exact .inr ⟨_, _, rfl, rfl, .same _⟩
  | @cons base base' rest rest' hbase hrest =>
    cases hrest with
    | nil =>
      dsimp only
      rw [← hbase.target, ← hbase.arguments]
      cases Verb.ofContract? (base.target.getD "") with
      | none => exact .inr ⟨_, _, rfl, rfl, .unknown _ _⟩
      | some verb =>
        refine .inl ⟨verb, _, rfl, rfl, fun argument hargument name hname => ?_⟩
        rw [List.flatMap_singleton]
        exact List.mem_flatMap.mpr ⟨argument, hargument, hname⟩
    | cons hsecond hrest =>
      refine .inr ⟨_, _, rfl, rfl, .several ?_⟩
      simp only [List.length_map, List.length_cons, hrest.length_eq]

/-- **Two versions of a capability resolve to the same operation**, or are both rejected for the
    same reason. -/
theorem Capability.Akin.resolve (h : cap.Akin cap')
    (hscope : Scope.SameOn cap.typeNames scope scope') (hname : cap.qualname = cap'.qualname)
    (hnode : e.qualname = e'.qualname) :
    (∃ op, cap.resolve scope e = .ok op ∧ cap'.resolve scope' e' = .ok op) ∨
      ∃ r r', cap.resolve scope e = .error r ∧ cap'.resolve scope' e' = .error r' ∧ r.Akin r' := by
  rcases h.contract with ⟨verb, arguments, hcontract, hcontract', hnames⟩ | ⟨r, r', hr, hr', hakin⟩
  · -- the contract is the same, and so are the arguments and what is wrong with them
    have hslots : slotFault scope verb arguments = slotFault scope' verb arguments := by
      funext ⟨slot, index⟩
      simp only [slotFault]
      cases hargument : arguments[index]? with
      | none => rfl
      | some argument =>
        have hmem : argument ∈ arguments := List.mem_of_getElem? hargument
        simp only [hscope.fault_eq (hnames argument hmem)]
    have hoperation : cap.operation e verb arguments = cap'.operation e' verb arguments := by
      unfold operation
      rw [hname, hnode]
    have hsame : cap.resolve scope e = cap'.resolve scope' e' := by
      unfold Capability.resolve
      rw [hcontract, hcontract']
      simp only [bind, Except.bind, hslots, hoperation, hnode]
    rw [← hsame]
    cases cap.resolve scope e with
    | ok op => exact .inl ⟨op, rfl, rfl⟩
    | error r => exact .inr ⟨r, r, rfl, rfl, .same r⟩
  -- the contract fails on both sides, before anything else is read
  · refine .inr ⟨r, r', ?_, ?_, hakin⟩
    · unfold Capability.resolve
      rw [hr]
      rfl
    · unfold Capability.resolve
      rw [hr']
      rfl

theorem Capability.Akin.resolveReport (h : cap.Akin cap')
    (hscope : Scope.SameOn cap.typeNames scope scope') (hname : cap.qualname = cap'.qualname)
    (hnode : e.qualname = e'.qualname) :
    (cap.resolveReport scope e).Akin (cap'.resolveReport scope' e') := by
  unfold Capability.resolveReport
  rcases h.resolve hscope hname hnode with ⟨op, hop, hop'⟩ | ⟨r, r', hr, hr', hakin⟩
  · rw [hop, hop']
    exact ⟨rfl, .nil⟩
  · rw [hr, hr']
    refine ⟨rfl, .cons ?_ .nil⟩
    have hplace : scope.locate cap.qualname = scope'.locate cap'.qualname := by
      unfold Scope.locate
      rw [hscope.module, hname]
    exact
      { severity := rfl
        concern := hakin.concern_eq
        location := hplace
        message := .inr ⟨r, r', hakin, rfl, rfl⟩
        hasLine := rfl
        slot := by
          unfold Capability.rejected Diagnostic.error
          simp only [hakin.slot_eq] }

/-! ## Compilation -/

theorem Misfit.akin_diagnostic (hmodule : scope.module = scope'.module) (qualname : String)
    (line line' : Int) (m : Misfit) :
    (m.diagnostic scope qualname line).Akin (m.diagnostic scope' qualname line') := by
  unfold Misfit.diagnostic Scope.locate
  rw [hmodule]
  exact Diagnostic.akin_error line line'

namespace Endpoint

/-- The capabilities of two versions of an endpoint are read off in step. -/
theorem operations_akin (hnode : e.qualname = e'.qualname) {caps caps' : List Capability}
    (h : List.Forall₂ (fun cap cap' => cap.Akin cap' ∧ cap.qualname = cap'.qualname) caps caps')
    (hscope : ∀ cap ∈ caps, Scope.SameOn cap.typeNames scope scope')
    (taken : List (Verb × String)) :
    (e.operations scope taken caps).Akin (e'.operations scope' taken caps') := by
  induction h generalizing taken with
  | nil => exact .pure []
  | @cons cap cap' rest rest' hfirst _ ih =>
    obtain ⟨hcap, hname⟩ := hfirst
    have hsame := hscope cap List.mem_cons_self
    -- the verbs taken so far are the same on both sides, so they are any
    have hlater := fun taken => ih (fun other hother => hscope other (List.mem_cons_of_mem _ hother))
      taken
    unfold operations
    refine (hcap.resolveReport hsame hname hnode).bind fun resolved => ?_
    cases resolved with
    | none => exact hlater taken
    | some op =>
      dsimp only
      cases taken.lookup op.verb with
      -- the verb is taken: both sides refuse it, with the same first name
      | some first =>
        refine .bind (.tell (.cons ?_ .nil)) fun _ => hlater taken
        rw [hnode, hname]
        exact Misfit.akin_diagnostic hsame.module _ _ _ _
      | none =>
        dsimp only
        rw [hname]
        exact (hlater _).bind fun later => .pure _

theorem typeNames_of_child {c : Endpoint} (hc : c ∈ e.children) {name : String}
    (hname : name ∈ c.typeNames) : name ∈ e.typeNames := by
  obtain ⟨d, hd, hname⟩ := List.mem_flatMap.mp hname
  refine List.mem_flatMap.mpr ⟨d, ?_, hname⟩
  rw [walk_eq]
  exact List.mem_cons_of_mem _ (List.mem_flatMap.mpr ⟨c, hc, hd⟩)

theorem typeNames_of_capability (hcap : cap ∈ e.capabilities) {name : String}
    (hname : name ∈ cap.typeNames) : name ∈ e.typeNames := by
  refine List.mem_flatMap.mpr ⟨e, ?_, List.mem_flatMap.mpr ⟨cap, hcap, hname⟩⟩
  rw [walk_eq]
  exact List.mem_cons_self

variable {isRoot : Bool}

/-- Two versions of an endpoint drop out for the same reasons. -/
theorem Akin.misfits_eq (h : Akin isRoot e e') : e.misfits isRoot = e'.misfits isRoot := by
  obtain ⟨-, -, parent, capabilities, children⟩ := h
  have hcapabilities : e.capabilities.map Capability.name = e'.capabilities.map Capability.name := by
    rw [← List.forall₂_eq_eq_eq, List.forall₂_map_left_iff, List.forall₂_map_right_iff]
    exact capabilities.imp fun _ _ hcap => hcap.name
  have hchildren : e.children.map Endpoint.name = e'.children.map Endpoint.name := by
    rw [← List.forall₂_eq_eq_eq, List.forall₂_map_left_iff, List.forall₂_map_right_iff]
    refine children.imp fun c c' hc => ?_
    cases hc with
    | intro name => exact name
  -- clashes depend on names alone
  have hclashes : e.clashes = e'.clashes := by
    unfold clashes nestedNames
    rw [hchildren, hcapabilities]
  have hparent : (!isRoot && e.parentField.isNone) = (!isRoot && e'.parentField.isNone) := by
    cases isRoot with
    | true => rfl
    | false => rw [← Option.not_isSome, ← Option.not_isSome, parent rfl]
  unfold misfits
  rw [hclashes, hparent]

/-- **Two versions of a tree compile to the same unit**, with akin diagnostics. By induction on
    the tree. -/
theorem Akin.compile {path : String} (h : Akin isRoot e e') (hplaced : e.Placed path)
    (hplaced' : e'.Placed path) (hscope : Scope.SameOn e.typeNames scope scope') :
    (Endpoint.compile scope isRoot e).Akin (Endpoint.compile scope' isRoot e') := by
  induction e using tree_induction generalizing e' isRoot path with
  | step e ih =>
    have hmisfits := h.misfits_eq
    obtain ⟨hname, hsegment, -, hcapabilities, hchildren⟩ := h
    obtain ⟨hqualname, hcaps, hnested⟩ := hplaced
    obtain ⟨hqualname', hcaps', hnested'⟩ := hplaced'
    have hnode : e.qualname = e'.qualname := by rw [hqualname, hqualname', hname]
    rw [compile_eq, compile_eq, hmisfits]
    cases e'.misfits isRoot with
    | cons m ms =>
      -- the endpoint drops out in both versions
      refine .bind (.tell ?_) fun _ => .pure none
      rw [hnode, List.forall₂_map_left_iff, List.forall₂_map_right_iff, List.forall₂_same]
      exact fun m _ => Misfit.akin_diagnostic hscope.module _ _ _ m
    | nil =>
      have hpairs : List.Forall₂ (fun cap cap' => cap.Akin cap' ∧ cap.qualname = cap'.qualname)
          e.capabilities e'.capabilities := by
        refine forall₂_imp_of_mem hcapabilities fun cap hcap cap' hcap' hakin => ⟨hakin, ?_⟩
        rw [(hcaps cap hcap).1, (hcaps' cap' hcap').1, hnode, hakin.name]
      have hoperations := operations_akin hnode hpairs
        (fun cap hcap => hscope.mono fun _ => typeNames_of_capability hcap) []
      have hunits : (compileNested scope e.children).Akin (compileNested scope' e'.children) := by
        have hsub : ∀ c ∈ e.children, Scope.SameOn c.typeNames scope scope' :=
          fun c hc => hscope.mono fun _ => typeNames_of_child hc
        rw [← hnode] at hnested'
        generalize e.children = cs at ih hchildren hnested hsub
        generalize e'.children = cs' at hchildren hnested'
        induction hchildren with
        | nil => exact .pure []
        | @cons c c' rest rest' hc _ ihrest =>
          have hfirst := ih c List.mem_cons_self hc (hnested c List.mem_cons_self)
            (hnested' c' List.mem_cons_self) (hsub c List.mem_cons_self)
          have hrest := ihrest (fun d hd => ih d (List.mem_cons_of_mem _ hd))
            (fun d hd => hnested d (List.mem_cons_of_mem _ hd))
            (fun d hd => hsub d (List.mem_cons_of_mem _ hd))
            (fun d hd => hnested' d (List.mem_cons_of_mem _ hd))
          unfold compileNested
          exact hfirst.bind fun unit => hrest.bind fun later => .pure _
      rw [hname, hsegment, hnode]
      exact hoperations.bind fun ops => hunits.bind fun units => .pure _

end Endpoint

end

/-! ## Roots -/

/-- Two versions of a root, each in the scope of its module. -/
structure RootRequest.Akin (r r' : RootRequest) : Prop where
  endpoint : r.endpoint.Akin true r'.endpoint
  placed : r.endpoint.Placed ""
  placed' : r'.endpoint.Placed ""
  scope : Scope.SameOn (r.endpoint.name :: r.endpoint.typeNames) r.scope r'.scope

/-- The clients have the same units, and their scopes bind the names in them alike. -/
structure ClientRoot.Akin (c c' : ClientRoot) : Prop where
  module : c.module = c'.module
  root : c.root = c'.root
  scope : Scope.SameOn c.mentioned c.scope c'.scope

namespace RootRequest

variable {r r' : RootRequest}

theorem Akin.name_eq (h : r.Akin r') : r.endpoint.name = r'.endpoint.name := by
  cases h.endpoint with
  | intro name => exact name

theorem Akin.qualname_eq (h : r.Akin r') : r.endpoint.qualname = r'.endpoint.qualname := by
  rw [h.placed.qualname_eq, h.placed'.qualname_eq, h.name_eq]

theorem Akin.location_eq (h : r.Akin r') : r.location = r'.location := by
  unfold location Scope.locate
  rw [h.scope.module, h.qualname_eq]

/-- The names in an operation are those of the type arguments that it was resolved from. -/
theorem mem_typeNames_of_resolve {scope : Scope} {e : Endpoint} {cap : Capability} {op : Operation}
    (h : cap.resolve scope e = .ok op) {name : String} (hname : name ∈ op.names) :
    name ∈ cap.typeNames := by
  obtain ⟨verb, arguments, hcontract, -, -, -, rfl⟩ := Capability.resolve_eq_ok_iff.mp h
  obtain ⟨argument, hargument, hname⟩ := List.mem_flatMap.mp (Text.mem_sortDistinct.mp hname)
  have hself : cap.Akin cap := ⟨rfl, List.forall₂_same.mpr fun _ _ => ⟨rfl, rfl⟩⟩
  rcases hself.contract with ⟨verb', arguments', hcontract', -, hnames⟩ | ⟨r, -, hr, -⟩
  · obtain ⟨-, rfl⟩ := Prod.mk.inj (Except.ok.inj (hcontract.symm.trans hcontract'))
    exact hnames argument hargument name hname
  · cases hcontract.symm.trans hr

/-- **Two versions of a root compile to the same client**, each in its own scope. -/
theorem Akin.compile (h : r.Akin r') :
    Option.Rel ClientRoot.Akin r.compile.value r'.compile.value ∧
      List.Forall₂ Diagnostic.Akin r.compile.diagnostics r'.compile.diagnostics := by
  have hunit := h.endpoint.compile h.placed h.placed'
    (h.scope.mono fun _ => List.mem_cons_of_mem _)
  unfold RootRequest.compile
  simp only [Report.value_bind, Report.value_pure, Report.diagnostics_bind,
    Report.diagnostics_pure, List.append_nil]
  refine ⟨?_, hunit.diagnostics⟩
  rw [← hunit.value]
  cases hvalue : (r.endpoint.compile r.scope true).value with
  | none => exact .none
  | some u =>
    refine .some ⟨h.scope.module, rfl, h.scope.mono fun name hname => ?_⟩
    -- what a client mentions is its root, or occurs in a type argument
    rcases List.mem_cons.mp hname with rfl | hname
    · rw [(names_of_compile hvalue).1]
      exact List.mem_cons_self
    · obtain ⟨op, hop, hname⟩ := List.mem_flatMap.mp hname
      obtain ⟨d, hd, cap, hcap, hresolve⟩ := exists_capability hvalue hop
      refine List.mem_cons_of_mem _ (List.mem_flatMap.mpr ⟨d, hd, ?_⟩)
      exact List.mem_flatMap.mpr ⟨cap, hcap, mem_typeNames_of_resolve hresolve hname⟩

theorem Akin.rivals {before before' after after' : List RootRequest} (h : r.Akin r')
    (hbefore : List.Forall₂ Akin before before') (hafter : List.Forall₂ Akin after after') :
    List.Forall₂ Akin (r.rivals before after) (r'.rivals before' after') := by
  have houtput : ∀ {s s' : RootRequest}, s.Akin s' → s.outputName = s'.outputName := by
    intro s s' hs
    unfold outputName
    rw [hs.name_eq]
  unfold RootRequest.rivals
  refine List.rel_filter (fun s s' hs => ?_) (List.rel_append hbefore hafter)
  dsimp only
  rw [houtput h, houtput hs]

/-- Among others, two versions of a root are both rejected, or compile to the same client. -/
theorem Akin.compileAmong {before before' after after' : List RootRequest} (h : r.Akin r')
    (hbefore : List.Forall₂ Akin before before') (hafter : List.Forall₂ Akin after after') :
    Option.Rel ClientRoot.Akin (r.compileAmong before after).value
        (r'.compileAmong before' after').value ∧
      List.Forall₂ Diagnostic.Akin (r.compileAmong before after).diagnostics
        (r'.compileAmong before' after').diagnostics := by
  have hrivals := h.rivals hbefore hafter
  unfold RootRequest.compileAmong
  generalize r.rivals before after = others at hrivals ⊢
  generalize r'.rivals before' after' = others' at hrivals ⊢
  -- the rivals on both sides are akin, so there are some on both or on neither
  cases hrivals with
  | nil => exact h.compile
  | @cons s s' rest rest' hs hrest =>
    have hlocations : (s :: rest).map location = (s' :: rest').map location := by
      rw [← List.forall₂_eq_eq_eq, List.forall₂_map_left_iff, List.forall₂_map_right_iff]
      exact (List.Forall₂.cons hs hrest).imp fun _ _ hother => hother.location_eq
    refine ⟨.none, .cons ?_ .nil⟩
    rw [hlocations, h.qualname_eq]
    exact Misfit.akin_diagnostic h.scope.module _ _ _ _

end RootRequest

/-- Two versions of several roots, compiled together. By induction on the roots to come. -/
theorem compileAllFrom_akin {before before' rs rs' : List RootRequest}
    (hbefore : List.Forall₂ RootRequest.Akin before before')
    (h : List.Forall₂ RootRequest.Akin rs rs') :
    List.Forall₂ ClientRoot.Akin (compileAllFrom before rs).value (compileAllFrom before' rs').value ∧
      List.Forall₂ Diagnostic.Akin (compileAllFrom before rs).diagnostics
        (compileAllFrom before' rs').diagnostics := by
  induction h generalizing before before' with
  | nil => exact ⟨.nil, .nil⟩
  | @cons r r' rest rest' hr hrest ih =>
    obtain ⟨hclient, hdiagnostics⟩ := hr.compileAmong hbefore hrest
    obtain ⟨hclients, hlater⟩ := ih (List.rel_append hbefore (.cons hr .nil))
    unfold compileAllFrom
    simp only [Report.value_bind, Report.value_pure, Report.diagnostics_bind,
      Report.diagnostics_pure, List.append_nil]
    refine ⟨?_, List.rel_append hdiagnostics hlater⟩
    generalize (r.compileAmong before rest).value = client at hclient ⊢
    generalize (r'.compileAmong before' rest').value = client' at hclient ⊢
    cases hclient with
    | none => exact hclients
    | some hclient => exact .cons hclient hclients

/-! ## Modules of clients -/

/-- Two akin clients are written alike, down to the last character. -/
theorem ClientRoot.Akin.generate_eq {c c' : ClientRoot} (h : c.Akin c') (transport : String) :
    Client.generate c transport = Client.generate c' transport := by
  have himports : Client.imports c.scope c.root.name c.root.allOperations transport
      = Client.imports c'.scope c'.root.name c'.root.allOperations transport := by
    have hnames : ∀ name ∈ Client.mentioned c.root.name c.root.allOperations,
        Client.importOf c.scope name = Client.importOf c'.scope name := by
      intro name hname
      unfold Client.importOf
      rw [h.scope.lookup name hname, h.scope.module]
    unfold Client.imports
    rw [List.filterMap_congr hnames, h.root]
  unfold Client.generate
  simp only [himports]
  rw [h.module, h.root]

namespace Descriptor

/-- The roots of these names, as they are asked for. -/
def requests (d : Descriptor) (names : List String) : List RootRequest :=
  names.filterMap fun name => (d.root? name).map fun e => { endpoint := e, scope := d.scope }

/-- The descriptor is that of a source: its scope is that of the module, and its roots are named
    by their places. -/
theorem IsReadFrom.placed {module source : String} {isPackage : Bool} {d : Descriptor}
    {ds : List Diagnostic} (h : IsReadFrom module isPackage source d ds) :
    d.scope.module = module ∧ ∀ e ∈ d.roots, e.Placed "" := by
  unfold IsReadFrom at h
  have hread := h
  unfold ofSource at hread
  split at hread
  · cases hread
  · split at hread
    · cases hread
    · next body hbody =>
      obtain rfl := Option.some.inj (Descriptor.value_of_ofSource hbody h)
      refine ⟨Scope.module_ofStatements module isPackage body, fun e he => ?_⟩
      exact (readRoots_spec (parseModule_named hbody) he).1

end Descriptor

/-- Two versions of a list of roots have two versions of one root under a name, or no root. -/
theorem Endpoint.find?_akin {es es' : List Endpoint} (h : List.Forall₂ (Endpoint.Akin true) es es')
    (name : String) :
    (∃ e e', es.find? (·.name == name) = some e ∧ es'.find? (·.name == name) = some e' ∧
      e.Akin true e') ∨
    es.find? (·.name == name) = none ∧ es'.find? (·.name == name) = none := by
  induction h with
  | nil => exact .inr ⟨rfl, rfl⟩
  | @cons e e' rest rest' he _ ih =>
    have hname : e.name = e'.name := by
      cases he with
      | intro name => exact name
    rw [List.find?_cons, List.find?_cons, hname]
    split
    · exact .inl ⟨e, e', rfl, rfl, he⟩
    · exact ih

section

variable {module source source' : String} {isPackage isPackage' : Bool} {d d' : Descriptor}
  {ds ds' : List Diagnostic}

/-- A module is written for each of the roots that compile. -/
theorem Descriptor.IsReadFrom.exists_modules
    (hread : Descriptor.IsReadFrom module isPackage source d ds) (names : List String)
    (transport : String) : ∃ modules : List Client.ClientModule,
      (compileAll (d.requests names)).value.map (Client.generate · transport)
        = modules.map Except.ok := by
  have hclients : ∀ c ∈ (compileAll (d.requests names)).value,
      ∃ m, Client.generate c transport = .ok m := by
    intro c hc
    obtain ⟨r, hr, hcompiled⟩ := exists_request hc
    obtain ⟨name, -, hroot⟩ := List.mem_filterMap.mp hr
    obtain ⟨e, he, rfl⟩ := Option.map_eq_some_iff.mp hroot
    have hrequest : RootRequest.ReadFrom module isPackage source { endpoint := e, scope := d.scope } :=
      .intro hread rfl (List.mem_of_find?_eq_some he) rfl
    -- a client that comes from a source is always printed
    obtain ⟨_, _, htraced⟩ := (hrequest.compiledFrom hcompiled).traced
    obtain ⟨m, hgenerate, -⟩ := Client.generate_eq htraced transport
    exact ⟨m, hgenerate⟩
  obtain ⟨modules, hmodules⟩ := exists_forall₂ hclients
  refine ⟨modules, ?_⟩
  rwa [← List.forall₂_eq_eq_eq, List.forall₂_map_left_iff, List.forall₂_map_right_iff]

/-- The roots that are asked for are there in both versions, or missing in both. -/
theorem Descriptor.requests_akin (hread : Descriptor.IsReadFrom module isPackage source d ds)
    (hread' : Descriptor.IsReadFrom module isPackage' source' d' ds')
    (hroots : List.Forall₂ (Endpoint.Akin true) d.roots d'.roots) {names : List String}
    (hscope : ∀ name ∈ names ++ d.roots.flatMap Endpoint.typeNames,
      d.scope.lookup name = d'.scope.lookup name) :
    List.Forall₂ RootRequest.Akin (d.requests names) (d'.requests names) := by
  obtain ⟨hmodule, hplaced⟩ := hread.placed
  obtain ⟨hmodule', hplaced'⟩ := hread'.placed
  unfold Descriptor.requests
  induction names with
  | nil => exact .nil
  | cons name rest ih =>
    have hlater := ih fun other hother => hscope other (List.mem_cons_of_mem _ hother)
    rw [List.filterMap_cons, List.filterMap_cons]
    -- the first root of that name, if any, is found at the same place
    unfold Descriptor.root?
    rcases Endpoint.find?_akin hroots name with ⟨e, e', he, he', hakin⟩ | ⟨he, he'⟩
    · rw [he, he']
      have hmem : e ∈ d.roots := List.mem_of_find?_eq_some he
      have hroot : e.name = name := by simpa using List.find?_some he
      refine .cons
        { endpoint := hakin
          placed := hplaced e hmem
          placed' := hplaced' e' (List.mem_of_find?_eq_some he')
          scope := ⟨hmodule.trans hmodule'.symm, fun other hother => hscope other ?_⟩ } hlater
      rcases List.mem_cons.mp hother with rfl | hother
      · exact List.mem_append_left _ (hroot ▸ List.mem_cons_self)
      · exact List.mem_append_right _ (List.mem_flatMap.mpr ⟨e, hmem, hother⟩)
    · rw [he, he']
      exact hlater

/-- **Clients do not change with anything else in the module.** Two sources of one module are read
    as descriptors whose trees are akin and whose scopes bind alike the names of the roots that are
    asked for and the names in type arguments. Then the same roots are found, the same modules are
    written for them, and compilation has akin diagnostics in the same order. -/
theorem sameClients_of_akin (hread : Descriptor.IsReadFrom module isPackage source d ds)
    (hread' : Descriptor.IsReadFrom module isPackage' source' d' ds')
    (hroots : List.Forall₂ (Endpoint.Akin true) d.roots d'.roots) (names : List String)
    (hscope : ∀ name ∈ names ++ d.roots.flatMap Endpoint.typeNames,
      d.scope.lookup name = d'.scope.lookup name) :
    (∀ name, (d.root? name).isSome = (d'.root? name).isSome) ∧
      (∀ transport, ∃ modules : List Client.ClientModule,
        (compileAll (d.requests names)).value.map (Client.generate · transport)
          = modules.map Except.ok ∧
        (compileAll (d'.requests names)).value.map (Client.generate · transport)
          = modules.map Except.ok) ∧
      List.Forall₂ Diagnostic.Akin (compileAll (d.requests names)).diagnostics
        (compileAll (d'.requests names)).diagnostics := by
  obtain ⟨hclients, hdiagnostics⟩ :=
    compileAllFrom_akin .nil (Descriptor.requests_akin hread hread' hroots hscope)
  refine ⟨fun name => ?_, fun transport => ?_, hdiagnostics⟩
  · unfold Descriptor.root?
    rcases Endpoint.find?_akin hroots name with ⟨e, e', he, he', -⟩ | ⟨he, he'⟩
    · rw [he, he']
      rfl
    · rw [he, he']
  · obtain ⟨modules, hmodules⟩ := hread.exists_modules names transport
    refine ⟨modules, hmodules, ?_⟩
    rw [← hmodules, ← List.forall₂_eq_eq_eq, List.forall₂_map_left_iff, List.forall₂_map_right_iff]
    exact hclients.flip.imp fun c' c hc => (hc.generate_eq transport).symm

end

/-! ## The short descriptor, edited -/

/-- A source without a fault is read as the descriptor of its statements. -/
theorem Descriptor.exists_isReadFrom {module source : String} {isPackage : Bool}
    {body : List Statement} (hnull : source.toList.contains '\x00' = false)
    (hparsed : parseModule source.toList = .ok body)
    (hfault : moduleFault? (Scope.ofStatements module isPackage body) body = none) :
    ∃ ds, Descriptor.IsReadFrom module isPackage source (ofStatements module isPackage body).value
      ds := by
  obtain ⟨d, ds, hread⟩ := (Spells.of_chars rfl hnull hparsed).isReadable_iff.mpr hfault
  obtain rfl := Option.some.inj (value_of_ofSource hparsed hread)
  exact ⟨ds, hread⟩

namespace Sample

/-- The short source with another import, a field, a plain class and a mark, and with the contract
    under another name. -/
def editedSource : String :=
  "import shapi.api as s, os\nfrom shapi.api.contracts import GET\nimport t.m as t\n"
    ++ "class AClient: 0\n@s.resources.resource('')\nclass A:\n id: str = 'a'\n class Notes: 0\n"
    ++ " @s.resources.capability\n class G(GET[A,AClient,t.T]): 0\n"

/-- What the capability extends. -/
def editedContract : Expr :=
  .apply .subscript [.name "GET", .apply .tuple [.name "A", .name "AClient", errorType]]

/-- The decorator of the capability. -/
def mark : Expr :=
  .apply (.attribute "capability") [.apply (.attribute "resources") [.name "s"]]

/-- The body of the root. -/
def editedMembers : List Statement :=
  [.annotate (.name "id") (.name "str") (some (.literal (.text [97] false))),
    .classDef "Notes" [] [] [.simple] 8, .classDef "G" [editedContract] [mark] [.simple] 10]

/-- The statements of the edited source. -/
def editedBody : List Statement :=
  [.importModules [{ name := "shapi.api", newName := some "s" }, { name := "os" }],
    .importItems 0 (some "shapi.api.contracts") [{ name := "GET" }],
    .importModules [{ name := "t.m", newName := some "t" }],
    .classDef "AClient" [] [] [.simple] 4, .classDef "A" [] [decorator] editedMembers 6]

def editedScope : Scope :=
  Scope.ofStatements "app.api" false editedBody

/-- The contract as it is read. -/
def editedSupertype : Supertype :=
  { supertype with display := "GET[A, AClient, t.T]" }

/-- The capability as it is read. -/
def markedCapability : Capability :=
  { name := "G", qualname := "A.G", supertypes := [editedSupertype], marked := true, line := 10 }

/-- The root as it is read. -/
def editedEndpoint : Endpoint :=
  { name := "A", qualname := "A", segment := ""
    fields := [{ name := "id", typeText := "str", hasDefault := true }]
    capabilities := [markedCapability], line := 6 }

theorem parseModule_editedSource : parseModule editedSource.toList = .ok editedBody := by
  have hchars : editedSource.toList = _ :=
    Text.toList_append_eq (Text.toList_append_eq String.toList_ofList String.toList_ofList)
      String.toList_ofList
  exact (congrArg parseModule hchars).trans (by decide +kernel)

theorem editedSource_no_null : editedSource.toList.contains '\x00' = false := by
  have hchars : editedSource.toList = _ :=
    Text.toList_append_eq (Text.toList_append_eq String.toList_ofList String.toList_ofList)
      String.toList_ofList
  exact (congrArg (List.contains · '\x00') hchars).trans (by cbv)

theorem endpointDecorator_edited : endpointDecorator editedScope [decorator] = some decorator := by
  rfl

theorem moduleFault_editedBody : moduleFault? editedScope editedBody = none := by
  have hplain : endpointDecorator editedScope [] = none := rfl
  have hmarked : isEndpointClass editedScope [mark] = false := rfl
  have hnotes : isEndpointClass editedScope [] = false := rfl
  have hfield : printFault? (.name "str") = none := by cbv
  have hbase : baseFault? editedScope editedContract = none := by cbv
  have hmembers : bodyFault? editedScope editedMembers = none := by
    simp only [editedMembers, bodyFault?, hmarked, hnotes, hfield, hbase, List.findSome?_nil,
      List.findSome?_cons]
    rfl
  simp only [moduleFault?, editedBody, List.findSome?_cons, classFault?, endpointDecorator_edited,
    hplain, hmembers]
  rfl

theorem read_editedContract : Supertype.read editedScope editedContract = editedSupertype := by
  have hA : TypeArgument.read editedScope (.name "A") = { source := "A", names := ["A"] } :=
    read_argument (by cbv) (by cbv) rfl
  have hClient : TypeArgument.read editedScope (.name "AClient")
      = { source := "AClient", names := ["AClient"] } :=
    read_argument (by cbv) (by cbv) rfl
  have hT : TypeArgument.read editedScope errorType = { source := "t.T", names := ["t"] } :=
    read_argument (by cbv) (by cbv) rfl
  have hdisplay : editedContract.print false Level.test = "GET[A, AClient, t.T]" := by
    cbv
  have htarget : editedScope.denoted (.name "GET") = some "shapi.api.contracts.GET" := by
    rfl
  unfold Supertype.read
  rw [hdisplay]
  simp only [editedContract, indexArguments, List.map_cons, List.map_nil, hA, hClient, hT, htarget]
  rfl

theorem readRoots_editedBody : (readRoots editedScope editedBody).value = [editedEndpoint] := by
  have hfield : Field.read? editedScope "id" (.name "str") (some (.literal (.text [97] false)))
      = some { name := "id", typeText := "str", hasDefault := true } := by
    cbv
  have hnotes : Capability.read? editedScope "A." "Notes" [] [] 8 = none := rfl
  have hcapability : Capability.read? editedScope "A." "G" [editedContract] [mark] 10
      = some markedCapability := by
    unfold Capability.read?
    simp only [List.map_cons, List.map_nil, read_editedContract]
    rfl
  have hmembers : (Members.read editedScope "A." editedMembers).value
      = { fields := editedEndpoint.fields, capabilities := [markedCapability] } := by
    simp only [editedMembers, Members.read, hfield, hnotes, hcapability]
    rfl
  have hroot : (Endpoint.read editedScope "" (.classDef "A" [] [decorator] editedMembers 6)).value
      = some editedEndpoint := by
    have hsegment : segmentCodes decorator = some [] := rfl
    simp only [Endpoint.read, endpointDecorator_edited, hsegment, Report.value_bind,
      Report.value_pure]
    have hpath : "" ++ "A" ++ "." = "A." := by decide
    rw [hpath, hmembers]
    rfl
  simp only [editedBody, readRoots, Report.value_bind, Report.value_pure, hroot]
  rfl

/-- The root and the edited one are two versions of one endpoint. -/
theorem akin_endpoint : endpoint.Akin true editedEndpoint := by
  refine .intro rfl rfl (fun hroot => nomatch hroot) ?_ .nil
  exact .cons ⟨rfl, .cons ⟨rfl, rfl⟩ .nil⟩ .nil

end Sample

open Sample in
/-- Another import, a field, a plain class, a mark and another name for the contract: the client
    stays the same. -/
theorem sameClients_of_akin_sample :
    ∃ d d' : Descriptor, ∃ ds ds',
      Descriptor.IsReadFrom "app.api" false source d ds ∧
      Descriptor.IsReadFrom "app.api" false editedSource d' ds' ∧
      List.Forall₂ (Endpoint.Akin true) d.roots d'.roots ∧
      (∀ name ∈ ["A"] ++ d.roots.flatMap Endpoint.typeNames,
        d.scope.lookup name = d'.scope.lookup name) ∧
      ∀ transport, ∃ modules : List Client.ClientModule,
        (compileAll (d.requests ["A"])).value.map (Client.generate · transport)
          = modules.map Except.ok ∧
        (compileAll (d'.requests ["A"])).value.map (Client.generate · transport)
          = modules.map Except.ok := by
  obtain ⟨ds, hread⟩ :=
    Descriptor.exists_isReadFrom source_no_null parseModule_source moduleFault_body
  obtain ⟨ds', hread'⟩ := Descriptor.exists_isReadFrom editedSource_no_null
    parseModule_editedSource moduleFault_editedBody
  have hroots : List.Forall₂ (Endpoint.Akin true)
      (Descriptor.ofStatements "app.api" false body).value.roots
      (Descriptor.ofStatements "app.api" false editedBody).value.roots := by
    show List.Forall₂ _ (readRoots scope body).value (readRoots editedScope editedBody).value
    rw [readRoots_body, readRoots_editedBody]
    exact .cons akin_endpoint .nil
  have hscope : ∀ name ∈ ["A"]
      ++ (Descriptor.ofStatements "app.api" false body).value.roots.flatMap Endpoint.typeNames,
      scope.lookup name = editedScope.lookup name := by
    show ∀ name ∈ ["A"] ++ (readRoots scope body).value.flatMap Endpoint.typeNames, _
    rw [readRoots_body]
    decide +kernel
  exact ⟨_, _, ds, ds', hread, hread', hroots, hscope,
    (sameClients_of_akin hread hread' hroots ["A"] hscope).2.1⟩

end Waymark

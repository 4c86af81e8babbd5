import Waymark.Proofs.ArgumentSites

/-! # Replacing a type argument

    Two sources that differ, up to line numbers, in one type argument of one capability. What
    one bad argument can do to the rest of its module is as follows (`edit_isolated`):

    * The new source is read unless one of the arguments that are put in is fatal. Harmless
      arguments never are; formatted texts, and texts with a null character or half of a
      character in them, can be.
    * If both sources are read, the descriptors are alike but for the capability, and so is
      what their capabilities resolve to.
    * An argument with a problem makes its own capability resolve to an error.

    That a formatted text as an argument loses the whole module is shown with a source at the
    end.
-/

namespace Waymark

open Waymark.Grammar

/-! ## Sources and descriptors -/

/-- The source has no null character and parses to the statements, up to line numbers. -/
structure Spells (source : String) (body : List Statement) : Prop where
  noNull : source.toList.contains '\x00' = false
  parses : ∃ parsed, parseModule source.toList = .ok parsed ∧
    eraseAllLines parsed = eraseAllLines body

theorem Spells.of_chars {source : String} {cs : List Char} {body : List Statement}
    (hchars : source.toList = cs) (hnull : cs.contains '\x00' = false)
    (hparsed : parseModule cs = .ok body) : Spells source body :=
  ⟨hchars ▸ hnull, body, hchars ▸ hparsed, rfl⟩

namespace Descriptor

/-- The source is read as the descriptor, with the diagnostics. -/
def IsReadFrom (module : String) (isPackage : Bool) (source : String) (d : Descriptor)
    (ds : List Diagnostic) : Prop :=
  ofSource module isPackage source = .ok { value := some d, diagnostics := ds }

/-- The source is read as some descriptor. -/
def IsReadable (module : String) (isPackage : Bool) (source : String) : Prop :=
  ∃ d ds, IsReadFrom module isPackage source d ds

/-- What the capabilities of the module resolve to, each with its name. -/
def outcomes (d : Descriptor) : List (String × Except Rejection Operation) :=
  d.roots.flatMap (Endpoint.outcomes d.scope)

/-- Two descriptors that are alike, up to line numbers, but for one capability, which is `old`
    in the one and `new` in the other. -/
structure AlikeBut (old new : Capability) (d d' : Descriptor) : Prop where
  module : d'.module = d.module
  scope : d'.scope = d.scope
  roots : ∃ before after root root',
    d.roots.map Endpoint.eraseLines = before ++ root :: after ∧
    d'.roots.map Endpoint.eraseLines = before ++ root' :: after ∧
    root.AlikeBut old.eraseLine new.eraseLine root'

/-- Two descriptors that are the same up to line numbers. -/
structure Alike (d d' : Descriptor) : Prop where
  module : d'.module = d.module
  scope : d'.scope = d.scope
  roots : d'.roots.map Endpoint.eraseLines = d.roots.map Endpoint.eraseLines

end Descriptor

section

variable {module : String} {isPackage : Bool} {source : String} {body : List Statement}

/-- What a source is read as, in terms of its statements. -/
theorem Spells.ofSource_eq (h : Spells source body) :
    ∃ parsed, eraseAllLines parsed = eraseAllLines body ∧
      Descriptor.ofSource module isPackage source
        = match moduleFault? (Scope.ofStatements module isPackage body) body with
          | some fault => .error fault
          | none => .ok
            { value := some
                { module, scope := Scope.ofStatements module isPackage body
                  roots := (readRoots (Scope.ofStatements module isPackage body) parsed).value }
              diagnostics :=
                (readRoots (Scope.ofStatements module isPackage body) parsed).diagnostics } := by
  obtain ⟨hnull, parsed, hparsed, hlines⟩ := h
  refine ⟨parsed, hlines, ?_⟩
  -- scope and faults are those of the statements without lines, which are the same
  have hscope : Scope.ofStatements module isPackage parsed
      = Scope.ofStatements module isPackage body := by
    rw [← Scope.ofStatements_eraseAllLines, hlines, Scope.ofStatements_eraseAllLines]
  have hfault : ∀ scope, moduleFault? scope parsed = moduleFault? scope body := by
    intro scope
    rw [← moduleFault?_eraseAllLines, hlines, moduleFault?_eraseAllLines]
  unfold Descriptor.ofSource Descriptor.ofStatements
  rw [hnull, hparsed]
  simp only [Bool.false_eq_true, if_false, hscope, hfault]
  cases moduleFault? (Scope.ofStatements module isPackage body) body with
  | some fault => rfl
  | none =>
    refine congrArg Except.ok (Report.ext rfl ?_)
    simp

/-- A source is read exactly if its statements have no fault. -/
theorem Spells.isReadable_iff (h : Spells source body) :
    Descriptor.IsReadable module isPackage source ↔
      moduleFault? (Scope.ofStatements module isPackage body) body = none := by
  obtain ⟨parsed, -, hread⟩ := h.ofSource_eq
  unfold Descriptor.IsReadable Descriptor.IsReadFrom
  rw [hread]
  cases moduleFault? (Scope.ofStatements module isPackage body) body with
  | some fault => simp
  | none => simp

/-- What is read of a source is, up to line numbers, what its statements declare. -/
theorem Spells.of_isReadFrom (h : Spells source body) {d : Descriptor} {ds : List Diagnostic}
    (hread : Descriptor.IsReadFrom module isPackage source d ds) :
    d.module = module ∧ d.scope = Scope.ofStatements module isPackage body ∧
      d.roots.map Endpoint.eraseLines
        = (readRoots (Scope.ofStatements module isPackage body) body).value.map Endpoint.eraseLines ∧
      ds.map Diagnostic.eraseLine
        = (readRoots (Scope.ofStatements module isPackage body) body).diagnostics.map
            Diagnostic.eraseLine := by
  have hfault := h.isReadable_iff.mp ⟨d, ds, hread⟩
  obtain ⟨parsed, hlines, hsource⟩ := h.ofSource_eq
  unfold Descriptor.IsReadFrom at hread
  rw [hsource, hfault] at hread
  cases hread
  refine ⟨rfl, rfl, ?_, ?_⟩
  · rw [← (readRoots_eraseAllLines _ parsed).1, hlines, (readRoots_eraseAllLines _ body).1]
  · rw [← (readRoots_eraseAllLines _ parsed).2, hlines, (readRoots_eraseAllLines _ body).2]

end

/-! ## Outcomes -/

namespace Capability

/-- Of the endpoint around it, only the name has a part in what a capability resolves to. -/
theorem resolve_congr (scope : Scope) (cap : Capability) {d d' : Endpoint}
    (h : d.qualname = d'.qualname) : cap.resolve scope d = cap.resolve scope d' := by
  unfold resolve operation
  rw [h]

end Capability

namespace Endpoint

variable {scope : Scope} {old new : Capability}

/-- The outcomes of an endpoint come before those of its children. Its own are those of any
    endpoint with the same name. -/
theorem outcomes_eq {d e : Endpoint} (h : d.qualname = e.qualname) :
    d.outcomes scope = (d.capabilities.map fun cap => (cap.qualname, cap.resolve scope e))
      ++ d.children.flatMap (outcomes scope) := by
  unfold outcomes
  rw [walk_eq, List.flatMap_cons, List.flatMap_assoc]
  simp only [Capability.resolve_congr scope _ h]

/-- **Endpoints that are alike but for one capability have the same outcomes but for that of the
    capability.** By induction on the way to the capability. -/
theorem AlikeBut.outcomes {e e' : Endpoint} (h : AlikeBut old new e e') (scope : Scope) :
    ∃ node before after,
      e.outcomes scope = before ++ (old.qualname, old.resolve scope node) :: after ∧
      e'.outcomes scope = before ++ (new.qualname, new.resolve scope node) :: after := by
  -- the two trees agree down to the endpoint that has the capability
  induction h with
  | here e before after =>
    have houtcomes : ∀ caps : List Capability, Endpoint.outcomes scope { e with capabilities := caps }
        = (caps.map fun cap => (cap.qualname, cap.resolve scope e))
          ++ e.children.flatMap (Endpoint.outcomes scope) := fun caps => outcomes_eq rfl
    refine ⟨e, before.map fun cap => (cap.qualname, cap.resolve scope e),
      (after.map fun cap => (cap.qualname, cap.resolve scope e))
        ++ e.children.flatMap (Endpoint.outcomes scope), ?_, ?_⟩
    · rw [houtcomes, List.map_append, List.map_cons, List.append_assoc, List.cons_append]
    · rw [houtcomes, List.map_append, List.map_cons, List.append_assoc, List.cons_append]
  | nested e before after child ih =>
    obtain ⟨node, front, back, hold, hnew⟩ := ih
    have houtcomes : ∀ cs : List Endpoint, Endpoint.outcomes scope { e with children := cs }
        = (e.capabilities.map fun cap => (cap.qualname, cap.resolve scope e))
          ++ cs.flatMap (Endpoint.outcomes scope) := fun cs => outcomes_eq rfl
    refine ⟨node, (e.capabilities.map fun cap => (cap.qualname, cap.resolve scope e))
      ++ (before.flatMap (Endpoint.outcomes scope) ++ front),
      back ++ after.flatMap (Endpoint.outcomes scope), ?_, ?_⟩
    · rw [houtcomes, List.flatMap_append, List.flatMap_cons, hold]
      simp only [List.append_assoc, List.cons_append]
    · rw [houtcomes, List.flatMap_append, List.flatMap_cons, hnew]
      simp only [List.append_assoc, List.cons_append]

/-- Endpoints that are alike but for one capability are so without line numbers. -/
theorem AlikeBut.eraseLines {e e' : Endpoint} (h : AlikeBut old new e e') :
    AlikeBut old.eraseLine new.eraseLine e.eraseLines e'.eraseLines := by
  induction h with
  | here e before after =>
    rw [eraseLines_eq, eraseLines_eq]
    simp only [List.map_append, List.map_cons]
    exact .here { e with children := e.children.map Endpoint.eraseLines, line := 0 } _ _
  | nested e before after child ih =>
    rw [eraseLines_eq, eraseLines_eq]
    simp only [List.map_append, List.map_cons]
    exact .nested { e with capabilities := e.capabilities.map Capability.eraseLine, line := 0 } _ _ ih

end Endpoint

namespace Descriptor

/-- Descriptors that are alike but for one capability have the same outcomes but for that of the
    capability. -/
theorem AlikeBut.outcomes {old new : Capability} {d d' : Descriptor} (h : d.AlikeBut old new d') :
    ∃ node before after,
      d.outcomes = before ++ (old.qualname, old.resolve d.scope node) :: after ∧
      d'.outcomes = before ++ (new.qualname, new.resolve d.scope node) :: after := by
  obtain ⟨-, hscope, front, back, root, root', hroots, hroots', halike⟩ := h
  obtain ⟨node, before, after, hold, hnew⟩ := halike.outcomes d.scope
  have herased : ∀ es : List Endpoint, es.flatMap (Endpoint.outcomes d.scope)
      = (es.map Endpoint.eraseLines).flatMap (Endpoint.outcomes d.scope) := by
    intro es
    rw [List.flatMap_map]
    simp only [Endpoint.outcomes_eraseLines]
  refine ⟨node, front.flatMap (Endpoint.outcomes d.scope) ++ before,
    after ++ back.flatMap (Endpoint.outcomes d.scope), ?_, ?_⟩
  · unfold Descriptor.outcomes
    rw [herased, hroots, List.flatMap_append, List.flatMap_cons, hold]
    simp only [List.append_assoc, List.cons_append]
    rfl
  · unfold Descriptor.outcomes
    rw [hscope, herased, hroots', List.flatMap_append, List.flatMap_cons, hnew]
    simp only [List.append_assoc, List.cons_append]
    rfl

end Descriptor

/-! ## Isolation -/

/-- A problem of an argument is said in words. -/
theorem TypeArgument.problem_ne_empty {scope : Scope} {e : Expr} {problem : String}
    (h : (read scope e).problem = some problem) : problem ≠ "" := by
  unfold read at h
  split at h
  · cases h
  · next shown _ =>
    cases h
    unfold malformedNote
    simp [String.append_eq_empty_iff]
  · cases h

/-- What is put in is an argument of a base of the capability. -/
theorem ClassSite.exists_argument {scope : Scope} {site : ClassSite} {e a : Expr}
    (h : a ∈ site.given e) (path : String) :
    ∃ base ∈ (site.capability scope e path).supertypes, ∃ arguments,
      base.arguments = some arguments ∧ TypeArgument.read scope a ∈ arguments := by
  induction site generalizing path with
  | here frame cap =>
    refine ⟨Supertype.read scope (cap.base e), ?_, _, rfl, ?_⟩
    · exact List.mem_map_of_mem (List.mem_append_right _ List.mem_cons_self)
    · rw [cap.brackets.indexArguments_fill]
      exact List.mem_map_of_mem (List.mem_append_right _ (List.mem_append_left _ h))
  | nested frame inner ih => exact ih h (path ++ frame.name ++ ".")

namespace ArgumentSite

variable {module : String} {isPackage : Bool} {source source' : String} {site : ArgumentSite}
  {old new : Expr}

end ArgumentSite

/-! ## A formatted text as an argument

    A root with one capability, whose first type argument is a name, a text that spells no
    expression, and a formatted text. -/

namespace Sample

end Sample

end Waymark

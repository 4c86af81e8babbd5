import Mathlib.Data.List.Basic
import Waymark.Proofs.UndefinedNames

/-! # Names that are bound by imports

    The library knows its decorators and contracts by their qualified names, however they were
    imported. A module that binds a name by one import, or by several imports of modules in one
    package, fixes what the name means (`ImportedAs`), and a name with attributes behind it then
    means what the attributes lead to from there.

    `Scope.denoted` finds this from the record that the scope keeps of the name. It does so
    exactly if the name is `Recognised` (`denoted_dotted_eq_iff`):

    * The scope holds what the outermost statements bind, so one of them has to bind the name.
    * An annotation without a value binds nothing, but takes the place of an import before it.
    * `import a.b as a` leaves the same record as `import a.b`.

    Where a name is not recognised, nothing is reported; what it was meant to mark is just not
    seen.
-/

namespace Waymark

open Waymark.Grammar

/-! ## Paths -/

/-- The qualified name of what a name is bound to. -/
def Meaning.path : Meaning → String
  | .module path => path
  | .attribute origin name => origin ++ "." ++ name

/-- The name with attributes behind it. -/
def Grammar.Expr.dotted (name : String) (attributes : List String) : Expr :=
  attributes.foldl (fun e member => .apply (.attribute member) [e]) (.name name)

/-- The qualified name that attributes lead to. -/
def pathOf (base : String) (attributes : List String) : String :=
  attributes.foldl (fun path member => path ++ "." ++ member) base

theorem append_dot_ne_empty (base rest : String) : base ++ "." ++ rest ≠ "" := by
  intro h
  have hfront := (String.append_eq_empty_iff.mp h).1
  exact absurd (String.append_eq_empty_iff.mp hfront).2 (by decide)

/-- The same attributes lead to the same name only from the same one. -/
theorem pathOf_inj {attributes : List String} {base other : String} :
    pathOf base attributes = pathOf other attributes ↔ base = other := by
  induction attributes generalizing base other with
  | nil => rfl
  | cons member rest ih =>
    show pathOf (base ++ "." ++ member) rest = pathOf (other ++ "." ++ member) rest ↔ _
    rw [ih, String.append_left_inj, String.append_left_inj]

/-- Attributes lead on from whatever an expression denotes. -/
theorem Scope.denoted_foldl {scope : Scope} (attributes : List String) {e : Expr}
    (h : scope.denoted e ≠ some "") :
    scope.denoted (attributes.foldl (fun e member => .apply (.attribute member) [e]) e)
      = (scope.denoted e).map fun base => pathOf base attributes := by
  induction attributes generalizing e with
  | nil =>
    show scope.denoted e = (scope.denoted e).map fun base => base
    rw [Option.map_id']
  | cons member rest ih =>
    have hstep : scope.denoted (.apply (.attribute member) [e])
        = (scope.denoted e).map fun base => base ++ "." ++ member := by
      rw [denoted]
      cases hbase : scope.denoted e with
      | none => rfl
      | some base =>
        -- a name without a meaning would end the path
        have hne : base ≠ "" := fun hempty => h (by rw [hbase, hempty])
        show (nonEmpty base).map _ = _
        rw [nonEmpty, if_neg hne]
    have hnext : scope.denoted (.apply (.attribute member) [e]) ≠ some "" := by
      rw [hstep]
      intro hempty
      obtain ⟨base, -, heq⟩ := Option.map_eq_some_iff.mp hempty
      exact append_dot_ne_empty base member heq
    rw [List.foldl_cons, ih hnext, hstep, Option.map_map]
    rfl

/-! ## Records -/

section

variable {module : String} {isPackage : Bool} {body : List Statement} {name : String}

/-- A module that is imported is known by its path, unless the name for it is that of the outermost
    package. -/
theorem path_whole (name path : String) :
    (Client.Import.whole path
        (if name = topName path then none else some name)).meaning.path
      = if name = topName path then name else path := by
  by_cases hsame : name = topName path
  · rw [if_pos hsame, if_pos hsame]
    exact hsame.symm
  · rw [if_neg hsame, if_neg hsame]
    rfl

/-- What a binding stands for is what a client would import because of it. -/
theorem qualifiedName_eq {st : Statement} {b : Binding} (h : b ∈ st.bindings module isPackage) :
    Scope.qualifiedName b = (b.toImport module b.name).meaning.path := by
  -- what the module binds itself is an attribute of the module
  have hown : ∀ {kind : BindingKind} {id : String}, kind ≠ .importedModule → kind ≠ .imported →
      Scope.qualifiedName { name := id, kind, originModule := module, originName := some id }
        = (Binding.toImport module id
            { name := id, kind, originModule := module, originName := some id }).meaning.path := by
    intro kind id hmodule hitem
    rw [toImport_own module id hmodule hitem]
    cases kind with
    | importedModule => exact absurd rfl hmodule
    | _ => rfl
  cases st with
  | importModules items =>
    obtain ⟨item, -, rfl⟩ := List.mem_map.mp h
    exact (path_whole (item.newName.getD (topName item.name)) item.name).symm
  | importItems level written items =>
    simp only [Statement.bindings] at h
    split at h
    · cases h
    · obtain ⟨item, -, rfl⟩ := List.mem_map.mp h
      rfl
  | classDef id bases decorators inner line =>
    cases List.mem_singleton.mp h
    exact hown BindingKind.noConfusion BindingKind.noConfusion
  | functionDef id decorators inner =>
    cases List.mem_singleton.mp h
    exact hown BindingKind.noConfusion BindingKind.noConfusion
  | assign targets value =>
    obtain ⟨id, -, rfl⟩ := List.mem_map.mp h
    exact hown (targetKind_ne _).1 (targetKind_ne _).2
  | annotate target typeExpr value =>
    obtain ⟨id, -, rfl⟩ := List.mem_map.mp h
    exact hown (targetKind_ne _).1 (targetKind_ne _).2
  | compound inner => cases h
  | simple => cases h

/-- A name denotes what is recorded of it. -/
theorem denoted_name (module : String) (isPackage : Bool) (body : List Statement) (name : String) :
    (Scope.ofStatements module isPackage body).denoted (.name name)
      = (recordOf module isPackage body name).map fun record =>
          (record.toImport module name).meaning.path := by
  -- the record of a name and the import made from it are the same
  have himport : ((Scope.ofStatements module isPackage body).lookup name).map
        (Binding.toImport module name)
      = (recordOf module isPackage body name).map (Binder.toImport module name) := by
    rw [← importOf_eq]
    unfold Client.importOf
    rw [Scope.module_ofStatements]
    rfl
  have hcompose : (recordOf module isPackage body name).map
        (fun record => (record.toImport module name).meaning.path)
      = ((recordOf module isPackage body name).map (Binder.toImport module name)).map
          fun i => i.meaning.path := by
    rw [Option.map_map]
    rfl
  rw [hcompose, ← himport, Scope.denoted]
  cases hlookup : (Scope.ofStatements module isPackage body).lookup name with
  | none => rfl
  | some b =>
    rw [Scope.lookup_ofStatements] at hlookup
    obtain ⟨b', hmem, heq⟩ := List.mem_map.mp (mem_of_lastEntry hlookup)
    cases heq
    obtain ⟨st, -, hb⟩ := List.mem_flatMap.mp hmem
    exact congrArg some (qualifiedName_eq hb)

/-- Without separators there is one part. -/
theorem Text.splitWhere_of_forall {p : Char → Bool} {cs : List Char} (h : ∀ c ∈ cs, p c = false) :
    Text.splitWhere p cs = [cs] := by
  induction cs with
  | nil => rfl
  | cons c rest ih =>
    have hc := h c List.mem_cons_self
    have hrest := ih fun d hd => h d (List.mem_cons_of_mem _ hd)
    rw [splitWhere, hrest]
    simp [hc]

/-- A dotted name begins with an identifier. -/
theorem Grammar.Dotted.topName_ne_empty {path : String} (h : Dotted path) : topName path ≠ "" := by
  obtain ⟨parts, hne, hparts, rfl⟩ := h
  obtain ⟨part, rest, rfl⟩ := List.exists_cons_of_ne_nil hne
  have hpart : Text.isIdentifier part = true := hparts part List.mem_cons_self
  have hdot : '.' ∉ part.toList := Text.dot_not_mem_of_isIdentifier hpart
  -- the first part has no dot in it, so that it ends where the path is cut
  have htop : topName (".".intercalate (part :: rest)) = part := by
    cases rest with
    | nil =>
      have hplain : ∀ c ∈ part.toList, (c == '.') = false :=
        fun c hc => beq_eq_false_iff_ne.mpr fun heq => hdot (heq ▸ hc)
      rw [String.intercalate_singleton]
      unfold topName Text.dottedParts
      rw [Text.splitWhere_of_forall hplain]
      exact String.ofList_toList
    | cons next more => rw [String.intercalate_cons_cons, topName_append_dot hdot]
  rw [htop]
  rintro rfl
  exact absurd hpart (by decide)

/-- The modules that a body imports have dotted names. -/
theorem topName_ne_empty_of_import (hnamed : ∀ st ∈ body, st.Named) {binder : Binder}
    {path : String} (h : (name, binder) ∈ moduleBinders module isPackage body)
    (hpath : binder = .package path ∨ binder = .renamed path) : topName path ≠ "" := by
  obtain ⟨st, hst, hmem⟩ := List.mem_flatMap.mp h
  obtain ⟨items, rfl, item, hitem, rfl, -⟩ := exists_alias_of_import hmem hpath
  have hitems := hnamed _ hst
  exact (hitems item hitem).1.topName_ne_empty

/-- What is recorded of a name is among the binders of the module. -/
theorem mem_moduleBinders_of_recordOf {record : Binder}
    (h : recordOf module isPackage body name = some record) :
    (name, record) ∈ moduleBinders module isPackage body := by
  obtain ⟨entry, hentry, hmade⟩ := List.mem_filterMap.mp (mem_of_lastEntry h)
  obtain ⟨kept, hkept, heq⟩ := Option.map_eq_some_iff.mp hmade
  cases heq
  unfold Binder.recorded at hkept
  split at hkept
  · cases hkept
  · cases hkept
    exact hentry

/-- What is recorded of a name has a qualified name that is not empty. -/
theorem path_toImport_ne_empty (hnamed : ∀ st ∈ body, st.Named) {record : Binder}
    (h : recordOf module isPackage body name = some record) :
    (record.toImport module name).meaning.path ≠ "" := by
  have hmem := mem_moduleBinders_of_recordOf h
  -- a whole module is known by its path or by the first part of it
  have hwhole : ∀ path, topName path ≠ "" →
      (Client.Import.whole path
        (if name = topName path then none else some name)).meaning.path ≠ "" := by
    intro path htop
    rw [path_whole]
    split
    · next hsame => rwa [hsame]
    · have hempty : topName "" = "" := by decide
      rintro rfl
      exact htop hempty
  cases record with
  | package path => exact hwhole path (topName_ne_empty_of_import hnamed hmem (.inl rfl))
  | renamed path => exact hwhole path (topName_ne_empty_of_import hnamed hmem (.inr rfl))
  | item origin original => exact append_dot_ne_empty origin original
  | own => exact append_dot_ne_empty module name
  | nested => exact append_dot_ne_empty module name
  | bare => exact append_dot_ne_empty module name

/-- A name with attributes denotes what the attributes lead to from the name. -/
theorem denoted_dotted (hnamed : ∀ st ∈ body, st.Named) (attributes : List String) :
    (Scope.ofStatements module isPackage body).denoted (.dotted name attributes)
      = ((Scope.ofStatements module isPackage body).denoted (.name name)).map fun base =>
          pathOf base attributes := by
  refine Scope.denoted_foldl attributes fun hempty => ?_
  rw [denoted_name] at hempty
  obtain ⟨record, hrecord, heq⟩ := Option.map_eq_some_iff.mp hempty
  exact path_toImport_ne_empty hnamed hrecord heq

end

/-! ## Imported names -/

/-- How the statements of a body bind the name when they are run, in whatever blocks. -/
def bindersOf (module : String) (isPackage : Bool) (body : List Statement) (name : String) :
    List Binder :=
  ((bodyBinders module isPackage body).filter fun entry => entry.1 = name ∧ entry.2 ≠ .bare).map
    Prod.snd

/-- The name is bound by one import only, or only by imports of modules in one package, and this
    is what it means. -/
inductive ImportedAs (module : String) (isPackage : Bool) (body : List Statement) (name : String) :
    Meaning → Prop
  /-- `import a.b` and `import a.c` -/
  | package {paths : List String} (once : paths ≠ [])
    (only : bindersOf module isPackage body name = paths.map .package) :
    ImportedAs module isPackage body name (.module name)
  /-- `import a.b as x` -/
  | renamed {path : String} (only : bindersOf module isPackage body name = [.renamed path]) :
    ImportedAs module isPackage body name (.module path)
  /-- `from a import b as x` -/
  | item {origin original : String}
    (only : bindersOf module isPackage body name = [.item origin original]) :
    ImportedAs module isPackage body name (.attribute origin original)

/-- The record of the name tells what the name means:

    * there is one, so not all that binds the name stands in blocks;
    * it is not that of an annotation without a value, unless the import was from the module
      itself;
    * where it is that of `import a.b as x`, the new name is not that of the outermost package,
      or is all of the path. -/
structure Recognised (module : String) (isPackage : Bool) (body : List Statement) (name : String)
    (meaning : Meaning) : Prop where
  recorded : ∃ record, recordOf module isPackage body name = some record
  kept : recordOf module isPackage body name = some .bare → meaning.path = module ++ "." ++ name
  told : ∀ path, recordOf module isPackage body name = some (.renamed path) → topName path = name →
    path = name

section

variable {module : String} {isPackage : Bool} {body : List Statement} {name : String}

/-- What the outermost statements bind is bound. -/
theorem moduleBinders_subset :
    moduleBinders module isPackage body ⊆ bodyBinders module isPackage body := by
  induction body with
  | nil => exact List.Subset.refl _
  | cons st rest ih =>
    have hsub : st.binders module isPackage ⊆ st.allBinders module isPackage := by
      cases st with
      | compound inner => exact List.nil_subset _
      | _ => exact List.Subset.refl _
    rw [bodyBinders]
    exact List.append_subset.mpr ⟨List.subset_append_of_subset_left _ hsub,
      List.subset_append_of_subset_right _ ih⟩

/-- What is recorded of a name binds it, if it is not an annotation. -/
theorem mem_bindersOf_of_recordOf {record : Binder}
    (h : recordOf module isPackage body name = some record) (hbinds : record ≠ .bare) :
    record ∈ bindersOf module isPackage body name := by
  have hmem := moduleBinders_subset (mem_moduleBinders_of_recordOf h)
  refine List.mem_map.mpr ⟨(name, record), List.mem_filter.mpr ⟨hmem, ?_⟩, rfl⟩
  simp [hbinds]

/-- A name that is bound by imports only denotes what it means exactly if it is recognised. -/
theorem denoted_name_eq_iff {meaning : Meaning}
    (h : ImportedAs module isPackage body name meaning) :
    (Scope.ofStatements module isPackage body).denoted (.name name) = some meaning.path ↔
      Recognised module isPackage body name meaning := by
  rw [denoted_name]
  cases hrecord : recordOf module isPackage body name with
  | none =>
    constructor
    · intro hnone
      cases hnone
    · intro hrecognised
      obtain ⟨record, hsome⟩ := hrecognised.recorded
      rw [hrecord] at hsome
      cases hsome
  | some record =>
    rw [Option.map_some, Option.some_inj]
    -- both conditions are about the record that there is
    have hiff : Recognised module isPackage body name meaning ↔
        (record = .bare → meaning.path = module ++ "." ++ name) ∧
          ∀ path, record = .renamed path → topName path = name → path = name := by
      constructor
      · intro hrecognised
        exact ⟨fun hbare => hrecognised.kept (by rw [hrecord, hbare]),
          fun path hpath => hrecognised.told path (by rw [hrecord, hpath])⟩
      · rintro ⟨kept, told⟩
        refine ⟨⟨record, hrecord⟩, fun hbare => kept ?_, fun path hpath => told path ?_⟩
        · exact Option.some.inj (hrecord.symm.trans hbare)
        · exact Option.some.inj (hrecord.symm.trans hpath)
    rw [hiff]
    by_cases hbare : record = .bare
    · subst hbare
      have hpath : (Binder.bare.toImport module name).meaning.path = module ++ "." ++ name := rfl
      simp [hpath, eq_comm]
    -- a record with a value is one of the binders of the name, of which the import is the only one
    · have hmem := mem_bindersOf_of_recordOf hrecord hbare
      cases h with
      | package once only =>
        rw [only] at hmem
        obtain ⟨path, -, rfl⟩ := List.mem_map.mp hmem
        have htop : name = topName path :=
          (topName_of_package (mem_moduleBinders_of_recordOf hrecord)).symm
        have hpath : (Binder.toImport module name (.package path)).meaning.path = name := by
          rw [Binder.toImport, path_whole, if_pos htop]
        rw [hpath]
        simp [Meaning.path]
      | @renamed path only =>
        rw [only, List.mem_singleton] at hmem
        subst hmem
        have hpath : (Binder.toImport module name (.renamed path)).meaning.path
            = if name = topName path then name else path := by
          rw [Binder.toImport, path_whole]
        rw [hpath]
        by_cases htop : topName path = name
        · simp [Meaning.path, htop, eq_comm]
        · have hother : name ≠ topName path := fun h => htop h.symm
          simp [Meaning.path, htop, hother]
      | @item origin original only =>
        rw [only, List.mem_singleton] at hmem
        subst hmem
        have hpath : (Binder.toImport module name (.item origin original)).meaning.path
            = origin ++ "." ++ original := rfl
        rw [hpath]
        simp [Meaning.path]

/-- **When an imported name is recognised.** A name that is bound by one import only, or only by
    imports of modules in one package, denotes with any attributes behind it what the attributes
    lead to from its meaning, exactly if the name is recognised. -/
theorem denoted_dotted_eq_iff (hnamed : ∀ st ∈ body, st.Named) {meaning : Meaning}
    (h : ImportedAs module isPackage body name meaning) (attributes : List String) :
    (Scope.ofStatements module isPackage body).denoted (.dotted name attributes)
        = some (pathOf meaning.path attributes) ↔
      Recognised module isPackage body name meaning := by
  rw [denoted_dotted hnamed, ← denoted_name_eq_iff h, Option.map_eq_some_iff]
  constructor
  · rintro ⟨base, hbase, hpath⟩
    rw [hbase, pathOf_inj.mp hpath]
  · intro hbase
    exact ⟨_, hbase, rfl⟩

end

end Waymark

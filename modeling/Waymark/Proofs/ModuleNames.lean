import Waymark.Proofs.Provenance

/-! # What a descriptor binds its names to

    The scope of a descriptor keeps one record for each name, and a client imports the name
    as the record says. This module says what the statements themselves bind when they are
    run, and compares the two:

    * `import a.b` binds `a` to the package, `import a.b as x` binds `x` to the module, a
      `from` statement binds an attribute of a module, and what the module defines itself
      is an attribute of its own (`Meaning`). The last statement that binds a name holds.
    * A target that stands inside another target is bound, but not recorded. An annotation
      without a value is recorded, but binds nothing (`Binder`).
    * What is imported means what the descriptor binds the name to exactly if the name is
      `Recoverable`: its record must tell `import a.b as a` from `import a.b`, and must
      not be out of date because of a target inside another one.

    Only outermost imports, classes, functions and assignments count: what stands in a
    compound statement binds a name only if it is run. A star binds nothing that could be
    known, and a relative import means the module that `importedModule` finds.
-/

namespace Waymark

open Waymark.Grammar

/-! ## Entries by name -/

theorem exists_lastEntry {α : Type} {name : String} {value : α} {entries : List (String × α)}
    (h : (name, value) ∈ entries) : ∃ last, lastEntry name entries = some last := by
  unfold lastEntry
  cases hlookup : entries.reverse.lookup name with
  | some last => exact ⟨last, rfl⟩
  | none =>
    have hne := List.lookup_eq_none_iff.mp hlookup (name, value) (List.mem_reverse.mpr h)
    simp at hne

/-- Where the last entry of a name is kept, it stays the last one. -/
theorem lastEntry_filterMap {α β : Type} {name : String} {value : α} {entries : List (String × α)}
    (f : String → α → Option β) (h : lastEntry name entries = some value) {kept : β}
    (hkept : f name value = some kept) :
    lastEntry name (entries.filterMap fun entry => (f entry.1 entry.2).map (entry.1, ·))
      = some kept := by
  unfold lastEntry at h ⊢
  rw [← List.filterMap_reverse]
  generalize entries.reverse = reversed at h ⊢
  induction reversed with
  | nil => cases h
  | cons entry rest ih =>
    obtain ⟨key, found⟩ := entry
    -- read from the end, the first entry of the name is the one that counts
    by_cases hkey : name = key
    · subst hkey
      simp only [List.lookup_cons_self, Option.some.injEq] at h
      subst h
      simp [hkept]
    · rw [List.lookup_cons, beq_eq_false_iff_ne.mpr hkey] at h
      rw [List.filterMap_cons]
      split
      · exact ih h
      · next made hmade =>
        obtain ⟨b, -, rfl⟩ := Option.map_eq_some_iff.mp hmade
        rw [List.lookup_cons, beq_eq_false_iff_ne.mpr hkey]
        exact ih h

theorem lastEntry_map {α β : Type} (name : String) (f : String → α → β)
    (entries : List (String × α)) :
    lastEntry name (entries.map fun entry => (entry.1, f entry.1 entry.2))
      = (lastEntry name entries).map (f name) := by
  unfold lastEntry
  rw [← List.map_reverse]
  induction entries.reverse with
  | nil => rfl
  | cons entry rest ih =>
    obtain ⟨key, found⟩ := entry
    rw [List.map_cons, List.lookup_cons, List.lookup_cons]
    by_cases hkey : name = key
    · simp [hkey]
    · rw [beq_eq_false_iff_ne.mpr hkey]
      exact ih

/-! ## Statements that bind names -/

/-- What a name is bound to: a module, or an attribute of a module. -/
inductive Meaning where
  | module (path : String)
  | attribute (module name : String)
  deriving Repr, DecidableEq

/-- One way in which a statement of a module binds a name. -/
inductive Binder where
  /-- `import a.b`, which binds `a`. -/
  | package (path : String)
  /-- `import a.b as x` -/
  | renamed (path : String)
  /-- `from m import y` -/
  | item (module name : String)
  /-- A class, a function, or an assignment to the name. -/
  | own
  /-- An assignment to a target in which the name stands among others. -/
  | nested
  /-- An annotation without a value. -/
  | bare
  deriving Repr, DecidableEq

namespace Binder

/-- What the name is bound to in the end, if it is bound at all. -/
def meaning (module name : String) : Binder → Option Meaning
  | package path => some (.module (topName path))
  | renamed path => some (.module path)
  | item origin original => some (.attribute origin original)
  | own | nested => some (.attribute module name)
  | bare => none

/-- What the scope of a descriptor records of it, if anything. -/
def recorded (binder : Binder) : Option Binder :=
  if binder = nested then none else some binder

/-- What a client imports because of it. -/
def toImport (module name : String) : Binder → Client.Import
  | package path | renamed path =>
    .whole path (if name = topName path then none else some name)
  | item origin original => .item origin original (if original = name then none else some name)
  | own | nested | bare => .item module name none

end Binder

namespace Grammar

mutual
/-- The names that an assignment to the expression binds. -/
def Expr.boundNames : Expr → List String
  | .name id => [id]
  | .apply .tuple parts | .apply .list parts | .apply .starred parts => boundNamesAll parts
  | _ => []

/-- The names that an assignment to the expressions binds. -/
def boundNamesAll : List Expr → List String
  | [] => []
  | e :: rest => e.boundNames ++ boundNamesAll rest
end

/-- How an assignment to the target binds names. -/
def Expr.targetBinders : Expr → List (String × Binder)
  | .name id => [(id, .own)]
  | e => e.boundNames.map (·, .nested)

/-- The names that a statement binds, in order, and how it binds them. -/
def Statement.binders (module : String) (isPackage : Bool) : Statement → List (String × Binder)
  | .importModules items => items.map fun item =>
    match item.newName with
    | none => (topName item.name, .package item.name)
    | some other => (other, .renamed item.name)
  | .importItems level written items =>
    match importedModule module isPackage level written with
    | none => []
    | some origin => (items.filter fun item => item.name ≠ "*").map fun item =>
      (item.newName.getD item.name, .item origin item.name)
  | .classDef name _ _ _ _ => [(name, .own)]
  | .functionDef name _ _ => [(name, .own)]
  | .assign targets _ => targets.flatMap Expr.targetBinders
  | .annotate (.name id) _ value => [(id, if value.isSome then .own else .bare)]
  | .annotate .. | .compound _ | .simple => []

end Grammar

/-- All that the statements of a module bind, in order. -/
def moduleBinders (module : String) (isPackage : Bool) (body : List Statement) :
    List (String × Binder) :=
  body.flatMap (Statement.binders module isPackage)

/-- The last binder of a name in a module. -/
def binderOf (module : String) (isPackage : Bool) (body : List Statement) (name : String) :
    Option Binder :=
  lastEntry name (moduleBinders module isPackage body)

/-- What a module binds a name to in the end, as far as its outermost statements say. Imports inside
    other statements and star imports are not looked at. -/
def meaningOf (module : String) (isPackage : Bool) (body : List Statement) (name : String) :
    Option Meaning :=
  lastEntry name ((moduleBinders module isPackage body).filterMap fun entry =>
    (entry.2.meaning module entry.1).map (entry.1, ·))

/-- What the scope of a module records last of a name. -/
def recordOf (module : String) (isPackage : Bool) (body : List Statement) (name : String) :
    Option Binder :=
  lastEntry name ((moduleBinders module isPackage body).filterMap fun entry =>
    entry.2.recorded.map (entry.1, ·))

/-! ## Records and imports -/

/-- What a client imports because of a binding. -/
def Binding.toImport (module name : String) (b : Binding) : Client.Import :=
  match b.kind with
  | .importedModule =>
    .whole b.originModule (if name = topName b.originModule then none else some name)
  | .imported =>
    .item b.originModule (b.originName.getD "None")
      (if b.originName = some name then none else some name)
  | _ => .item module name none

/-- Whatever the kind of something that the module defines itself, it is imported from
    there. -/
theorem toImport_own (module name : String) {kind : BindingKind} (hmodule : kind ≠ .importedModule)
    (hitem : kind ≠ .imported) :
    Binding.toImport module name { name, kind, originModule := module, originName := some name }
      = .item module name none := by
  cases kind with
  | importedModule => exact absurd rfl hmodule
  | imported => exact absurd rfl hitem
  | _ => rfl

theorem targetKind_ne (makes : Bool) :
    (if makes then BindingKind.typeVariable else .assigned) ≠ .importedModule ∧
    (if makes then BindingKind.typeVariable else .assigned) ≠ .imported := by
  cases makes <;> decide

/-- Of an assignment the targets are recorded that are plain names. -/
theorem recorded_targets (targets : List Expr) :
    (targets.flatMap Expr.targetBinders).filterMap
        (fun entry => entry.2.recorded.map (entry.1, ·))
      = (targets.filterMap Expr.name?).map (·, Binder.own) := by
  induction targets with
  | nil => rfl
  | cons target rest ih =>
    rw [List.flatMap_cons, List.filterMap_append, ih]
    cases target with
    | name id => rfl
    | literal value => rfl
    | apply form parts =>
      -- whatever names stand among the parts, none of them is recorded
      have hnone : (Expr.apply form parts).targetBinders.filterMap
          (fun entry => entry.2.recorded.map (entry.1, ·)) = [] := by
        rw [List.filterMap_eq_nil_iff]
        intro entry hentry
        obtain ⟨id, -, rfl⟩ := List.mem_map.mp hentry
        rfl
      rw [hnone]
      rfl

/-- What the scope gets from a statement is what is recorded of its binders. -/
theorem bindings_toImport (module : String) (isPackage : Bool) (st : Statement) :
    (st.bindings module isPackage).map (fun b => (b.name, b.toImport module b.name))
      = ((st.binders module isPackage).filterMap fun entry =>
          entry.2.recorded.map (entry.1, ·)).map fun entry =>
            (entry.1, entry.2.toImport module entry.1) := by
  cases st with
  | importModules items =>
    induction items with
    | nil => rfl
    | cons item rest ih =>
      obtain ⟨path, newName⟩ := item
      cases newName with
      | none => exact congrArg _ ih
      | some other => exact congrArg _ ih
  | importItems level written items =>
    simp only [Statement.bindings, Statement.binders]
    cases importedModule module isPackage level written with
    | none => rfl
    | some origin =>
      rw [List.map_map, List.filterMap_map, List.map_filterMap, ← List.filterMap_eq_map]
      apply List.filterMap_congr
      intro item _
      simp [Binding.toImport, Binder.toImport, Binder.recorded]
  | classDef name bases decorators inner line => rfl
  | functionDef name decorators inner => rfl
  -- only plain names are recorded of the targets
  | assign targets value =>
    simp only [Statement.bindings, Statement.binders, recorded_targets, List.map_map]
    apply List.map_congr_left
    intro name _
    obtain ⟨hmodule, hitem⟩ := targetKind_ne (makesTypeVariable value)
    exact congrArg _ (toImport_own module name hmodule hitem)
  | annotate target typeExpr value =>
    cases target with
    | name id =>
      obtain ⟨hmodule, hitem⟩ := targetKind_ne (value.any makesTypeVariable)
      have hown := toImport_own module id hmodule hitem
      cases value with
      | none => rfl
      | some value => exact congrArg (fun i => [(id, i)]) hown
    | literal value => rfl
    | apply form parts => rfl
  | compound inner => rfl
  | simple => rfl

/-- A client imports a name as the last record of it says. -/
theorem importOf_eq (module : String) (isPackage : Bool) (body : List Statement) (name : String) :
    Client.importOf (Scope.ofStatements module isPackage body) name
      = (recordOf module isPackage body name).map (Binder.toImport module name) := by
  have hlookup : Client.importOf (Scope.ofStatements module isPackage body) name
      = ((Scope.ofStatements module isPackage body).lookup name).map (Binding.toImport module name) := by
    unfold Client.importOf
    rw [Scope.module_ofStatements]
    rfl
  rw [hlookup, Scope.lookup_ofStatements, ← lastEntry_map, List.map_map]
  unfold recordOf moduleBinders
  rw [← lastEntry_map]
  -- both sides take the last entry, so it is enough to compare entry by entry
  clear hlookup
  congr 1
  induction body with
  | nil => rfl
  | cons st rest ih =>
    rw [List.flatMap_cons, List.flatMap_cons, List.map_append, List.filterMap_append, List.map_append]
    exact congrArg₂ (· ++ ·) (bindings_toImport module isPackage st) ih

/-! ## Names that can be recovered -/

/-- What an import binds its local name to. -/
def Client.Import.meaning : Client.Import → Meaning
  | whole path none => .module (topName path)
  | whole path (some _) => .module path
  | item module name _ => .attribute module name

/-- The import means what a descriptor module binds the name to. That is the same thing as
    the attribute of this name that the module has in the end. -/
def Client.Import.Means (module name : String) (meaning : Meaning) (i : Client.Import) : Prop :=
  i.meaning = meaning ∨ i.meaning = .attribute module name

/-- The record of a name tells what the name is bound to:

    * `import a.b as a` is recorded like `import a.b`, so a new name that is the name of
      the outermost package must be the whole path;
    * a target inside another one leaves an earlier record as it is, so that must be one of
      something that the module has itself. -/
def Recoverable (module : String) (isPackage : Bool) (body : List Statement) (name : String) : Prop :=
  (∀ path, binderOf module isPackage body name = some (.renamed path) → topName path = name →
    path = name) ∧
  (binderOf module isPackage body name = some .nested → ∃ record,
    recordOf module isPackage body name = some record ∧
      (record = .own ∨ record = .bare ∨ record = .item module name))

section Recovery

variable {module : String} {isPackage : Bool} {body : List Statement} {name : String}

/-- Only `import` binds a name to a module. Without a new name that is the first part of the path. -/
theorem exists_alias_of_import {st : Statement} {binder : Binder} {path : String}
    (h : (name, binder) ∈ st.binders module isPackage)
    (hpath : binder = .package path ∨ binder = .renamed path) :
    ∃ items, st = .importModules items ∧
      ∃ item ∈ items, item.name = path ∧ (binder = .package path → topName path = name) := by
  -- no other statement makes such a binder
  have hother : ∀ {other : Binder}, binder = other → (∀ path, other ≠ .package path) →
      (∀ path, other ≠ .renamed path) → False := by
    intro other heq hpackage hrenamed
    rcases hpath with hpath | hpath
    · exact hpackage path (heq.symm.trans hpath)
    · exact hrenamed path (heq.symm.trans hpath)
  cases st with
  | importModules items =>
    obtain ⟨item, hitem, heq⟩ := List.mem_map.mp h
    refine ⟨items, rfl, item, hitem, ?_⟩
    split at heq
    · cases heq
      rcases hpath with hpath | hpath
      · cases hpath
        exact ⟨rfl, fun _ => rfl⟩
      · cases hpath
    · cases heq
      rcases hpath with hpath | hpath
      · cases hpath
      · cases hpath
        exact ⟨rfl, fun hpackage => by cases hpackage⟩
  | importItems level written items =>
    simp only [Statement.binders] at h
    split at h
    · cases h
    · obtain ⟨item, -, heq⟩ := List.mem_map.mp h
      exact (hother (Prod.mk.inj heq).2.symm (by simp) (by simp)).elim
  | classDef other bases decorators inner line =>
    exact (hother (Prod.mk.inj (List.mem_singleton.mp h)).2 (by simp) (by simp)).elim
  | functionDef other decorators inner =>
    exact (hother (Prod.mk.inj (List.mem_singleton.mp h)).2 (by simp) (by simp)).elim
  | assign targets value =>
    obtain ⟨target, -, hmem⟩ := List.mem_flatMap.mp h
    unfold Expr.targetBinders at hmem
    split at hmem
    · exact (hother (Prod.mk.inj (List.mem_singleton.mp hmem)).2 (by simp) (by simp)).elim
    · obtain ⟨id, -, heq⟩ := List.mem_map.mp hmem
      exact (hother (Prod.mk.inj heq).2.symm (by simp) (by simp)).elim
  | annotate target typeExpr value =>
    cases target with
    | name id =>
      have hbinder := (Prod.mk.inj (List.mem_singleton.mp h)).2
      cases value with
      | none => exact (hother hbinder (by simp) (by simp)).elim
      | some value => exact (hother hbinder (by simp) (by simp)).elim
    | literal value => cases h
    | apply form parts => cases h
  | compound inner => cases h
  | simple => cases h

/-- A package is bound to the first part of its path. -/
theorem topName_of_package {path : String}
    (h : (name, .package path) ∈ moduleBinders module isPackage body) : topName path = name := by
  obtain ⟨st, -, hmem⟩ := List.mem_flatMap.mp h
  obtain ⟨-, -, item, -, -, htop⟩ := exists_alias_of_import hmem (.inl rfl)
  exact htop rfl

/-- A name that is bound has a last binder. -/
theorem exists_binderOf {meaning : Meaning} (h : meaningOf module isPackage body name = some meaning) :
    ∃ binder, binderOf module isPackage body name = some binder := by
  obtain ⟨entry, hentry, hmade⟩ := List.mem_filterMap.mp (mem_of_lastEntry h)
  obtain ⟨_, -, heq⟩ := Option.map_eq_some_iff.mp hmade
  cases heq
  exact exists_lastEntry hentry

/-- What the last binder binds holds. -/
theorem meaningOf_eq {binder : Binder} (h : binderOf module isPackage body name = some binder)
    {meaning : Meaning} (hmeaning : binder.meaning module name = some meaning) :
    meaningOf module isPackage body name = some meaning := by
  unfold meaningOf
  exact lastEntry_filterMap (fun name binder => Binder.meaning module name binder) h hmeaning

/-- What is recorded of the last binder holds. -/
theorem recordOf_eq {binder : Binder} (h : binderOf module isPackage body name = some binder)
    (hrecorded : binder ≠ .nested) : recordOf module isPackage body name = some binder := by
  unfold recordOf
  exact lastEntry_filterMap (fun _ binder => Binder.recorded binder) h (if_neg hrecorded)

theorem recordOf_ne_nested : recordOf module isPackage body name ≠ some .nested := by
  intro h
  obtain ⟨entry, -, hmade⟩ := List.mem_filterMap.mp (mem_of_lastEntry h)
  obtain ⟨record, hrecord, heq⟩ := Option.map_eq_some_iff.mp hmade
  cases heq
  unfold Binder.recorded at hrecord
  split at hrecord
  · cases hrecord
  · next hne => exact hne (Option.some.inj hrecord)

/-- What is imported because of a binder of a name means what the binder binds it to, but for
    a new name that is the name of the outermost package. -/
theorem means_toImport_iff {binder : Binder} {meaning : Meaning}
    (hmeaning : binder.meaning module name = some meaning)
    (htop : ∀ path, binder = .package path → topName path = name) :
    (binder.toImport module name).Means module name meaning ↔
      ∀ path, binder = .renamed path → topName path = name → path = name := by
  cases binder with
  | package path =>
    cases hmeaning
    have hsame : name = topName path := (htop path rfl).symm
    have hmeant : (Client.Import.whole path none).meaning = .module (topName path) := rfl
    simp [Binder.toImport, Client.Import.Means, ← hsame, hmeant]
  -- a module renamed to its own first part is imported as if it had no new name
  | renamed path =>
    cases hmeaning
    by_cases hsame : name = topName path
    · have htopName : topName path = name := hsame.symm
      simp [Binder.toImport, Client.Import.Means, Client.Import.meaning, ← hsame, htopName, eq_comm]
    · have htopName : topName path ≠ name := fun h => hsame h.symm
      simp [Binder.toImport, Client.Import.Means, Client.Import.meaning, hsame, htopName]
  | item origin original =>
    cases hmeaning
    simp [Binder.toImport, Client.Import.Means, Client.Import.meaning]
  | own =>
    cases hmeaning
    simp [Binder.toImport, Client.Import.Means, Client.Import.meaning]
  | nested =>
    cases hmeaning
    simp [Binder.toImport, Client.Import.Means, Client.Import.meaning]
  | bare => cases hmeaning

/-- What is imported because of a record is the attribute of the module exactly if the record
    says so. -/
theorem meaning_toImport_eq_iff {record : Binder} (hrecord : record ≠ .nested) :
    (record.toImport module name).meaning = .attribute module name ↔
      record = .own ∨ record = .bare ∨ record = .item module name := by
  cases record with
  | package path =>
    by_cases hsame : name = topName path
    · simp [Binder.toImport, Client.Import.meaning, ← hsame]
    · simp [Binder.toImport, Client.Import.meaning, hsame]
  | renamed path =>
    by_cases hsame : name = topName path
    · simp [Binder.toImport, Client.Import.meaning, ← hsame]
    · simp [Binder.toImport, Client.Import.meaning, hsame]
  | item origin original => simp [Binder.toImport, Client.Import.meaning]
  | own => simp [Binder.toImport, Client.Import.meaning]
  | nested => exact absurd rfl hrecord
  | bare => simp [Binder.toImport, Client.Import.meaning]

/-- **What can be recovered.** The import of a name means what the module binds the name to
    exactly if the name is recoverable. -/
theorem means_iff_recoverable {meaning : Meaning}
    (h : meaningOf module isPackage body name = some meaning) :
    (∃ i, Client.importOf (Scope.ofStatements module isPackage body) name = some i ∧
        i.Means module name meaning) ↔
      Recoverable module isPackage body name := by
  obtain ⟨binder, hbinder⟩ := exists_binderOf h
  have hrecord : ∀ record, recordOf module isPackage body name = some record →
      Client.importOf (Scope.ofStatements module isPackage body) name
        = some (record.toImport module name) := by
    intro record hrecord
    rw [importOf_eq, hrecord]
    rfl
  unfold Recoverable
  rw [hbinder]
  by_cases hnested : binder = .nested
  · -- the record, if there is one, is older than the last binder
    subst hnested
    obtain rfl : .attribute module name = meaning :=
      Option.some.inj ((meaningOf_eq hbinder rfl).symm.trans h)
    constructor
    · rintro ⟨i, himport, hmeans⟩
      refine ⟨fun path hpath => (by cases hpath), fun _ => ?_⟩
      rw [importOf_eq] at himport
      obtain ⟨record, hlast, rfl⟩ := Option.map_eq_some_iff.mp himport
      have hne : record ≠ .nested := fun hsame => recordOf_ne_nested (hsame ▸ hlast)
      refine ⟨record, hlast, (meaning_toImport_eq_iff hne).mp ?_⟩
      rcases hmeans with hmeans | hmeans
      · exact hmeans
      · exact hmeans
    · rintro ⟨-, hold⟩
      obtain ⟨record, hlast, hcases⟩ := hold rfl
      have hne : record ≠ .nested := fun hsame => recordOf_ne_nested (hsame ▸ hlast)
      exact ⟨_, hrecord record hlast, .inl ((meaning_toImport_eq_iff hne).mpr hcases)⟩
  · -- the last binder is what is recorded
    have himport := hrecord binder (recordOf_eq hbinder hnested)
    have hmeans : (binder.toImport module name).Means module name meaning ↔
        ∀ path, binder = .renamed path → topName path = name → path = name := by
      cases hbound : binder.meaning module name with
      | some found =>
        obtain rfl : found = meaning :=
          Option.some.inj ((meaningOf_eq hbinder hbound).symm.trans h)
        refine means_toImport_iff hbound fun path hpath => ?_
        subst hpath
        exact topName_of_package (mem_of_lastEntry hbinder)
      | none =>
        -- an annotation without a value: what the module has is imported from there
        cases binder with
        | bare => exact ⟨fun _ path hpath => (by cases hpath), fun _ => .inr rfl⟩
        | _ => cases hbound
    rw [himport]
    constructor
    · rintro ⟨i, hi, hmeant⟩
      cases hi
      refine ⟨fun path hpath => hmeans.mp hmeant path (Option.some.inj hpath), fun hlast => ?_⟩
      exact absurd (Option.some.inj hlast) hnested
    · rintro ⟨hpaths, -⟩
      exact ⟨_, rfl, hmeans.mpr fun path hpath => hpaths path (congrArg some hpath)⟩

end Recovery

end Waymark

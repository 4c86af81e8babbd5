import Mathlib.Data.List.Basic
import Waymark.Proofs.Provenance

/-! # Relative imports

    A `from` statement with leading dots takes names from somewhere in the package that it stands
    in. One dot means the package itself, and each further dot the package around the one
    before (`Ascends`). Around an outermost package there is nothing, and a module that is in no
    package has nowhere to start from; such a statement fails when it is run.

    `importedModule` follows these rules but for one level: where the dots go exactly one step
    too far, and a module is written behind them, it gives the written module as if there were
    no dots (`importedModule_relative`). A module in no package shows this at the end
    (`topmost_import_not_refused`).
-/

namespace Waymark

open Waymark.Grammar

/-- The package that relative imports of a module start from, as the parts of its name. -/
def packageOf (module : String) (isPackage : Bool) : List String :=
  if isPackage then Text.dottedParts module else (Text.dottedParts module).dropLast

/-- From inside the first package, so many dots mean the second one. -/
inductive Ascends : Nat → List String → List String → Prop
  | own {package : List String} (inside : package ≠ []) : Ascends 1 package package
  | up {level : Nat} {package outer : List String} {last : String}
    (below : Ascends level package (outer ++ [last])) (inside : outer ≠ []) :
    Ascends (level + 1) package outer

/-- Going up leaves out the last parts, one for each dot after the first, but never all. -/
theorem ascends_iff {level : Nat} {package outer : List String} :
    Ascends level package outer ↔
      outer ≠ [] ∧ ∃ left, package = outer ++ left ∧ level = left.length + 1 := by
  constructor
  · intro h
    induction h with
    | own inside => exact ⟨inside, [], by simp⟩
    | @up _ _ _ last below inside ih =>
      obtain ⟨-, left, rfl, rfl⟩ := ih
      exact ⟨inside, last :: left, by simp⟩
  · rintro ⟨inside, left, rfl, rfl⟩
    -- by induction on what is left out, for all packages inside of which it is
    induction left generalizing outer with
    | nil => simpa using Ascends.own inside
    | cons last rest ih =>
      have hbelow : Ascends (rest.length + 1) (outer ++ [last] ++ rest) (outer ++ [last]) :=
        ih (by simp)
      rw [List.append_assoc] at hbelow
      exact .up hbelow inside

/-- There is a package so many dots up exactly if there are as many parts. -/
theorem ascends_iff_take {level : Nat} {package outer : List String} :
    Ascends level package outer ↔
      (1 ≤ level ∧ level ≤ package.length) ∧ outer = package.take (package.length - (level - 1)) := by
  rw [ascends_iff]
  constructor
  · rintro ⟨inside, left, rfl, rfl⟩
    have hlength := List.length_pos_iff.mpr inside
    refine ⟨⟨by omega, by rw [List.length_append]; omega⟩, ?_⟩
    rw [List.length_append, Nat.add_sub_cancel, Nat.add_sub_cancel, List.take_left]
  · rintro ⟨⟨hlevel, hle⟩, rfl⟩
    refine ⟨fun hnil => ?_, package.drop (package.length - (level - 1)), ?_, ?_⟩
    -- one package at least is left
    · rcases List.take_eq_nil_iff.mp hnil with hzero | rfl
      · omega
      · simp at hle
        omega
    · rw [List.take_append_drop]
    · rw [List.length_drop]
      omega

/-- A name of parts that are not empty is not empty. -/
theorem intercalate_dots_ne_empty {parts : List String} (hne : parts ≠ [])
    (h : ∀ part ∈ parts, part ≠ "") : ".".intercalate parts ≠ "" := by
  obtain ⟨part, rest, rfl⟩ := List.exists_cons_of_ne_nil hne
  have hpart := h part List.mem_cons_self
  cases rest with
  | nil => rwa [String.intercalate_singleton]
  | cons next more =>
    rw [String.intercalate_cons_cons, String.append_assoc]
    intro hempty
    exact hpart (String.append_eq_empty_iff.mp hempty).1

section

variable {module : String} {isPackage : Bool} {level : Nat} {written : Option String}

theorem mem_dottedParts_of_mem_packageOf {part : String} (h : part ∈ packageOf module isPackage) :
    part ∈ Text.dottedParts module := by
  unfold packageOf at h
  split at h
  · exact h
  · exact List.mem_of_mem_dropLast h

/-- With dots, a module is found as long as they do not go further than one step above the
    outermost package. -/
theorem importedModule_of_dots (hlevel : level ≠ 0) :
    importedModule module isPackage level written
      = if level ≤ (packageOf module isPackage).length + 1 then
          nonEmpty (".".intercalate
            ((packageOf module isPackage).take ((packageOf module isPackage).length - (level - 1))
              ++ written.toList))
        else none := by
  unfold importedModule
  rw [if_neg hlevel]
  show (if level - 1 > (packageOf module isPackage).length then none else _) = _
  by_cases hle : level ≤ (packageOf module isPackage).length + 1
  · rw [if_neg (by omega), if_pos hle]
    rfl
  · rw [if_pos (by omega), if_neg hle]

/-- One step above the outermost package, what is written behind the dots is all that is left. -/
theorem importedModule_of_topmost (hlevel : level = (packageOf module isPackage).length + 1)
    (hwritten : written ≠ some "") : importedModule module isPackage level written = written := by
  rw [importedModule_of_dots (by omega), if_pos (by omega)]
  have hzero : (packageOf module isPackage).length - (level - 1) = 0 := by omega
  rw [hzero, List.take_zero, List.nil_append]
  cases written with
  | none => rfl
  | some name =>
    rw [Option.toList_some, String.intercalate_singleton]
    exact if_neg fun hempty => hwritten (congrArg some hempty)

/-- **Where a relative import leads.** For every module whose name has no empty parts and for any
    number of dots, one or more: a module is found if there is a package that many dots up, and
    then it is what is written inside that package. There is one exception, at one dot more than
    the package has parts: if a module is written behind those dots, it is found there as it is.
    In all other cases nothing is found, and then the statement binds nothing. -/
theorem importedModule_relative (hmodule : ∀ part ∈ Text.dottedParts module, part ≠ "")
    (hlevel : level ≠ 0) (hwritten : written ≠ some "") :
    (∀ path, importedModule module isPackage level written = some path ↔
      (∃ outer, Ascends level (packageOf module isPackage) outer ∧
        path = ".".intercalate (outer ++ written.toList)) ∨
      (level = (packageOf module isPackage).length + 1 ∧ written = some path)) ∧
    (importedModule module isPackage level written = none → ∀ (s : Scope) (items : List Alias),
      s.module = module → s.bindStatement isPackage (.importItems level written items) = s) := by
  refine ⟨fun path => ?_, ?_⟩
  · rcases Nat.lt_trichotomy level ((packageOf module isPackage).length + 1) with hlow | htop | hhigh
    · -- there is a package up there, and its name is not empty
      have hascends : Ascends level (packageOf module isPackage)
          ((packageOf module isPackage).take ((packageOf module isPackage).length - (level - 1))) :=
        ascends_iff_take.mpr ⟨⟨by omega, by omega⟩, rfl⟩
      have hinside := (ascends_iff.mp hascends).1
      have hne : ".".intercalate
          ((packageOf module isPackage).take ((packageOf module isPackage).length - (level - 1))
            ++ written.toList) ≠ "" := by
        refine intercalate_dots_ne_empty (by simp [hinside]) fun part hpart => ?_
        rcases List.mem_append.mp hpart with hpart | hpart
        · exact hmodule part (mem_dottedParts_of_mem_packageOf (List.mem_of_mem_take hpart))
        · rintro rfl
          exact hwritten (Option.mem_toList.mp hpart)
      rw [importedModule_of_dots hlevel, if_pos (by omega)]
      unfold nonEmpty
      rw [if_neg hne, Option.some.injEq]
      constructor
      · rintro rfl
        exact .inl ⟨_, hascends, rfl⟩
      · rintro (⟨outer, houter, rfl⟩ | ⟨htop, -⟩)
        · rw [(ascends_iff_take.mp houter).2]
        · omega
    · rw [importedModule_of_topmost htop hwritten]
      constructor
      · exact fun h => .inr ⟨htop, h⟩
      · rintro (⟨outer, houter, -⟩ | ⟨-, h⟩)
        · have hle := (ascends_iff_take.mp houter).1.2
          omega
        · exact h
    -- there are more dots than packages, even with the one too many
    · rw [importedModule_of_dots hlevel, if_neg (by omega)]
      constructor
      · intro h
        cases h
      · rintro (⟨outer, houter, -⟩ | ⟨htop, -⟩)
        · have hle := (ascends_iff_take.mp houter).1.2
          omega
        · omega
  · intro hnone s items hs
    simp only [Scope.bindStatement, hs, hnone]

end

/-- Two dots from inside a package in a package lead to the outer one. -/
theorem importedModule_relative_sample :
    (∀ part ∈ Text.dottedParts "app.orders.api", part ≠ "") ∧ (2 : Nat) ≠ 0 ∧
      some "shared" ≠ some "" ∧
      Ascends 2 (packageOf "app.orders.api" false) ["app"] ∧
      importedModule "app.orders.api" false 2 (some "shared") = some "app.shared" := by
  have hparts : ∀ part ∈ Text.dottedParts "app.orders.api", part ≠ "" := by decide
  have hascends : Ascends 2 (packageOf "app.orders.api" false) ["app"] :=
    ascends_iff_take.mpr (by decide)
  exact ⟨hparts, by decide, by decide, hascends,
    ((importedModule_relative hparts (by decide) (by decide)).1 "app.shared").mpr
      (.inl ⟨["app"], hascends, by decide⟩)⟩

/-- A module in no package has nowhere to start from, but an import with one dot is read as one
    without: there is nothing up there, and yet the statement binds the name. -/
theorem topmost_import_not_refused :
    packageOf "api" false = [] ∧ (∀ outer, ¬ Ascends 1 (packageOf "api" false) outer) ∧
      importedModule "api" false 1 (some "x") = some "x" ∧
      (Scope.ofStatements "api" false
        [.importItems 1 (some "x") [{ name := "y" }]]).bindings
        = [("y", { name := "y", kind := .imported, originModule := "x", originName := some "y" })] := by
  refine ⟨by decide, fun outer h => ?_, by decide, by decide⟩
  have hle := (ascends_iff_take.mp h).1.2
  exact absurd hle (by decide)

end Waymark

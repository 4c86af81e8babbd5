import Mathlib.Data.List.Basic
import Waymark.Proofs.ReadTrees

/-! # Names that the grammar reads

    Every name that a statement binds is an identifier, so it has neither blanks nor dots
    in it. Later proofs need this where names are put together to a text: the text can
    then be taken apart again.

    * An expression that is a name is an identifier (`Expr.Formed.named`), since what the rules for
      expressions read is well-formed.
    * `Statement.Read` says of a statement what its names and annotations are, with one lemma for
      each rule that reads statements.
    * `parseModule_named`: what a module binds by its statements are identifiers.
    * `parseModule_read`: the annotations in its classes are well-formed, too.
-/

namespace Waymark

namespace Text

/-- An identifier has no character in it that no identifier has. -/
theorem not_mem_of_isIdentifier {s : String} (h : isIdentifier s = true) {c : Char}
    (hstart : isIdentifierStart c = false) (hpart : isIdentifierPart c = false) :
    c ∉ s.toList := by
  unfold isIdentifier at h
  intro hc
  cases hs : s.toList with
  | nil =>
    rw [hs] at hc
    cases hc
  | cons d rest =>
    rw [hs] at h hc
    simp only [Bool.and_eq_true, List.all_eq_true] at h
    rcases List.mem_cons.mp hc with rfl | hmem
    · rw [hstart] at h
      exact Bool.false_ne_true h.1
    · have hd := h.2 c hmem
      rw [hpart] at hd
      exact Bool.false_ne_true hd

theorem dot_not_mem_of_isIdentifier {s : String} (h : isIdentifier s = true) : '.' ∉ s.toList :=
  not_mem_of_isIdentifier h rfl rfl

theorem blank_not_mem_of_isIdentifier {s : String} (h : isIdentifier s = true) : ' ' ∉ s.toList :=
  not_mem_of_isIdentifier h rfl rfl

end Text

namespace Grammar

/-! ## Expressions -/

/-- If the expression is a name, it is an identifier. -/
def Expr.Named (e : Expr) : Prop :=
  ∀ id, e = .name id → Text.isIdentifier id = true

theorem Expr.named_name {id : String} (h : Text.isIdentifier id = true) : (Expr.name id).Named := by
  intro other hother
  cases hother
  exact h

theorem Expr.named_literal {value : Literal} : (Expr.literal value).Named := by
  intro id hid
  cases hid

theorem Expr.named_apply {form : Form} {parts : List Expr} : (Expr.apply form parts).Named := by
  intro id hid
  cases hid

/-- A tree as it is read from some text. -/
def Expr.Formed (e : Expr) : Prop :=
  ∃ n, e.Read n

theorem Expr.Formed.named {e : Expr} (h : e.Formed) : e.Named := by
  obtain ⟨_, h⟩ := h
  cases h with
  | name isIdentifier => exact Expr.named_name isIdentifier
  | text => exact Expr.named_literal
  | literal => exact Expr.named_literal
  | joined => exact Expr.named_apply
  | apply => exact Expr.named_apply

/-! ## Statements -/

/-- Identifiers with dots between them. -/
def Dotted (name : String) : Prop :=
  ∃ parts : List String, parts ≠ [] ∧ (∀ part ∈ parts, Text.isIdentifier part = true) ∧
    name = ".".intercalate parts

mutual
/-- The names that the statement binds are identifiers, and the modules that it imports
    have dotted names. The same holds of what stands in the body of a class. -/
def Statement.Named : Statement → Prop
  | .importModules items =>
    ∀ item ∈ items, Dotted item.name ∧ ∀ id ∈ item.newName, Text.isIdentifier id = true
  | .importItems _ _ items =>
    ∀ item ∈ items, (item.name = "*" ∧ item.newName = none) ∨
      Text.isIdentifier item.name = true ∧ ∀ id ∈ item.newName, Text.isIdentifier id = true
  | .classDef name _ _ body _ => Text.isIdentifier name = true ∧ allNamed body
  | .functionDef name _ _ => Text.isIdentifier name = true
  | .assign targets _ => ∀ target ∈ targets, target.Named
  | .annotate target _ _ => target.Named
  | .compound _ | .simple => True

/-- The same for some statements. -/
def allNamed : List Statement → Prop
  | [] => True
  | s :: rest => s.Named ∧ allNamed rest
end

theorem allNamed_iff {body : List Statement} : allNamed body ↔ ∀ s ∈ body, s.Named := by
  induction body with
  | nil => simp [allNamed]
  | cons s rest ih => simp only [allNamed, ih, List.mem_cons, forall_eq_or_imp]

mutual
/-- The annotation of the statement is well-formed, and so are those in the body of a class. -/
def Statement.Annotated : Statement → Prop
  | .annotate _ typeExpr _ => typeExpr.Formed
  | .classDef _ _ _ body _ => allAnnotated body
  | _ => True

/-- The same for some statements. -/
def allAnnotated : List Statement → Prop
  | [] => True
  | s :: rest => s.Annotated ∧ allAnnotated rest
end

theorem allAnnotated_iff {body : List Statement} :
    allAnnotated body ↔ ∀ s ∈ body, s.Annotated := by
  induction body with
  | nil => simp [allAnnotated]
  | cons s rest ih => simp only [allAnnotated, ih, List.mem_cons, forall_eq_or_imp]

/-- A statement as it is read from a text. -/
structure Statement.Read (s : Statement) : Prop where
  named : s.Named
  annotated : s.Annotated

/-- What the rules for nested texts read is well-formed. -/
structure Rules.Traced (r : Rules) : Prop extends r.Sound where
  statements : Parser.Yields r.statements fun body => ∀ s ∈ body, s.Read

namespace Rules

open Waymark.Grammar.Parser

variable {r : Rules}

/-- What is read from tokens of any weight is well-formed. -/
theorem yields_of_keeps {p : Parser Expr} (h : ∀ n, Keeps (Within n) p (Expr.Read n)) :
    Yields p Expr.Formed :=
  fun input a next _ ha => ⟨trivial, _, (h (weightOf input.rest) input a next le_rfl ha).2⟩

theorem expression_formed (h : r.Sound) : Yields r.expression Expr.Formed :=
  yields_of_keeps fun n => (h.expression n).imp fun _ he => he.read

/-! ## The rules for statements -/

theorem assignedValue_formed (h : r.Sound) : Yields r.assignedValue Expr.Formed := by
  refine .after fun _ => ?_
  split
  · exact yields_of_keeps fun n => (yieldExpression_reads h).imp fun _ he => he.read
  · exact yields_of_keeps fun n => starExpressions_read h

theorem assignments_formed (h : r.Sound) (limit : Nat) :
    Yields (r.assignments limit) fun targets => ∀ e ∈ targets, e.Formed := by
  induction limit with
  | zero => exact .refuse
  | succ limit ih =>
    unfold assignments
    refine .after fun _ => ?_
    split
    · refine .bind (assignedValue_formed h) fun first hfirst => .bind ih fun later hlater => .pure ?_
      intro e he
      rcases List.mem_cons.mp he with rfl | he
      · exact hfirst
      · exact hlater e he
    · exact .pure (by simp)

theorem badTarget_yields {α : Type} {P : α → Prop} {start : Token} {value : Parser Expr} :
    Yields (badTarget start value : Parser α) P := by
  refine .after fun _ => ?_
  split
  · refine .after fun _ => ?_
    split
    · exact .complain
    · exact .refuse
  · exact .refuse

theorem assignmentOrExpression_read (h : r.Traced) :
    Yields r.assignmentOrExpression Statement.Read := by
  refine .after fun start => .bind (assignedValue_formed h.toSound) fun first hfirst => ?_
  refine .after fun token => ?_
  split
  · split
    · exact badTarget_yields
    -- a colon makes it an annotation, an equals sign an assignment
    · refine .after fun _ => .bind (expression_formed h.toSound) fun typeExpr htype => ?_
      refine .after fun _ => ?_
      split
      · exact .after fun _ => .pure ⟨hfirst.named, htype⟩
      · exact .pure ⟨hfirst.named, htype⟩
  · split
    · split
      · refine .after fun _ => ?_
        split
        · exact .complain
        · exact .refuse
      · refine .bind (assignments_formed h.toSound r.limit) fun rest hrest => .require fun _ => ?_
        dsimp only
        split
        · -- the last expression is the value, the others are targets
          refine .pure ⟨fun target htarget => ?_, trivial⟩
          rcases List.mem_cons.mp htarget with rfl | htarget
          · exact hfirst.named
          · exact (hrest target (List.dropLast_subset _ htarget)).named
        · exact .refuse
    · split
      · split
        · exact badTarget_yields
        · exact .after fun _ => .after fun _ => .pure ⟨trivial, trivial⟩
      · exact .pure ⟨trivial, trivial⟩

theorem dottedName_yields : Yields r.dottedName Dotted := by
  refine .bind name_keeps fun first hfirst => ?_
  have hmore : Yields (do op "."; name) fun id => Text.isIdentifier id = true :=
    .after fun _ => name_keeps
  refine .bind (hmore.many r.limit) fun rest hrest => .pure ?_
  refine ⟨first :: rest, List.cons_ne_nil _ _, fun part hpart => ?_, rfl⟩
  rcases List.mem_cons.mp hpart with rfl | hpart
  · exact hfirst
  · exact hrest part hpart

theorem newName_yields :
    Yields newName fun found => ∀ id ∈ found, Text.isIdentifier id = true := by
  refine .after fun _ => ?_
  split
  · refine .bind name_keeps fun id hid => .pure ?_
    intro other hother
    cases hother
    exact hid
  · exact .pure (by simp)

theorem importModules_read : Yields r.importModules Statement.Read := by
  refine .after fun _ => ?_
  have hitem : Yields (do
      let id ← r.dottedName
      return ({ name := id, newName := ← newName } : Alias))
      fun item => Dotted item.name ∧ ∀ id ∈ item.newName, Text.isIdentifier id = true :=
    .bind dottedName_yields fun _ hid => .bind newName_yields fun _ hnew => .pure ⟨hid, hnew⟩
  exact .bind (hitem.commaList r.limit) fun _ hitems => .require fun _ => .pure ⟨hitems, trivial⟩

theorem importItems_read : Yields r.importItems Statement.Read := by
  refine .after fun _ => .after fun level => .after fun module => .require fun _ => .after fun _ => ?_
  have hitem : Yields (do
      let id ← name
      return ({ name := id, newName := ← newName } : Alias))
      fun item => (item.name = "*" ∧ item.newName = none) ∨
        Text.isIdentifier item.name = true ∧ ∀ id ∈ item.newName, Text.isIdentifier id = true :=
    .bind name_keeps fun _ hid => .bind newName_yields fun _ hnew => .pure (.inr ⟨hid, hnew⟩)
  refine .after fun star => ?_
  -- a star, or items in brackets or without
  split
  · refine .pure ⟨fun item hmem => ?_, trivial⟩
    cases List.mem_singleton.mp hmem
    exact .inl ⟨rfl, rfl⟩
  · refine .after fun _ => ?_
    split
    · exact .bind (hitem.commaList r.limit) fun _ hitems => .after fun _ => .pure ⟨hitems, trivial⟩
    · exact .bind (hitem.commaList r.limit) fun _ hitems => .require fun _ => .pure ⟨hitems, trivial⟩

theorem simpleStatement_read (h : r.Traced) : Yields r.simpleStatement Statement.Read := by
  refine .after fun token => ?_
  -- only assignments and imports hold names; the others are read and forgotten
  split
  · exact assignmentOrExpression_read h
  · split
    · exact .after fun _ => .after fun _ => .pure ⟨trivial, trivial⟩
    · exact importModules_read
    · exact importItems_read
    · refine .after fun _ => .after fun _ => ?_
      dsimp only
      split
      · refine .after fun _ => ?_
        split
        · exact .after fun _ => .pure ⟨trivial, trivial⟩
        · exact .pure ⟨trivial, trivial⟩
      · exact .pure ⟨trivial, trivial⟩
    · exact .after fun _ => .pure ⟨trivial, trivial⟩
    · exact .after fun _ => .pure ⟨trivial, trivial⟩
    · exact .after fun _ => .pure ⟨trivial, trivial⟩
    · exact .after fun _ => .after fun _ => .require fun _ => .pure ⟨trivial, trivial⟩
    · refine .after fun _ => .after fun _ => .after fun _ => ?_
      dsimp only
      split
      · exact .after fun _ => .pure ⟨trivial, trivial⟩
      · exact .pure ⟨trivial, trivial⟩
    · exact .after fun _ => .after fun _ => .require fun _ => .pure ⟨trivial, trivial⟩
    · exact .after fun _ => .after fun _ => .require fun _ => .pure ⟨trivial, trivial⟩
    · exact assignmentOrExpression_read h

theorem simpleStatements_read (h : r.Traced) :
    Yields r.simpleStatements fun body => ∀ s ∈ body, s.Read := by
  refine .bind (simpleStatement_read h) fun first hfirst => ?_
  refine .bind ((simpleStatement_read h).afterSeparators r.limit) fun later hlater => ?_
  refine .after fun _ => .pure fun s hs => ?_
  rcases List.mem_cons.mp hs with rfl | hs
  · exact hfirst
  · exact hlater s hs

theorem block_read (h : r.Traced) : Yields r.block fun body => ∀ s ∈ body, s.Read := by
  refine .after fun _ => .after fun lineEnd => ?_
  split
  · refine .after fun _ => .bind h.statements fun body hbody => .require fun _ => ?_
    exact .after fun _ => .pure hbody
  · exact simpleStatements_read h

theorem classDefinition_read (h : r.Traced) {decorated : List Expr} :
    Yields (r.classDefinition decorated) Statement.Read := by
  refine .after fun start => .after fun _ => .bind name_keeps fun id hid => .after fun _ => ?_
  have hend : ∀ bases : List Expr, Yields (do
      let body ← r.block
      return .classDef id bases decorated body start.line) Statement.Read := fun _ =>
    .bind (block_read h) fun _ hbody => 
      .pure ⟨⟨hid, allNamed_iff.mpr fun s hs => (hbody s hs).named⟩,
        allAnnotated_iff.mpr fun s hs => (hbody s hs).annotated⟩
  dsimp only
  split
  · exact .after fun _ => hend _
  · exact .after fun _ => hend _

theorem functionDefinition_read {decorated : List Expr} :
    Yields (r.functionDefinition decorated) Statement.Read := by
  refine .after fun _ => .bind name_keeps fun id hid => .after fun _ => .after fun _ => ?_
  refine .after fun _ => .after fun _ => ?_
  dsimp only
  split
  · exact .after fun _ => .after fun _ => .pure ⟨hid, trivial⟩
  · exact .after fun _ => .pure ⟨hid, trivial⟩

theorem withStatement_read : Yields r.withStatement Statement.Read := by
  refine .after fun _ => .after fun enclosed => ?_
  cases enclosed with
  | some _ => exact .after fun _ => .pure ⟨trivial, trivial⟩
  | none => exact .after fun _ => .require fun _ => .after fun _ => .pure ⟨trivial, trivial⟩

theorem tryStatement_read : Yields r.tryStatement Statement.Read := by
  refine .after fun _ => .after fun body => .after fun caught => ?_
  split
  · exact .after fun _ => .after fun _ => .pure ⟨trivial, trivial⟩
  · exact .after fun _ => .after fun _ => .pure ⟨trivial, trivial⟩

theorem forStatement_read : Yields r.forStatement Statement.Read :=
  .after fun _ => .after fun _ => .after fun _ => .after fun _ => .after fun _ => .after fun _ =>
    .pure ⟨trivial, trivial⟩

theorem matchStatement_read : Yields r.matchStatement Statement.Read :=
  .after fun _ => .after fun _ => .after fun _ => .after fun _ => .after fun _ => .after fun _ =>
    .require fun _ => .after fun _ => .pure ⟨trivial, trivial⟩

theorem asyncStatement_read {decorated : List Expr} :
    Yields (r.asyncStatement decorated) Statement.Read := by
  refine .after fun _ => ?_
  split
  · exact functionDefinition_read
  · split
    · exact .refuse
    · refine .after fun _ => ?_
      split
      · exact forStatement_read
      · refine .after fun _ => ?_
        split
        · exact withStatement_read
        · exact .refuse

/-- A statement on its own, as a list. -/
theorem single_read {p : Parser Statement} (h : Yields p Statement.Read) :
    Yields (do return [← p]) fun body => ∀ s ∈ body, s.Read := by
  refine .bind h fun s hs => .pure fun t ht => ?_
  cases List.mem_singleton.mp ht
  exact hs

theorem statement_read (h : r.Traced) : Yields r.statement fun body => ∀ s ∈ body, s.Read := by
  refine .after fun token => ?_
  split
  · refine .after fun decorated => .after fun _ => ?_
    split
    · exact single_read (classDefinition_read h)
    · refine .after fun _ => ?_
      split
      · exact single_read asyncStatement_read
      · exact single_read functionDefinition_read
  · split
    · exact simpleStatements_read h
    · split
      · refine .after fun _ => .after fun _ => .after fun body => .after fun other => .pure ?_
        intro s hs
        cases List.mem_singleton.mp hs
        exact ⟨trivial, trivial⟩
      · refine .after fun _ => .after fun _ => .after fun body => .after fun other => .pure ?_
        intro s hs
        cases List.mem_singleton.mp hs
        exact ⟨trivial, trivial⟩
      · exact single_read forStatement_read
      · exact single_read tryStatement_read
      · exact single_read withStatement_read
      · exact single_read (classDefinition_read h)
      · exact single_read functionDefinition_read
      · exact .after fun _ => single_read asyncStatement_read
      -- the word may also be a name, and then the statement is a simple one
      · refine .bind matchStatement_read.attempt fun found hfound => ?_
        cases found with
        | some s =>
          refine .pure fun t ht => ?_
          cases List.mem_singleton.mp ht
          exact hfound s rfl
        | none => exact simpleStatements_read h
      · exact simpleStatements_read h

theorem statementsFrom_read (h : r.Traced) (limit : Nat) :
    Yields (r.statementsFrom limit) fun body => ∀ s ∈ body, s.Read := by
  induction limit with
  | zero => exact .pure (by simp)
  | succ limit ih =>
    unfold statementsFrom
    refine .after fun token => ?_
    split
    · exact .pure (by simp)
    · refine .bind (statement_read h) fun first hfirst => .bind ih fun later hlater => .pure ?_
      intro s hs
      rcases List.mem_append.mp hs with hs | hs
      · exact hfirst s hs
      · exact hlater s hs

/-- By induction on the depth: each level reads with the rules of the one below. -/
theorem atDepth_traced (limit depth : Nat) : (atDepth limit depth).Traced := by
  induction depth with
  | zero => exact ⟨atDepth_sound limit 0, .refuse⟩
  | succ depth ih => exact ⟨atDepth_sound limit (depth + 1), statementsFrom_read ih limit⟩

end Rules

/-- **What a module consists of** is as it is read from a text. -/
theorem parseModule_read {source : List Char} {body : List Statement}
    (h : parseModule source = .ok body) : ∀ s ∈ body, s.Read := by
  unfold parseModule parseWith at h
  dsimp only at h
  split at h
  · next found hrun =>
    cases h
    have hmodule : ∀ r : Rules, r.Traced → Parser.Yields r.module fun body => ∀ s ∈ body, s.Read :=
      fun r hr => .bind (Rules.statementsFrom_read hr _) fun _ hbody => .after fun _ => .pure hbody
    exact (hmodule _ (Rules.atDepth_traced _ _)).run trivial hrun
  · cases h

/-- **What a module and the classes in it bind by their statements are identifiers**, and what
    it imports are modules with dotted names. -/
theorem parseModule_named {source : List Char} {body : List Statement}
    (h : parseModule source = .ok body) : ∀ s ∈ body, s.Named :=
  fun s hs => (parseModule_read h s hs).named

end Grammar

end Waymark

import Waymark.Proofs.TextReplacement

/-! # Type arguments that harm nobody

    One type argument can make a whole module unreadable (`TypeArgument.fatal?`). This module
    says which cannot (`Harmless`): those without formatted texts and without numbers that are too
    long to print, whose texts hold neither halves of characters nor null characters and spell, if
    anything, harmless expressions again. Names, attributes, calls, lambdas, slices, starred expressions and brackets of such
    expressions are harmless, at any depth.

    * `Harmless.fatal?_eq_none`: a harmless argument is never fatal.
    * A text may be harmless and spell nothing; it is noted as a problem then
      (`read_text_of_malformed`).
-/

namespace Waymark

open Waymark.Grammar

/-- The form of a formatted text, or of a replacement field in one. -/
def Grammar.Form.IsFormatted : Form → Prop
  | .joined | .replacement _ => True
  | _ => False

/-- The expression has no formatted text in it, its numbers can be printed, and all its texts are
    harmless: they are made of characters, none of them null, and what they spell is harmless. -/
inductive Harmless : Expr → Prop where
  | name (id : String) : Harmless (.name id)
  | value {value : Literal} (noText : ∀ codes marked, value ≠ .text codes marked)
    (printed : value.fault? = none) : Harmless (.literal value)
  | text {codes : List Nat} {marked : Bool} (whole : codes.any isSurrogate = false)
    (noNull : 0 ∉ codes) (spelled : ∀ e, expressionOfCodes codes = .ok e → Harmless e) :
    Harmless (.literal (.text codes marked))
  | apply {form : Form} {parts : List Expr} (plain : ¬ form.IsFormatted)
    (each : ∀ e ∈ parts, Harmless e) : Harmless (.apply form parts)

namespace Harmless

theorem plain {form : Form} {es : List Expr} (h : Harmless (.apply form es)) :
    ¬ form.IsFormatted := by
  cases h with
  | apply plain _ => exact plain

/-- The parts of a harmless expression are harmless. -/
theorem parts {form : Form} {es : List Expr} (h : Harmless (.apply form es)) :
    ∀ e ∈ es, Harmless e := by
  cases h with
  | apply _ each => exact each

theorem head {form : Form} {a b : Expr} (h : Harmless (.apply form [a, b])) : Harmless a :=
  h.parts a List.mem_cons_self

theorem index {form : Form} {a b : Expr} (h : Harmless (.apply form [a, b])) : Harmless b :=
  h.parts b (List.mem_cons_of_mem _ List.mem_cons_self)

end Harmless

/-! ## Printing -/

theorem fault?_apply {form : Form} (h : ¬ form.IsFormatted) (parts : List Expr) :
    (Expr.apply form parts).fault? = partsFault? parts := by
  cases form with
  | joined => exact (h trivial).elim
  | replacement conversion => exact (h trivial).elim
  | _ => simp only [Expr.fault?]

theorem partsFault?_eq_none_iff {parts : List Expr} :
    partsFault? parts = none ↔ ∀ e ∈ parts, e.fault? = none := by
  induction parts with
  | nil => simp [partsFault?]
  | cons e rest ih => simp [partsFault?, ih]

/-- A harmless expression has a text. -/
theorem Harmless.fault?_eq_none {e : Expr} (h : Harmless e) : e.fault? = none := by
  induction h with
  | name id => simp only [Expr.fault?]
  | value _ printed => simp only [Expr.fault?, printed]
  | text _ _ _ _ => simp only [Expr.fault?, Literal.fault?]
  | apply plain _ ih =>
    rw [fault?_apply plain, partsFault?_eq_none_iff]
    exact ih

theorem anyFormatted_eq_false_iff {parts : List Expr} :
    anyFormatted parts = false ↔ ∀ e ∈ parts, e.hasFormatted = false := by
  induction parts with
  | nil => simp [anyFormatted]
  | cons e rest ih => simp [anyFormatted, ih]

theorem Harmless.hasFormatted_eq_false {e : Expr} (h : Harmless e) : e.hasFormatted = false := by
  induction h with
  | name id => rfl
  | value _ _ => rfl
  | text _ _ _ _ => rfl
  | @apply form parts plain _ ih =>
    have hform : form ≠ .joined := by
      rintro rfl
      exact plain trivial
    simp [Expr.hasFormatted, hform, anyFormatted_eq_false_iff.mpr ih]

/-! ## Replacing texts -/

/-- The result is no reason to give up the module: it has the property, or a text was found to
    spell no expression. -/
def Contained {α : Type} (P : α → Prop) : Except SpellingFault α → Prop
  | .ok a => P a
  | .error (.malformed _) => True
  | .error _ => False

theorem Contained.bind {α β : Type} {P : α → Prop} {Q : β → Prop} {r : Except SpellingFault α}
    {f : α → Except SpellingFault β} (h : Contained P r) (hf : ∀ a, P a → Contained Q (f a)) :
    Contained Q (r >>= f) := by
  match r, h with
  | .ok a, h => exact hf a h
  | .error (.malformed shown), _ => trivial

/-- The expression has a text. -/
def HasText (e : Expr) : Prop := e.fault? = none

theorem hasText_apply {form : Form} (h : ¬ form.IsFormatted) {parts : List Expr}
    (hparts : ∀ e ∈ parts, HasText e) : HasText (.apply form parts) := by
  unfold HasText
  rw [fault?_apply h, partsFault?_eq_none_iff]
  exact hparts

theorem hasText_subscript {head index : Expr} (hhead : HasText head) (hindex : HasText index) :
    HasText (.apply .subscript [head, index]) := by
  refine hasText_apply id ?_
  simp [hhead, hindex]

theorem contained_inlineAll {scope : Scope} {spelled : List Nat → Except SpellingFault Expr}
    {parts : List Expr} (h : ∀ e ∈ parts, Contained HasText (scope.inlineWith spelled e)) :
    Contained (fun types => ∀ e ∈ types, HasText e) (scope.inlineAll spelled parts) := by
  induction parts with
  | nil =>
    unfold Scope.inlineAll
    exact fun e he => absurd he List.not_mem_nil
  | cons e rest ih =>
    obtain ⟨he, hrest⟩ := List.forall_mem_cons.mp h
    unfold Scope.inlineAll
    refine he.bind fun e he => ?_
    refine (ih hrest).bind fun rest hrest => ?_
    exact List.forall_mem_cons.mpr ⟨he, hrest⟩

/-- Where harmless texts are replaced by something contained, all of a harmless expression is.
    By induction on the replacement. -/
theorem contained_inlineWith {scope : Scope} {spelled : List Nat → Except SpellingFault Expr}
    (hspelled : ∀ codes marked, Harmless (.literal (.text codes marked)) →
      Contained HasText (spelled codes)) {e : Expr} (h : Harmless e) :
    Contained HasText (scope.inlineWith spelled e) := by
  induction e using scope.replacement_induction with
  | name id =>
    rw [Scope.inlineWith_name]
    exact h.fault?_eq_none
  | text codes marked =>
    rw [Scope.inlineWith_text]
    exact hspelled codes marked h
  | value value noText =>
    rw [Scope.inlineWith_value spelled noText]
    exact h.fault?_eq_none
  | literal head index form =>
    rw [Scope.inlineWith_of_literal spelled form]
    exact h.fault?_eq_none
  | annotated head first metadata form ih =>
    rw [Scope.inlineWith_of_annotated spelled form]
    have hparts := h.index.parts
    refine (ih (hparts first List.mem_cons_self)).bind fun type htype => ?_
    have hmetadata : ∀ e ∈ metadata, HasText e := fun e he =>
      (hparts e (List.mem_cons_of_mem _ he)).fault?_eq_none
    exact hasText_subscript h.head.fault?_eq_none
      (hasText_apply id (List.forall_mem_cons.mpr ⟨htype, hmetadata⟩))
  | single head index form single =>
    rw [Scope.inlineWith_of_single spelled form single]
    exact h.fault?_eq_none
  -- no formatted text is among the forms, so the text is put together from those of the parts
  | parts form parts unshielded ih =>
    rw [Scope.inlineWith_of_unshielded spelled unshielded]
    have htypes := contained_inlineAll fun p hp => ih p hp (h.parts p hp)
    exact htypes.bind fun types htypes => hasText_apply h.plain htypes

/-- A text of characters of which none is null is at worst malformed. -/
theorem contained_expressionOfCodes {codes : List Nat} (whole : codes.any isSurrogate = false)
    (noNull : 0 ∉ codes) (spelled : ∀ e, expressionOfCodes codes = .ok e → Harmless e) :
    Contained Harmless (expressionOfCodes codes) := by
  -- only blanks are taken off before the text is read
  have hsub : ∀ code ∈ Text.dropAround Text.isBlankCode codes, code ∈ codes :=
    fun code hcode => Text.mem_of_mem_dropAround hcode
  have hwhole : (Text.dropAround Text.isBlankCode codes).any isSurrogate = false := by
    rw [List.any_eq_false] at whole ⊢
    exact fun code hcode => whole code (hsub code hcode)
  have hnull : (Text.dropAround Text.isBlankCode codes).contains 0 = false := by
    rw [← Bool.not_eq_true, List.contains_iff_mem]
    exact fun hmem => noNull (hsub 0 hmem)
  cases hparse : parseExpression ((Text.dropAround Text.isBlankCode codes).map Char.ofNat) with
  | ok e =>
    have he : expressionOfCodes codes = .ok e := by
      unfold expressionOfCodes
      simp only [hwhole, hnull, hparse, Bool.false_eq_true, if_false]
    rw [he]
    exact spelled e he
  | error m =>
    have he : expressionOfCodes codes = .error (.malformed m.shown) := by
      unfold expressionOfCodes
      simp only [hwhole, hnull, hparse, Bool.false_eq_true, if_false]
    rw [he]
    trivial

/-- A harmless argument stands on its own, or is found not to. -/
theorem contained_standalone {e : Expr} (h : Harmless e) : Contained Harmless (standalone e) := by
  unfold standalone Expr.text
  rw [h.fault?_eq_none, h.hasFormatted_eq_false]
  dsimp only
  split
  · trivial
  · trivial
  · exact h

/-- What a harmless text spells is contained, however deep texts in texts are followed. -/
theorem contained_inlineText {scope : Scope} (fuel : Nat) :
    ∀ codes marked, Harmless (.literal (.text codes marked)) →
      Contained HasText (scope.inlineText fuel codes) := by
  induction fuel with
  | zero =>
    intro codes marked _
    trivial
  | succ fuel ih =>
    intro codes marked h
    have hspelled : Contained Harmless (expressionOfCodes codes) := by
      cases h with
      | text whole noNull spelled => exact contained_expressionOfCodes whole noNull spelled
      | value hne _ => exact (hne codes marked rfl).elim
    exact hspelled.bind fun e he => contained_inlineWith ih he

/-- **A harmless argument is never fatal.** -/
theorem Harmless.fatal?_eq_none {e : Expr} (h : Harmless e) (scope : Scope) :
    TypeArgument.fatal? scope e = none := by
  have htype : Contained HasText (TypeArgument.typeOf scope e) :=
    (contained_standalone h).bind fun e he =>
      contained_inlineWith (fun codes _ htext => contained_inlineText _ codes _ htext) he
  unfold TypeArgument.fatal?
  match TypeArgument.typeOf scope e, htype with
  | .ok type, htype => exact Option.map_eq_none_iff.mpr htype
  | .error (.malformed shown), _ => rfl

end Waymark

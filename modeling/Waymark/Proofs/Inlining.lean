import Waymark.Proofs.HarmlessArguments
import Waymark.Proofs.ItemByItem
import Waymark.Proofs.ReadTrees

/-! # Texts replaced by what they spell

    What a text spells is gone through in the same way as the expression that the text stands in, so
    texts in texts are replaced as well. The depth is counted down by fuel. Here the replacement is
    described without it.

    * `Scope.Inlines`, `Scope.Fails`: what an expression becomes, or why it cannot be replaced, with
      one rule for each case.
    * `Scope.Visits`: what the replacement comes to on its way, through texts as well.
    * `Scope.Plain`: no formatted text and no null character is met on the way.

    What a text spells holds only shorter texts, so the fuel is enough. The main result is
    `Scope.inlined_outcome`: for a plain expression the computation ends as one of the rules says.
-/

namespace Waymark

open Waymark.Grammar

/-! ## Parts of an expression -/

/-- The expression stands in another one, at any depth. -/
inductive Grammar.Expr.Occurs (d : Expr) : Expr → Prop
  | here : Occurs d d
  | inside {form : Form} {parts : List Expr} {p : Expr} (mem : p ∈ parts) (further : Occurs d p) :
    Occurs d (.apply form parts)

/-- No formatted text stands in the expression. -/
inductive Grammar.Expr.Unformatted : Expr → Prop
  | name (id : String) : Unformatted (.name id)
  | literal (value : Literal) : Unformatted (.literal value)
  | apply {form : Form} {parts : List Expr} (plain : ¬ form.IsFormatted)
    (each : ∀ e ∈ parts, Unformatted e) : Unformatted (.apply form parts)

namespace Grammar.Expr

variable {d e : Expr} {form : Form} {parts : List Expr}

theorem Occurs.trans {c : Expr} (h : c.Occurs d) (h' : d.Occurs e) : c.Occurs e := by
  induction h' with
  | here => exact h
  | inside mem _ ih => exact .inside mem ih

theorem unformatted_apply_iff :
    (Expr.apply form parts).Unformatted ↔ ¬ form.IsFormatted ∧ ∀ e ∈ parts, e.Unformatted := by
  constructor
  · intro h
    cases h with
    | apply plain each => exact ⟨plain, each⟩
  · exact fun h => .apply h.1 h.2

theorem partsFault?_cases (h : ∀ e ∈ parts, e.fault? = none ∨ e.fault? = some .digits) :
    partsFault? parts = none ∨ partsFault? parts = some .digits := by
  induction parts with
  | nil => exact .inl (by simp only [partsFault?])
  | cons e rest ih =>
    obtain ⟨he, hrest⟩ := List.forall_mem_cons.mp h
    rw [partsFault?]
    rcases he with hnone | hdigits
    · rw [hnone, Option.none_or]
      exact ih hrest
    · rw [hdigits, Option.some_or]
      exact .inr rfl

/-- Only a number that is too long has no text then. -/
theorem Unformatted.fault?_cases (h : e.Unformatted) :
    e.fault? = none ∨ e.fault? = some .digits := by
  induction h with
  | name id => exact .inl (by simp only [Expr.fault?])
  | literal value =>
    rw [Expr.fault?]
    unfold Literal.fault?
    split
    · split
      · exact .inl rfl
      · exact .inr rfl
    · exact .inl rfl
  | apply plain _ ih =>
    rw [fault?_apply plain]
    exact partsFault?_cases ih

theorem Unformatted.hasFormatted_eq_false (h : e.Unformatted) : e.hasFormatted = false := by
  induction h with
  | name id => rfl
  | literal value => rfl
  | @apply form parts plain _ ih =>
    have hform : form ≠ .joined := by
      rintro rfl
      exact plain trivial
    simp [Expr.hasFormatted, hform, anyFormatted_eq_false_iff.mpr ih]

/-- Texts in what is read from a source are shorter than the source, outside of formatted texts. -/
theorem Read.length_lt {n : Nat} {codes : List Nat} {marked : Bool} (h : e.Read n)
    (hplain : e.Unformatted) (hd : (Expr.literal (.text codes marked)).Occurs e) :
    codes.length < n := by
  induction hd with
  | here =>
    cases h with
    | text shorter => exact shorter
    | literal noText => cases noText
  | inside mem _ ih =>
    cases h with
    | joined => exact ((unformatted_apply_iff.mp hplain).1 trivial).elim
    | apply _ read => exact ih (read _ mem) ((unformatted_apply_iff.mp hplain).2 _ mem)

end Grammar.Expr

/-! ## What a text spells -/

/-- A text without blanks at its ends is no longer than before. -/
theorem Text.length_dropAround_le {α : Type} (p : α → Bool) (xs : List α) :
    (dropAround p xs).length ≤ xs.length := by
  unfold dropAround
  rw [List.length_reverse]
  refine (List.dropWhile_sublist p).length_le.trans ?_
  rw [List.length_reverse]
  exact (List.dropWhile_sublist p).length_le

/-- What a text spells stands alone, and what it holds was read from a source no longer than the
    text. -/
theorem expressionOfCodes_value {codes : List Nat} {e : Expr} (h : expressionOfCodes codes = .ok e) :
    e.Value codes.length := by
  unfold expressionOfCodes at h
  dsimp only at h
  split at h
  · cases h
  split at h
  · cases h
  split at h
  · next found hparse =>
    cases h
    have hvalue := parseExpression_value hparse
    rw [List.length_map] at hvalue
    exact ⟨hvalue.read.mono (Text.length_dropAround_le _ codes), hvalue.isValue⟩
  · cases h

/-- A text without null characters that cannot be read is no expression, or holds half of a
    character. -/
theorem fault_of_expressionOfCodes {codes : List Nat} {fault : SpellingFault}
    (h : expressionOfCodes codes = .error fault) (noNull : 0 ∉ codes) :
    (∃ shown, fault = .malformed shown) ∨ fault = .surrogate ∧ codes.any isSurrogate = true := by
  have hsub : ∀ code ∈ Text.dropAround Text.isBlankCode codes, code ∈ codes :=
    fun code hcode => Text.mem_of_mem_dropAround hcode
  -- half a character is found first, then a null character, then what does not parse
  unfold expressionOfCodes at h
  dsimp only at h
  split at h
  · next hsurrogate =>
    cases h
    obtain ⟨code, hcode, hhalf⟩ := List.any_eq_true.mp hsurrogate
    exact .inr ⟨rfl, List.any_eq_true.mpr ⟨code, hsub code hcode, hhalf⟩⟩
  split at h
  · next hnull => exact (noNull (hsub 0 (List.contains_iff_mem.mp hnull))).elim
  split at h
  · cases h
  · cases h
    exact .inl ⟨_, rfl⟩

namespace Scope

variable (scope : Scope)

/-! ## The rules -/

/-- What an expression becomes when the texts in it are replaced. -/
inductive Inlines : Expr → Expr → Prop
  | name (id : String) : Inlines (.name id) (.name id)
  | value {value : Literal} (noText : (Expr.literal value).text? = none) :
    Inlines (.literal value) (.literal value)
  /-- A text becomes what the expression becomes that it spells. -/
  | text {codes : List Nat} {marked : Bool} {e type : Expr} (spells : expressionOfCodes codes = .ok e)
    (inlines : Inlines e type) : Inlines (.literal (.text codes marked)) type
  /-- What stands inside `Literal[…]` stays as it is. -/
  | literal {head index : Expr} (form : isOneOf literalForms (scope.denoted head) = true) :
    Inlines (.apply .subscript [head, index]) (.apply .subscript [head, index])
  /-- Of `Annotated[…]` only the first argument is replaced. -/
  | annotated {head first type : Expr} {metadata : List Expr}
    (form : isOneOf annotatedForms (scope.denoted head) = true) (inlines : Inlines first type) :
    Inlines (.apply .subscript [head, .apply .tuple (first :: metadata)])
      (.apply .subscript [head, .apply .tuple (type :: metadata)])
  /-- Brackets of `Annotated` without a comma stay as they are. -/
  | single {head index : Expr} (form : isOneOf annotatedForms (scope.denoted head) = true)
    (single : ∀ first metadata, index ≠ .apply .tuple (first :: metadata)) :
    Inlines (.apply .subscript [head, index]) (.apply .subscript [head, index])
  /-- Of everything else the parts are replaced. -/
  | parts {form : Form} {parts types : List Expr}
    (unshielded : scope.isShielded (.apply form parts) = false)
    (length : parts.length = types.length)
    (each : ∀ e type, (e, type) ∈ parts.zip types → Inlines e type) :
    Inlines (.apply form parts) (.apply form types)

/-- Why the texts in an expression cannot be replaced. -/
inductive Fails : Expr → SpellingFault → Prop
  /-- A text spells no expression. -/
  | unread {codes : List Nat} {marked : Bool} {fault : SpellingFault}
    (unread : expressionOfCodes codes = .error fault) : Fails (.literal (.text codes marked)) fault
  /-- The texts in what a text spells cannot be replaced. -/
  | text {codes : List Nat} {marked : Bool} {e : Expr} {fault : SpellingFault}
    (spells : expressionOfCodes codes = .ok e) (fails : Fails e fault) :
    Fails (.literal (.text codes marked)) fault
  | annotated {head first : Expr} {metadata : List Expr} {fault : SpellingFault}
    (form : isOneOf annotatedForms (scope.denoted head) = true) (fails : Fails first fault) :
    Fails (.apply .subscript [head, .apply .tuple (first :: metadata)]) fault
  /-- The first part that cannot be replaced tells why. -/
  | part {form : Form} {before after : List Expr} {e : Expr} {fault : SpellingFault}
    (unshielded : scope.isShielded (.apply form (before ++ e :: after)) = false)
    (earlier : ∀ p ∈ before, ∃ type, scope.Inlines p type) (fails : Fails e fault) :
    Fails (.apply form (before ++ e :: after)) fault

/-- How the replacement ends. -/
def Outcome (e : Expr) : Except SpellingFault Expr → Prop
  | .ok type => scope.Inlines e type
  | .error fault => scope.Fails e fault

/-- How the replacement in some expressions ends, one after the other. -/
def Outcomes (parts : List Expr) : Except SpellingFault (List Expr) → Prop
  | .ok types => List.Forall₂ scope.Inlines parts types
  | .error fault => ∃ before e after, parts = before ++ e :: after ∧
      (∀ p ∈ before, ∃ type, scope.Inlines p type) ∧ scope.Fails e fault

/-! ## What is met on the way -/

/-- Going through `e`, the replacement comes to an expression. -/
inductive Visits (d : Expr) : Expr → Prop
  | here : Visits d d
  | spelled {codes : List Nat} {marked : Bool} {e : Expr} (spells : expressionOfCodes codes = .ok e)
    (further : Visits d e) : Visits d (.literal (.text codes marked))
  | first {head first : Expr} {metadata : List Expr}
    (form : isOneOf annotatedForms (scope.denoted head) = true) (further : Visits d first) :
    Visits d (.apply .subscript [head, .apply .tuple (first :: metadata)])
  | part {form : Form} {parts : List Expr} {p : Expr}
    (unshielded : scope.isShielded (.apply form parts) = false) (mem : p ∈ parts)
    (further : Visits d p) : Visits d (.apply form parts)

/-- No formatted text and no null character is met on the way through `e`. -/
structure Plain (e : Expr) : Prop where
  unformatted : ∀ d, scope.Visits d e → d.Unformatted
  noNull : ∀ codes marked, scope.Visits (.literal (.text codes marked)) e → 0 ∉ codes

variable {scope}
variable {e d first type : Expr} {form : Form} {parts types metadata : List Expr} {head index : Expr}
  {codes : List Nat} {marked : Bool} {fault : SpellingFault}

/-! ## Plain expressions -/

theorem Visits.trans {c : Expr} (h : scope.Visits c d) (h' : scope.Visits d e) : scope.Visits c e := by
  induction h' with
  | here => exact h
  | spelled spells _ ih => exact .spelled spells ih
  | first form _ ih => exact .first form ih
  | part unshielded mem _ ih => exact .part unshielded mem ih

theorem Plain.of_visits (h : scope.Plain e) (hd : scope.Visits d e) : scope.Plain d :=
  ⟨fun c hc => h.unformatted c (hc.trans hd), fun codes marked hc => h.noNull codes marked (hc.trans hd)⟩

theorem plain_name (id : String) : scope.Plain (.name id) := by
  refine ⟨fun d hd => ?_, fun codes marked hd => ?_⟩
  · cases hd
    exact .name id
  · cases hd

theorem plain_text_iff : scope.Plain (.literal (.text codes marked)) ↔
    0 ∉ codes ∧ ∀ e, expressionOfCodes codes = .ok e → scope.Plain e := by
  constructor
  · exact fun h => ⟨h.noNull codes marked .here, fun e he => h.of_visits (.spelled he .here)⟩
  · rintro ⟨noNull, hspelled⟩
    refine ⟨fun d hd => ?_, fun codes marked hd => ?_⟩
    · cases hd with
      | here => exact .literal _
      | spelled spells further => exact (hspelled _ spells).unformatted d further
    · cases hd with
      | here => exact noNull
      | spelled spells further => exact (hspelled _ spells).noNull _ _ further

/-- A subscript that is not gone through is plain if no formatted text stands in it. -/
theorem plain_of_shielded (hshielded : scope.isShielded (.apply .subscript [head, index]) = true)
    (hplain : (Expr.apply .subscript [head, index]).Unformatted)
    (hfirst : ∀ first metadata, index = .apply .tuple (first :: metadata) → scope.Plain first) :
    scope.Plain (.apply .subscript [head, index]) := by
  refine ⟨fun d hd => ?_, fun codes marked hd => ?_⟩
  · cases hd with
    | here => exact hplain
    | first _ further => exact (hfirst _ _ rfl).unformatted d further
    | part unshielded _ _ => exact Bool.noConfusion (unshielded.symm.trans hshielded)
  · cases hd with
    | first _ further => exact (hfirst _ _ rfl).noNull _ _ further
    | part unshielded _ _ => exact Bool.noConfusion (unshielded.symm.trans hshielded)

/-- An expression whose parts are gone through is plain if they are. -/
theorem plain_of_parts (hform : ¬ form.IsFormatted)
    (hunshielded : scope.isShielded (.apply form parts) = false) (h : ∀ p ∈ parts, scope.Plain p) :
    scope.Plain (.apply form parts) := by
  have hparts : ∀ p ∈ parts, p.Unformatted := fun p hp => (h p hp).unformatted p .here
  refine ⟨fun d hd => ?_, fun codes marked hd => ?_⟩
  · cases hd with
    | here => exact .apply hform hparts
    | first form _ =>
      exact Bool.noConfusion (hunshielded.symm.trans (isShielded_of_annotated form _))
    | part _ mem further => exact (h _ mem).unformatted d further
  · cases hd with
    | first form _ =>
      exact Bool.noConfusion (hunshielded.symm.trans (isShielded_of_annotated form _))
    | part _ mem further => exact (h _ mem).noNull _ _ further

/-! ## The computation follows the rules -/

theorem outcome_bind {r : Except SpellingFault Expr} {f : Expr → Except SpellingFault Expr}
    (h : scope.Outcome d r) (hok : ∀ type, scope.Inlines d type → scope.Outcome e (f type))
    (herror : ∀ fault, scope.Fails d fault → scope.Fails e fault) : scope.Outcome e (r >>= f) := by
  cases r with
  | ok type => exact hok type h
  | error fault => exact herror fault h

/-- What is replaced part by part. -/
theorem outcome_of_parts (hunshielded : scope.isShielded (.apply form parts) = false)
    {r : Except SpellingFault (List Expr)} (h : scope.Outcomes parts r) :
    scope.Outcome (.apply form parts) (r >>= fun types => pure (.apply form types)) := by
  cases r with
  | ok types =>
    obtain ⟨hlength, heach⟩ := List.forall₂_iff_zip.mp h
    exact .parts hunshielded hlength fun _ _ hmem => heach hmem
  | error fault =>
    obtain ⟨before, e, after, rfl, hearlier, hfails⟩ := h
    exact .part hunshielded hearlier hfails

/-- What is replaced in a list, where it begins and in the rest of it. -/
theorem outcomes_cons {r : Except SpellingFault Expr} {rs : Except SpellingFault (List Expr)}
    (h : scope.Outcome e r) (hrest : scope.Outcomes parts rs) :
    scope.Outcomes (e :: parts) (r >>= fun type => rs >>= fun types => pure (type :: types)) := by
  cases r with
  | error fault => exact ⟨[], e, parts, rfl, by simp, h⟩
  | ok type =>
    cases rs with
    | ok types => exact .cons h hrest
    | error fault =>
      obtain ⟨before, d, after, rfl, hearlier, hfails⟩ := hrest
      exact ⟨e :: before, d, after, rfl, List.forall_mem_cons.mpr ⟨⟨type, h⟩, hearlier⟩, hfails⟩

theorem inlineAll_outcomes {spelled : List Nat → Except SpellingFault Expr}
    (h : ∀ p ∈ parts, scope.Outcome p (scope.inlineWith spelled p)) :
    scope.Outcomes parts (scope.inlineAll spelled parts) := by
  induction parts with
  | nil =>
    unfold inlineAll
    exact .nil
  | cons p rest ih =>
    obtain ⟨hp, hrest⟩ := List.forall_mem_cons.mp h
    unfold inlineAll
    exact outcomes_cons hp (ih hrest)

/-- **Replacing follows the rules if the replacement of texts does.** By induction on the
    replacement. Of the texts in the expression a property `P` may be used. -/
theorem inlineWith_outcome {spelled : List Nat → Except SpellingFault Expr} {P : List Nat → Prop}
    (hspelled : ∀ codes marked, scope.Plain (.literal (.text codes marked)) → P codes →
      scope.Outcome (.literal (.text codes marked)) (spelled codes)) (h : scope.Plain e)
    (hP : ∀ codes marked, (Expr.literal (.text codes marked)).Occurs e → P codes) :
    scope.Outcome e (scope.inlineWith spelled e) := by
  induction e using scope.replacement_induction with
  | name id =>
    rw [inlineWith_name]
    exact .name id
  | text codes marked =>
    rw [inlineWith_text]
    exact hspelled codes marked h (hP codes marked .here)
  | value value noText =>
    rw [inlineWith_value spelled noText]
    exact .value noText
  | literal head index form =>
    rw [inlineWith_of_literal spelled form]
    exact .literal form
  -- only the first argument is looked into
  | annotated head first metadata form ih =>
    rw [inlineWith_of_annotated spelled form]
    have hoccurs : first.Occurs (.apply .subscript [head, .apply .tuple (first :: metadata)]) :=
      .inside (.tail _ (.head _)) (.inside (.head _) .here)
    have hfirst := ih (h.of_visits (.first form .here)) fun codes marked hd =>
      hP codes marked (hd.trans hoccurs)
    exact outcome_bind hfirst (fun _ htype => .annotated form htype)
      fun _ hfault => .annotated form hfault
  | single head index form single =>
    rw [inlineWith_of_single spelled form single]
    exact .single form single
  | parts form parts unshielded ih =>
    rw [inlineWith_of_unshielded spelled unshielded]
    refine outcome_of_parts unshielded (inlineAll_outcomes fun p hp => ?_)
    exact ih p hp (h.of_visits (.part unshielded hp .here)) fun codes marked hd =>
      hP codes marked (.inside hp hd)

/-- A text is replaced by the rules if the fuel exceeds its length. By induction on the fuel: the
    texts in what a text spells are shorter. -/
theorem inlineText_outcome (fuel : Nat) :
    ∀ codes marked, scope.Plain (.literal (.text codes marked)) → codes.length < fuel →
      scope.Outcome (.literal (.text codes marked)) (scope.inlineText fuel codes) := by
  induction fuel with
  | zero => exact fun codes marked _ hlt => absurd hlt (Nat.not_lt_zero _)
  | succ fuel ih =>
    intro codes marked h hlt
    unfold inlineText
    cases hspells : expressionOfCodes codes with
    | error fault => exact .unread hspells
    | ok e =>
      have he : scope.Plain e := (plain_text_iff.mp h).2 e hspells
      -- the texts in what was spelled are shorter than the text, so the fuel lasts
      have hshort : ∀ codes' marked', (Expr.literal (.text codes' marked')).Occurs e →
          codes'.length < fuel := fun codes' marked' hd => by
        have hread := (expressionOfCodes_value hspells).read
        exact (hread.length_lt (he.unformatted e .here) hd).trans_le (Nat.le_of_lt_succ hlt)
      have houtcome := inlineWith_outcome ih he hshort
      show scope.Outcome _ (scope.inlineWith (scope.inlineText fuel) e)
      cases hresult : scope.inlineWith (scope.inlineText fuel) e with
      | ok type =>
        rw [hresult] at houtcome
        exact .text hspells houtcome
      | error fault =>
        rw [hresult] at houtcome
        exact .text hspells houtcome

/-- **The texts in a plain expression are replaced by the rules**, or it is told by the rules why
    they cannot be: the computation never runs out of fuel. -/
theorem inlined_outcome (h : scope.Plain e) : scope.Outcome e (scope.inlined e) := by
  have hspelled : ∀ codes marked, scope.Plain (.literal (.text codes marked)) → True →
      scope.Outcome (.literal (.text codes marked)) (scope.inlineText (codes.length + 1) codes) :=
    fun codes marked htext _ => inlineText_outcome _ codes marked htext (Nat.lt_succ_self _)
  exact inlineWith_outcome hspelled h fun _ _ _ => trivial

theorem inlines_of_inlined (h : scope.Plain e) (hinlined : scope.inlined e = .ok type) :
    scope.Inlines e type := by
  have houtcome := inlined_outcome h
  rw [hinlined] at houtcome
  exact houtcome

/-! ## What comes out -/

/-- No formatted text comes in. -/
theorem Inlines.unformatted (h : scope.Inlines e type) (he : scope.Plain e) : type.Unformatted := by
  induction h with
  | name id => exact .name id
  | value _ => exact .literal _
  | text spells _ ih => exact ih (he.of_visits (.spelled spells .here))
  | literal _ => exact he.unformatted _ .here
  | @annotated head first type metadata form _ ih =>
    have hparts := (Expr.unformatted_apply_iff.mp (he.unformatted _ .here)).2
    have htuple := Expr.unformatted_apply_iff.mp (hparts _ (.tail _ (.head _)))
    have hfirst := ih (he.of_visits (.first form .here))
    have hmetadata := (List.forall_mem_cons.mp htuple.2).2
    refine .apply id (List.forall_mem_cons.mpr ⟨hparts _ (.head _), List.forall_mem_singleton.mpr ?_⟩)
    exact .apply id (List.forall_mem_cons.mpr ⟨hfirst, hmetadata⟩)
  | single _ _ => exact he.unformatted _ .here
  -- part by part, and the form is none of a formatted text
  | @parts form parts types unshielded length each ih =>
    have htypes : List.Forall₂ (fun e type => scope.Plain e → type.Unformatted) parts types :=
      List.forall₂_iff_zip.mpr ⟨length, fun hmem => ih _ _ hmem⟩
    refine .apply (Expr.unformatted_apply_iff.mp (he.unformatted _ .here)).1 fun type htype => ?_
    obtain ⟨e, hmem, hto⟩ := exists_left_of_forall₂ htypes htype
    exact hto (he.of_visits (.part unshielded hmem .here))

/-- What comes out has a text if all that is met on the way has one. -/
theorem Inlines.fault?_eq_none (h : scope.Inlines e type) (he : scope.Plain e)
    (hprinted : ∀ d, scope.Visits d e → d.fault? = none) : type.fault? = none := by
  induction h with
  | name id => exact hprinted _ .here
  | value _ => exact hprinted _ .here
  | text spells _ ih =>
    exact ih (he.of_visits (.spelled spells .here)) fun d hd => hprinted d (.spelled spells hd)
  | literal _ => exact hprinted _ .here
  -- the metadata are printed as they were
  | @annotated head first type metadata form _ ih =>
    have hfirst := ih (he.of_visits (.first form .here)) fun d hd => hprinted d (.first form hd)
    have hparts := hprinted _ .here
    rw [fault?_apply id, partsFault?_eq_none_iff, List.forall_mem_cons, List.forall_mem_singleton,
      fault?_apply id, partsFault?_eq_none_iff, List.forall_mem_cons] at hparts ⊢
    exact ⟨hparts.1, hfirst, hparts.2.2⟩
  | single _ _ => exact hprinted _ .here
  | @parts form parts types unshielded length each ih =>
    have hform := (Expr.unformatted_apply_iff.mp (he.unformatted _ .here)).1
    have htypes : List.Forall₂ (fun e type => scope.Plain e →
        (∀ d, scope.Visits d e → d.fault? = none) → type.fault? = none) parts types :=
      List.forall₂_iff_zip.mpr ⟨length, fun hmem => ih _ _ hmem⟩
    rw [fault?_apply hform, partsFault?_eq_none_iff]
    intro type htype
    obtain ⟨e, hmem, hto⟩ := exists_left_of_forall₂ htypes htype
    exact hto (he.of_visits (.part unshielded hmem .here)) fun d hd =>
      hprinted d (.part unshielded hmem hd)

/-- What is replaced by something without a text holds a number that is too long, or a text in it
    spells one. -/
theorem Inlines.exists_digits (h : scope.Inlines e type) (he : scope.Plain e)
    (hfault : type.fault? ≠ none) : ∃ d, scope.Visits d e ∧ d.fault? = some .digits := by
  by_contra hnot
  refine hfault (h.fault?_eq_none he fun d hd => ?_)
  rcases (he.unformatted d hd).fault?_cases with hnone | hdigits
  · exact hnone
  · exact absurd ⟨d, hd, hdigits⟩ hnot

/-- What stands alone is replaced by something that does. -/
theorem Inlines.isValue (h : scope.Inlines e type) (he : e.IsValue) : type.IsValue := by
  induction h with
  | name _ => trivial
  | value _ => trivial
  | text spells _ ih => exact ih (expressionOfCodes_value spells).isValue
  | literal _ => trivial
  | annotated _ _ _ => trivial
  | single _ _ => trivial
  | @parts form _ _ _ _ _ _ => cases form <;> exact he

/-- A plain expression that cannot be replaced holds a text that is no expression, or one with half
    of a character. -/
theorem Fails.cause (h : scope.Fails e fault) (he : scope.Plain e) :
    (∃ shown, fault = .malformed shown) ∨ fault = .surrogate ∧
      ∃ codes marked, scope.Visits (.literal (.text codes marked)) e ∧
        codes.any isSurrogate = true := by
  -- the fault comes from a text that is visited, however deep it stands
  induction h with
  | @unread codes marked fault unread =>
    rcases fault_of_expressionOfCodes unread (plain_text_iff.mp he).1 with hmalformed | ⟨hfault, hhalf⟩
    · exact .inl hmalformed
    · exact .inr ⟨hfault, codes, marked, .here, hhalf⟩
  | text spells _ ih =>
    refine (ih (he.of_visits (.spelled spells .here))).imp_right ?_
    rintro ⟨hfault, codes, marked, hvisits, hhalf⟩
    exact ⟨hfault, codes, marked, .spelled spells hvisits, hhalf⟩
  | annotated form _ ih =>
    refine (ih (he.of_visits (.first form .here))).imp_right ?_
    rintro ⟨hfault, codes, marked, hvisits, hhalf⟩
    exact ⟨hfault, codes, marked, .first form hvisits, hhalf⟩
  | @part form before after e fault unshielded _ _ ih =>
    have hmem : e ∈ before ++ e :: after := List.mem_append_right _ List.mem_cons_self
    refine (ih (he.of_visits (.part unshielded hmem .here))).imp_right ?_
    rintro ⟨hfault, codes, marked, hvisits, hhalf⟩
    exact ⟨hfault, codes, marked, .part unshielded hmem hvisits, hhalf⟩

end Scope

end Waymark

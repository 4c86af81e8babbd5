import Mathlib.Data.List.Forall2
import Waymark.Proofs.ImportedNames
import Waymark.Proofs.TextReplacement

/-! # Two scopes for the same declarations

    The decorators and the contracts of the library can be imported in many ways, and each way
    has its own expressions for them. This module compares two expressions that differ in nothing
    but this (`Expr.Respelled`), each in the scope of its module.

    The two scopes agree in all that is not imported from the library, and where they do not
    agree, both lead into the library (`Scope.Agrees`). No form of type is there, so the scopes
    tell the same expressions to be forms, and texts in type arguments are replaced alike. What
    two spellings of an expression denote is the same, and so is the segment that they give as
    decorators, and whether they refer to the enclosing endpoint.
-/

namespace Waymark

open Waymark.Grammar

/-! ## Scopes that agree -/

/-- The qualified name is that of the library or of something in it. -/
def IsInside (path : String) : Prop :=
  path = "shapi" ∨ ∃ rest, path = "shapi" ++ "." ++ rest

/-- Two expressions that are the same but for how they refer to markers, where `refer` says when
    two expressions refer to the same one. Nothing else in them mentions the names, and nothing
    in a formatted text differs. -/
inductive Grammar.Expr.Respelled (refer : Expr → Expr → Prop) (names : List String) :
    Expr → Expr → Prop
  | same {e : Expr} (free : ∀ name ∈ names, name ∉ e.names) : Expr.Respelled refer names e e
  | marker {e e' : Expr} (both : refer e e') : Expr.Respelled refer names e e'
  | apply {form : Form} {parts parts' : List Expr} (plain : ¬ form.IsFormatted)
    (length : parts.length = parts'.length)
    (each : ∀ e e', (e, e') ∈ parts.zip parts' → Expr.Respelled refer names e e') :
    Expr.Respelled refer names (.apply form parts) (.apply form parts')

theorem topName_of_isInside {path : String} (h : IsInside path) : topName path = "shapi" := by
  rcases h with rfl | ⟨rest, rfl⟩
  · decide
  · exact topName_append_dot (by decide) rest

theorem IsInside.member {path : String} (h : IsInside path) (name : String) :
    IsInside (path ++ "." ++ name) := by
  rcases h with rfl | ⟨rest, rfl⟩
  · exact .inr ⟨name, rfl⟩
  · exact .inr ⟨rest ++ "." ++ name, by simp only [String.append_assoc]⟩

/-- The qualified name, if there is one, is in the library. -/
def AllInside (qualified : Option String) : Prop :=
  ∀ path, qualified = some path → IsInside path

/-- Two imported names, each with attributes behind it, denote the same in their scopes. -/
inductive Scope.SameMarker (scope scope' : Scope) : Expr → Expr → Prop
  | intro {name name' path : String} {attributes attributes' : List String}
    (first : scope.denoted (.dotted name attributes) = some path)
    (second : scope'.denoted (.dotted name' attributes') = some path) :
    SameMarker scope scope' (.dotted name attributes) (.dotted name' attributes')

/-- The scopes of two spellings: they bind all but the names alike, the names are in the library
    in both, and what refers to the same marker denotes the same. -/
structure Scope.Agrees (refer : Expr → Expr → Prop) (names : List String) (scope scope' : Scope) :
    Prop where
  module : scope.module = scope'.module
  others : ∀ name ∉ names, scope.denoted (.name name) = scope'.denoted (.name name)
  first : ∀ name ∈ names, AllInside (scope.denoted (.name name))
  second : ∀ name ∈ names, AllInside (scope'.denoted (.name name))
  marked : ∀ e e', refer e e' → scope.SameMarker scope' e e'

section

variable {refer : Expr → Expr → Prop} {names : List String} {scope scope' : Scope}

/-- What is denoted goes on to an attribute. -/
theorem AllInside.step {qualified : Option String} (h : AllInside qualified) (name : String) :
    AllInside ((qualified.bind nonEmpty).map fun base => base ++ "." ++ name) := by
  intro path hpath
  obtain ⟨base, hbase, rfl⟩ := Option.map_eq_some_iff.mp hpath
  obtain ⟨found, hfound, hkept⟩ := Option.bind_eq_some_iff.mp hbase
  unfold nonEmpty at hkept
  split at hkept
  · cases hkept
  · cases hkept
    exact (h _ hfound).member name

theorem Scope.denoted_eq_none {e : Expr} (hname : ∀ id, e = .name id → False)
    (hattribute : ∀ name value rest, e = .apply (.attribute name) (value :: rest) → False)
    (hcall : ∀ positional keywords function rest,
      e = .apply (.call positional keywords) (function :: rest) → False) :
    scope.denoted e = none := by
  rw [Scope.denoted]
  · exact hname
  · exact hattribute
  · exact hcall

/-- Without the names an expression denotes the same in both scopes. -/
theorem Scope.Agrees.denoted_of_free (h : Scope.Agrees refer names scope scope') (e : Expr)
    (hfree : ∀ name ∈ names, name ∉ e.names) : scope.denoted e = scope'.denoted e := by
  induction e using Scope.denoted.induct with
  | case1 id =>
    have hid : id ∉ names := fun hmem => hfree id hmem (List.mem_singleton.mpr rfl)
    exact h.others id hid
  | case2 name value rest ih =>
    have hvalue : ∀ name ∈ names, name ∉ value.names := fun name hname hmem =>
      hfree name hname (List.mem_append_left _ hmem)
    rw [Scope.denoted, Scope.denoted, ih hvalue]
  | case3 positional keywords function rest ih =>
    have hfunction : ∀ name ∈ names, name ∉ function.names := fun name hname hmem =>
      hfree name hname (List.mem_append_left _ hmem)
    rw [Scope.denoted, Scope.denoted, ih hfunction]
  | case4 e hname hattribute hcall =>
    rw [Scope.denoted_eq_none hname hattribute hcall, Scope.denoted_eq_none hname hattribute hcall]

/-- Where the scopes do not agree, they lead into the library. -/
theorem Scope.Agrees.denoted_eq_or_inside (h : Scope.Agrees refer names scope scope') (e : Expr) :
    scope.denoted e = scope'.denoted e ∨
      AllInside (scope.denoted e) ∧ AllInside (scope'.denoted e) := by
  -- the first name decides, and attributes and calls go along with it
  induction e using Scope.denoted.induct with
  | case1 id =>
    by_cases hid : id ∈ names
    · exact .inr ⟨h.first id hid, h.second id hid⟩
    · exact .inl (h.others id hid)
  | case2 name value rest ih =>
    rw [Scope.denoted, Scope.denoted]
    rcases ih with heq | ⟨hfirst, hsecond⟩
    · rw [heq]
      exact .inl rfl
    · exact .inr ⟨hfirst.step name, hsecond.step name⟩
  | case3 positional keywords function rest ih =>
    rw [Scope.denoted, Scope.denoted]
    exact ih
  | case4 e hname hattribute hcall =>
    rw [Scope.denoted_eq_none hname hattribute hcall, Scope.denoted_eq_none hname hattribute hcall]
    exact .inl rfl

/-- No form of type is in the library, so the scopes tell the same expressions to be one. -/
theorem Scope.Agrees.isOneOf_congr (h : Scope.Agrees refer names scope scope') {forms : List String}
    (hforms : ∀ form ∈ forms, topName form ≠ "shapi") (e : Expr) :
    isOneOf forms (scope.denoted e) = isOneOf forms (scope'.denoted e) := by
  have hnone : ∀ {qualified : Option String}, AllInside qualified →
      isOneOf forms qualified = false := by
    intro qualified hinside
    cases qualified with
    | none => rfl
    | some path =>
      have hpath : path ∉ forms := fun hmem =>
        hforms path hmem (topName_of_isInside (hinside path rfl))
      simpa [isOneOf] using hpath
  rcases h.denoted_eq_or_inside e with heq | ⟨hfirst, hsecond⟩
  · rw [heq]
  · rw [hnone hfirst, hnone hsecond]

/-! ## Type arguments -/

theorem Scope.inlineAll_congr {spelled : List Nat → Except SpellingFault Expr} {parts : List Expr}
    (h : ∀ p ∈ parts, scope.inlineWith spelled p = scope'.inlineWith spelled p) :
    scope.inlineAll spelled parts = scope'.inlineAll spelled parts := by
  induction parts with
  | nil => simp only [Scope.inlineAll]
  | cons p rest ih =>
    obtain ⟨hp, hrest⟩ := List.forall_mem_cons.mp h
    simp only [Scope.inlineAll, hp, ih hrest]

/-- Where the scopes tell the same expressions to be forms, texts are replaced alike. By induction
    on the replacement. -/
theorem Scope.Agrees.inlineWith_eq (h : Scope.Agrees refer names scope scope')
    (spelled : List Nat → Except SpellingFault Expr) (e : Expr) :
    scope.inlineWith spelled e = scope'.inlineWith spelled e := by
  -- the forms that shield their arguments are not those of the package, so both scopes know them
  have hliteral : ∀ e, isOneOf literalForms (scope.denoted e)
      = isOneOf literalForms (scope'.denoted e) := h.isOneOf_congr (by decide)
  have hannotated : ∀ e, isOneOf annotatedForms (scope.denoted e)
      = isOneOf annotatedForms (scope'.denoted e) := h.isOneOf_congr (by decide)
  have hshielded : ∀ e, scope.isShielded e = scope'.isShielded e := fun e => by
    unfold Scope.isShielded
    simp only [hliteral, hannotated]
  induction e using scope.replacement_induction with
  | name id => rw [inlineWith_name, inlineWith_name]
  | text codes marked => rw [inlineWith_text, inlineWith_text]
  | value value noText => rw [inlineWith_value spelled noText, inlineWith_value spelled noText]
  | literal head index form =>
    rw [inlineWith_of_literal spelled form, inlineWith_of_literal spelled (hliteral head ▸ form)]
  | annotated head first metadata form ih =>
    rw [inlineWith_of_annotated spelled form,
      inlineWith_of_annotated spelled (hannotated head ▸ form), ih]
  | single head index form single =>
    rw [inlineWith_of_single spelled form single,
      inlineWith_of_single spelled (hannotated head ▸ form) single]
  | parts form parts unshielded ih =>
    rw [inlineWith_of_unshielded spelled unshielded,
      inlineWith_of_unshielded spelled (hshielded _ ▸ unshielded), inlineAll_congr ih]

theorem Scope.Agrees.inlineText_eq (h : Scope.Agrees refer names scope scope') (fuel : Nat) :
    scope.inlineText fuel = scope'.inlineText fuel := by
  induction fuel with
  | zero => rfl
  | succ fuel ih =>
    funext codes
    rw [Scope.inlineText, Scope.inlineText, ih]
    exact congrArg _ (funext (h.inlineWith_eq _))

/-- A type argument spells the same type in both scopes. -/
theorem Scope.Agrees.typeOf_eq (h : Scope.Agrees refer names scope scope') (e : Expr) :
    TypeArgument.typeOf scope e = TypeArgument.typeOf scope' e := by
  have hinlined : ∀ e, scope.inlined e = scope'.inlined e := by
    intro e
    unfold Scope.inlined
    simp only [h.inlineText_eq]
    exact h.inlineWith_eq _ e
  unfold TypeArgument.typeOf
  exact congrArg _ (funext hinlined)

theorem Scope.Agrees.argument_eq (h : Scope.Agrees refer names scope scope') (e : Expr) :
    TypeArgument.read scope e = TypeArgument.read scope' e := by
  unfold TypeArgument.read
  rw [h.typeOf_eq]

theorem Scope.Agrees.fatal?_eq (h : Scope.Agrees refer names scope scope') (e : Expr) :
    TypeArgument.fatal? scope e = TypeArgument.fatal? scope' e := by
  unfold TypeArgument.fatal?
  rw [h.typeOf_eq]

/-- An annotation is that of a class variable in both scopes, or in none. -/
theorem Scope.Agrees.isClassVariable_eq (h : Scope.Agrees refer names scope scope') (e : Expr) :
    isClassVariable scope e = isClassVariable scope' e := by
  unfold isClassVariable
  rw [h.isOneOf_congr (by decide)]

/-! ## Expressions -/

/-- A name with attributes behind it is a name or an attribute. -/
theorem Grammar.Expr.dotted_cases (name : String) (attributes : List String) :
    Expr.dotted name attributes = .name name ∨
      ∃ member e, Expr.dotted name attributes = .apply (.attribute member) [e] := by
  rcases List.eq_nil_or_concat attributes with rfl | ⟨before, member, rfl⟩
  · exact .inl rfl
  · right
    unfold Expr.dotted
    rw [List.concat_eq_append, List.foldl_append]
    exact ⟨member, _, rfl⟩

theorem hasText_dotted (name : String) (attributes : List String) :
    HasText (.dotted name attributes) := by
  -- one attribute after the other
  have hfold : ∀ (members : List String) (e : Expr), HasText e →
      HasText (members.foldl (fun e member => .apply (.attribute member) [e]) e) := by
    intro members
    induction members with
    | nil => exact fun e he => he
    | cons member rest ih =>
      intro e he
      have hparts : ∀ part ∈ [e], HasText part := by
        intro part hpart
        rwa [List.mem_singleton.mp hpart]
      exact ih _ (hasText_apply id hparts)
  have hname : HasText (.name name) := by
    unfold HasText
    simp only [Expr.fault?]
  exact hfold attributes (.name name) hname

/-- The expression is not the call of something. -/
def Grammar.Expr.IsNoCall (e : Expr) : Prop :=
  ∀ positional keywords function arguments,
    e ≠ .apply (.call positional keywords) (function :: arguments)

theorem Grammar.Expr.IsNoCall.pathArgument_eq {e : Expr} (h : e.IsNoCall) :
    pathArgument e = none := by
  unfold pathArgument
  split
  · exact absurd rfl (h _ _ _ _)
  · rfl

theorem Grammar.Expr.IsNoCall.isParentCall_eq {e : Expr} (h : e.IsNoCall) :
    isParentCall scope e = false := by
  unfold isParentCall
  split
  · exact absurd rfl (h _ _ _ _)
  · rfl

theorem mem_namesAll {parts : List Expr} {part : Expr} (h : part ∈ parts) {name : String}
    (hname : name ∈ part.names) : name ∈ Expr.namesAll parts := by
  induction parts with
  | nil => cases h
  | cons first rest ih =>
    rw [Expr.namesAll, List.mem_append]
    rcases List.mem_cons.mp h with rfl | h
    · exact .inl hname
    · exact .inr (ih h)

theorem text?_lookup {keywords : List (Option String)} {es es' : List Expr}
    (hes : List.Forall₂ (fun e e' => e.text? = e'.text?) es es') (key : Option String) :
    ((keywords.zip es).lookup key).bind Expr.text?
      = ((keywords.zip es').lookup key).bind Expr.text? := by
  induction hes generalizing keywords with
  | nil => rfl
  | cons hfirst _ ih =>
    cases keywords with
    | nil => rfl
    | cons other rest =>
      rw [List.zip_cons_cons, List.zip_cons_cons, List.lookup_cons, List.lookup_cons]
      split
      · exact hfirst
      · exact ih

section

variable (h : Scope.Agrees refer names scope scope')

include h

/-- The two spellings denote the same. By induction on how they differ. -/
theorem Grammar.Expr.Respelled.denoted_eq {e e' : Expr} (hr : e.Respelled refer names e') :
    scope.denoted e = scope'.denoted e' := by
  induction hr with
  | same free => exact h.denoted_of_free _ free
  | marker both =>
    cases h.marked _ _ both with
    | intro first second => rw [first, second]
  | @apply form parts parts' plain length each ih =>
    -- only the first part has to do with what is denoted
    cases parts with
    | nil =>
      obtain rfl : parts' = [] := List.length_eq_zero_iff.mp length.symm
      cases form <;> rfl
    | cons value rest =>
      cases parts' with
      | nil => cases length
      | cons value' rest' =>
        have hvalue : scope.denoted value = scope'.denoted value' :=
          ih value value' List.mem_cons_self
        have hforms : (∃ name, form = .attribute name) ∨
            (∃ positional keywords, form = .call positional keywords) ∨
            (∀ name, form ≠ .attribute name) ∧
              ∀ positional keywords, form ≠ .call positional keywords := by
          cases form <;> simp
        rcases hforms with ⟨name, rfl⟩ | ⟨positional, keywords, rfl⟩ | ⟨hattribute, hcall⟩
        · rw [Scope.denoted, Scope.denoted, hvalue]
        · rw [Scope.denoted, Scope.denoted, hvalue]
        · have hnone : ∀ (scope : Scope) (e : Expr) (es : List Expr),
              scope.denoted (.apply form (e :: es)) = none := by
            intro scope e es
            refine Scope.denoted_eq_none (fun id heq => by cases heq) ?_ ?_
            · intro name e es heq
              cases heq
              exact hattribute name rfl
            · intro positional keywords e es heq
              cases heq
              exact hcall positional keywords rfl
          rw [hnone, hnone]

/-- The two spellings are the same text, if they are one. -/
theorem Grammar.Expr.Respelled.text?_eq {e e' : Expr} (hr : e.Respelled refer names e') :
    e.text? = e'.text? := by
  have hdotted : ∀ name attributes, (Expr.dotted name attributes).text? = none := by
    intro name attributes
    rcases Expr.dotted_cases name attributes with heq | ⟨member, e, heq⟩
    · rw [heq]
      rfl
    · rw [heq]
      rfl
  cases hr with
  | same free => rfl
  | marker both =>
    cases h.marked _ _ both with
    | intro first second => rw [hdotted, hdotted]
  | apply plain length each => rfl

theorem Grammar.Expr.Respelled.hasText_iff {e e' : Expr} (hr : e.Respelled refer names e') :
    HasText e ↔ HasText e' := by
  induction hr with
  | same free => rfl
  | marker both =>
    cases h.marked _ _ both with
    | intro first second => exact iff_of_true (hasText_dotted _ _) (hasText_dotted _ _)
  | @apply form parts parts' plain length each ih =>
    have hparts : List.Forall₂ (fun e e' => HasText e ↔ HasText e') parts parts' :=
      List.forall₂_iff_zip.mpr ⟨length, fun hmem => ih _ _ hmem⟩
    -- the parts of one are those of the other, one by one
    have hall : (∀ e ∈ parts, HasText e) ↔ ∀ e ∈ parts', HasText e := by
      clear each ih length
      induction hparts with
      | nil => simp
      | cons hfirst _ ih => simp only [List.forall_mem_cons, hfirst, ih]
    unfold HasText at hall ⊢
    rw [fault?_apply plain, fault?_apply plain, partsFault?_eq_none_iff, partsFault?_eq_none_iff]
    exact hall

/-! ## Decorators and fields -/

/-- The two spellings are calls, of two spellings of a function with two spellings of the
    arguments, or neither is a call. -/
theorem Grammar.Expr.Respelled.call_cases {e e' : Expr} (hr : e.Respelled refer names e') :
    (∃ positional keywords function function' arguments arguments',
      e = .apply (.call positional keywords) (function :: arguments) ∧
      e' = .apply (.call positional keywords) (function' :: arguments') ∧
      function.Respelled refer names function' ∧
      List.Forall₂ (Expr.Respelled refer names) arguments arguments') ∨
    e.IsNoCall ∧ e'.IsNoCall := by
  cases hr with
  | same free =>
    by_cases hcall : e.IsNoCall
    · exact .inr ⟨hcall, hcall⟩
    · unfold Expr.IsNoCall at hcall
      push Not at hcall
      obtain ⟨positional, keywords, function, arguments, rfl⟩ := hcall
      have hpart : ∀ part ∈ function :: arguments, part.Respelled refer names part :=
        fun part hpart => .same fun name hname hmem => free name hname (mem_namesAll hpart hmem)
      have harguments : List.Forall₂ (Expr.Respelled refer names) arguments arguments :=
        List.forall₂_same.mpr fun part hmem => hpart part (List.mem_cons_of_mem _ hmem)
      exact .inl ⟨positional, keywords, function, function, arguments, arguments, rfl, rfl,
        hpart function List.mem_cons_self, harguments⟩
  | marker both =>
    -- a marker is a dotted name, and no call is one
    have hdotted : ∀ name attributes, (Expr.dotted name attributes).IsNoCall := by
      intro name attributes positional keywords function arguments heq
      rcases Expr.dotted_cases name attributes with hname | ⟨member, e, hmember⟩
      · rw [hname] at heq
        cases heq
      · rw [hmember] at heq
        cases heq
    cases h.marked _ _ both with
    | intro first second => exact .inr ⟨hdotted _ _, hdotted _ _⟩
  | @apply form parts parts' plain length each =>
    have hparts : List.Forall₂ (Expr.Respelled refer names) parts parts' :=
      List.forall₂_iff_zip.mpr ⟨length, fun hmem => each _ _ hmem⟩
    by_cases hform : ∃ positional keywords, form = .call positional keywords
    · obtain ⟨positional, keywords, rfl⟩ := hform
      cases hparts with
      | nil =>
        right
        constructor <;> intro positional keywords function arguments heq <;> cases heq
      | @cons function function' arguments arguments' hfunction harguments =>
        exact .inl ⟨positional, keywords, function, function', arguments, arguments', rfl, rfl,
          hfunction, harguments⟩
    · right
      constructor
      all_goals
        intro positional keywords function arguments heq
        cases heq
        exact hform ⟨positional, keywords, rfl⟩

/-- The two spellings of a decorator give the same segment. -/
theorem Grammar.Expr.Respelled.segmentCodes_eq {e e' : Expr} (hr : e.Respelled refer names e') :
    segmentCodes e = segmentCodes e' := by
  have htext : (pathArgument e).bind Expr.text? = (pathArgument e').bind Expr.text? := by
    rcases hr.call_cases h with ⟨positional, keywords, function, function', arguments, arguments',
      rfl, rfl, -, harguments⟩ | ⟨hcall, hcall'⟩
    · have htexts : List.Forall₂ (fun e e' => e.text? = e'.text?) arguments arguments' :=
        harguments.imp fun e e' hr => hr.text?_eq h
      -- the path is the first argument, or one that is given by name
      by_cases hpositional : positional > 0
      · simp only [pathArgument, if_pos hpositional]
        cases htexts with
        | nil => rfl
        | cons hfirst _ => exact hfirst
      · simp only [pathArgument, if_neg hpositional]
        exact text?_lookup (List.forall₂_drop positional htexts) _
    · rw [hcall.pathArgument_eq, hcall'.pathArgument_eq]
  have hcodes : ∀ e, segmentCodes e = ((pathArgument e).bind Expr.text?).map
      fun codes => Text.dropAround Text.isBlankCode codes := by
    intro e
    unfold segmentCodes
    cases hargument : pathArgument e with
    | none => rfl
    | some argument =>
      show (argument.text?.bind fun codes => some (Text.dropAround Text.isBlankCode codes)) = _
      cases htext : argument.text? with
      | none => simp [htext]
      | some codes => simp [htext]
  rw [hcodes, hcodes, htext]

/-- The two spellings are a reference to the enclosing endpoint, or none is. -/
theorem Grammar.Expr.Respelled.isParentCall_eq {e e' : Expr} (hr : e.Respelled refer names e') :
    isParentCall scope e = isParentCall scope' e' := by
  rcases hr.call_cases h with ⟨positional, keywords, function, function', arguments, arguments',
    rfl, rfl, hfunction, -⟩ | ⟨hcall, hcall'⟩
  · simp only [isParentCall, hfunction.denoted_eq h]
  · rw [hcall.isParentCall_eq, hcall'.isParentCall_eq]

/-- The two spellings of the decorators of a class make it an endpoint with the same segment. -/
theorem endpointDecorator_respelled {decorators decorators' : List Expr}
    (hr : List.Forall₂ (Expr.Respelled refer names) decorators decorators') :
    Option.Rel (Expr.Respelled refer names) (endpointDecorator scope decorators)
      (endpointDecorator scope' decorators') := by
  unfold endpointDecorator
  induction hr with
  | nil => exact .none
  | @cons e e' rest rest' hfirst _ ih =>
    rw [List.find?_cons, List.find?_cons, hfirst.denoted_eq h]
    split
    · exact .some hfirst
    · exact ih

/-- The two spellings of the decorators of a class mark it as a capability, or none does. -/
theorem isMarked_respelled {decorators decorators' : List Expr} (marker : String)
    (hr : List.Forall₂ (Expr.Respelled refer names) decorators decorators') :
    (decorators.any fun d => scope.denoted d == some marker)
      = decorators'.any fun d => scope'.denoted d == some marker := by
  induction hr with
  | nil => rfl
  | cons hfirst _ ih => rw [List.any_cons, List.any_cons, hfirst.denoted_eq h, ih]

theorem isEndpointClass_respelled {decorators decorators' : List Expr}
    (hr : List.Forall₂ (Expr.Respelled refer names) decorators decorators') :
    isEndpointClass scope decorators = isEndpointClass scope' decorators' := by
  have hdecorator := endpointDecorator_respelled h hr
  unfold isEndpointClass
  generalize endpointDecorator scope decorators = found at hdecorator ⊢
  generalize endpointDecorator scope' decorators' = found' at hdecorator ⊢
  cases hdecorator with
  | none => rfl
  | some _ => rfl

/-- The two spellings of a field declare the same field. -/
theorem field_respelled {value value' : Option Expr} (name : String) (typeExpr : Expr)
    (hr : Option.Rel (Expr.Respelled refer names) value value') :
    Field.read? scope name typeExpr value = Field.read? scope' name typeExpr value' := by
  have hparent : value.any (isParentCall scope) = value'.any (isParentCall scope') := by
    cases hr with
    | none => rfl
    | some hvalue => exact hvalue.isParentCall_eq h
  have hsome : value.isSome = value'.isSome := by
    cases hr with
    | none => rfl
    | some hvalue => rfl
  unfold Field.read?
  rw [h.isClassVariable_eq, hparent, hsome]

end

end

end Waymark

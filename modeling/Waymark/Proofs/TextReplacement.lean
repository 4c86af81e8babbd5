import Mathlib
import Waymark.Descriptor.ForwardReference

/-! # The cases of replacing texts

    `Scope.inlineWith` goes through an expression and replaces its texts. What it does depends on
    the form of the expression and, at brackets, on what stands before them.

    * `inlineWith_of_literal`, `inlineWith_of_annotated`, `inlineWith_of_single`: the brackets that
      are gone through in part only (`Scope.isShielded`).
    * `inlineWith_of_unshielded`: of everything else all parts are gone through.
    * `replacement_induction`: what holds in each of the cases, if it holds of what is gone through,
      holds of every expression.
-/

namespace Waymark

open Waymark.Grammar

/-- No form is both. -/
theorem isOneOf_literalForms_of_annotated {q : Option String} (h : isOneOf annotatedForms q = true) :
    isOneOf literalForms q = false := by
  have hdisjoint : ∀ name ∈ annotatedForms, literalForms.contains name = false := by decide
  cases q with
  | none => rfl
  | some name => exact hdisjoint name (List.contains_iff_mem.mp h)

namespace Scope

/-! ## Forms that are gone through in part -/

/-- Is the expression a subscript of a form that is gone through in part only? -/
def isShielded (scope : Scope) : Expr → Bool
  | .apply .subscript [head, _] =>
    isOneOf literalForms (scope.denoted head) || isOneOf annotatedForms (scope.denoted head)
  | _ => false

variable {scope : Scope} {head index : Expr} {form : Form} {parts : List Expr}

theorem isShielded_of_literal (h : isOneOf literalForms (scope.denoted head) = true) (index : Expr) :
    scope.isShielded (.apply .subscript [head, index]) = true := by
  simp only [isShielded, h, Bool.true_or]

theorem isShielded_of_annotated (h : isOneOf annotatedForms (scope.denoted head) = true)
    (index : Expr) : scope.isShielded (.apply .subscript [head, index]) = true := by
  simp only [isShielded, h, Bool.or_true]

theorem exists_of_isShielded (h : scope.isShielded (.apply form parts) = true) :
    ∃ head index, form = .subscript ∧ parts = [head, index] ∧
      (isOneOf literalForms (scope.denoted head) = true ∨
        isOneOf annotatedForms (scope.denoted head) = true) := by
  unfold isShielded at h
  split at h
  · next head index heq =>
    cases heq
    exact ⟨head, index, rfl, rfl, Bool.or_eq_true_iff.mp h⟩
  · cases h

/-! ## The computation, case by case -/

section

variable (spelled : List Nat → Except SpellingFault Expr)

theorem inlineWith_name (id : String) : scope.inlineWith spelled (.name id) = .ok (.name id) :=
  rfl

theorem inlineWith_text (codes : List Nat) (marked : Bool) :
    scope.inlineWith spelled (.literal (.text codes marked)) = spelled codes :=
  rfl

theorem inlineWith_value {value : Literal} (h : (Expr.literal value).text? = none) :
    scope.inlineWith spelled (.literal value) = .ok (.literal value) := by
  cases value with
  | text codes marked => cases h
  | _ => rfl

theorem inlineWith_of_literal (h : isOneOf literalForms (scope.denoted head) = true)
    (index : Expr) : scope.inlineWith spelled (.apply .subscript [head, index])
      = .ok (.apply .subscript [head, index]) := by
  unfold inlineWith
  rw [if_pos h]

theorem inlineWith_of_annotated (h : isOneOf annotatedForms (scope.denoted head) = true)
    (first : Expr) (metadata : List Expr) :
    scope.inlineWith spelled (.apply .subscript [head, .apply .tuple (first :: metadata)])
      = scope.inlineWith spelled first >>= fun type =>
          pure (.apply .subscript [head, .apply .tuple (type :: metadata)]) := by
  have hliteral : ¬ isOneOf literalForms (scope.denoted head) = true := by
    simp [isOneOf_literalForms_of_annotated h]
  conv_lhs => unfold inlineWith
  rw [if_neg hliteral, if_pos h]

theorem inlineWith_of_single (h : isOneOf annotatedForms (scope.denoted head) = true)
    (hsingle : ∀ first metadata, index ≠ .apply .tuple (first :: metadata)) :
    scope.inlineWith spelled (.apply .subscript [head, index])
      = .ok (.apply .subscript [head, index]) := by
  have hliteral : ¬ isOneOf literalForms (scope.denoted head) = true := by
    simp [isOneOf_literalForms_of_annotated h]
  unfold inlineWith
  rw [if_neg hliteral, if_pos h]
  split
  · next first metadata => exact (hsingle first metadata rfl).elim
  · rfl

theorem inlineWith_of_unshielded (h : scope.isShielded (.apply form parts) = false) :
    scope.inlineWith spelled (.apply form parts)
      = scope.inlineAll spelled parts >>= fun types => pure (.apply form types) := by
  by_cases hsubscript : ∃ head index, form = .subscript ∧ parts = [head, index]
  · obtain ⟨head, index, rfl, rfl⟩ := hsubscript
    obtain ⟨hliteral, hannotated⟩ := Bool.or_eq_false_iff.mp h
    conv_lhs => unfold inlineWith
    simp only [hliteral, hannotated, Bool.false_eq_true, if_false, inlineAll, bind_assoc, pure_bind]
    rfl
  · rw [inlineWith]
    exact fun head index hform hparts => hsubscript ⟨head, index, hform, hparts⟩

end

/-! ## Induction -/

/-- Induction on the replacement of texts, with one case for each way to go on. -/
theorem replacement_induction (scope : Scope) {motive : Expr → Prop}
    (name : ∀ id, motive (.name id))
    (text : ∀ codes marked, motive (.literal (.text codes marked)))
    (value : ∀ value, (Expr.literal value).text? = none → motive (.literal value))
    (literal : ∀ head index, isOneOf literalForms (scope.denoted head) = true →
      motive (.apply .subscript [head, index]))
    (annotated : ∀ head first metadata, isOneOf annotatedForms (scope.denoted head) = true →
      motive first → motive (.apply .subscript [head, .apply .tuple (first :: metadata)]))
    (single : ∀ head index, isOneOf annotatedForms (scope.denoted head) = true →
      (∀ first metadata, index ≠ .apply .tuple (first :: metadata)) →
      motive (.apply .subscript [head, index]))
    (parts : ∀ form parts, scope.isShielded (.apply form parts) = false →
      (∀ p ∈ parts, motive p) → motive (.apply form parts)) :
    ∀ e, motive e := by
  suffices hall : (∀ e, motive e) ∧ ∀ parts : List Expr, ∀ p ∈ parts, motive p from hall.1
  apply inlineWith.mutual_induct scope
  case case1 => exact name
  case case2 => exact text
  case case3 =>
    intro v hne
    cases v with
    | text codes marked => exact (hne codes marked rfl).elim
    | _ => exact value _ rfl
  case case4 => exact literal
  case case5 => exact fun head _ hannotated first metadata => annotated head first metadata hannotated
  case case6 => exact fun head index _ hannotated hne => single head index hannotated hne
  -- a subscript whose head is of neither form
  case case7 =>
    intro head index hliteral hannotated hhead hindex
    refine parts _ _ ?_ (List.forall_mem_cons.mpr ⟨hhead, List.forall_mem_singleton.mpr hindex⟩)
    simp only [isShielded, hliteral, hannotated, Bool.or_self]
  -- any other form: were it shielded, it would be a subscript
  case case8 =>
    intro form items hne ih
    refine parts form items ?_ ih
    cases hshielded : scope.isShielded (.apply form items) with
    | false => rfl
    | true =>
      obtain ⟨head, index, hform, hitems, -⟩ := exists_of_isShielded hshielded
      exact (hne head index hform hitems).elim
  case case9 => exact fun p hp => absurd hp List.not_mem_nil
  case case10 => exact fun e rest he hrest => List.forall_mem_cons.mpr ⟨he, hrest⟩

end Scope

end Waymark

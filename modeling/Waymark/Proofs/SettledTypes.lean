import Waymark.Descriptor.Reading
import Waymark.Proofs.Inlining
import Waymark.Proofs.SyntaxEquality

/-! # Type arguments are settled when they are read

    The texts in a type argument are replaced by the expressions that they spell, and that is done
    once and for all.

    * `Scope.Settled`: texts are left only where they are no types, inside `Literal[…]`, among the
      arguments of `Annotated[…]` after the first, and in the arguments of calls in such a head.
    * `Scope.Keeps`: what stands there is left as it was written.
    * Nothing is replaced in a settled expression, so a type argument that is read again is the same
      (`Settled.inlined_eq`).

    The main result is `TypeArgument.read_settles`.
-/

namespace Waymark

open Waymark.Grammar

/-! ## Heads -/

/-- A dotted name, which may have calls in it. So texts stand only in the arguments of the calls. -/
inductive Grammar.Expr.Dotted : Expr → Prop
  | name (id : String) : Dotted (.name id)
  | attribute {name : String} {base : Expr} {rest : List Expr} (dotted : Dotted base) :
    Dotted (.apply (.attribute name) (base :: rest))
  | call {positional : Nat} {keywords : List (Option String)} {function : Expr}
    {arguments : List Expr} (dotted : Dotted function) :
    Dotted (.apply (.call positional keywords) (function :: arguments))

namespace Scope

variable {scope : Scope}

/-- What denotes something is a dotted name. -/
theorem dotted_of_denoted {e : Expr} {q : String} (h : scope.denoted e = some q) : e.Dotted := by
  -- only names, attributes and calls denote something
  induction e using denoted.induct generalizing q with
  | case1 id => exact .name id
  | case2 name base rest ih =>
    rw [denoted, Option.map_eq_some_iff] at h
    obtain ⟨_, hbase, -⟩ := h
    obtain ⟨whole, hdenoted, -⟩ := Option.bind_eq_some_iff.mp hbase
    exact .attribute (ih hdenoted)
  | case3 positional keywords function arguments ih =>
    rw [denoted] at h
    exact .call (ih h)
  | case4 e hname hattribute hcall =>
    rw [denoted] at h
    · cases h
    · exact hname
    · exact hattribute
    · exact hcall

theorem dotted_of_isOneOf {names : List String} {head : Expr}
    (h : isOneOf names (scope.denoted head) = true) : head.Dotted := by
  cases hq : scope.denoted head with
  | none =>
    rw [hq] at h
    cases h
  | some q => exact dotted_of_denoted hq

/-! ## Settled expressions -/

variable (scope) in
/-- No text is left in the expression but where it is no type: inside `Literal[…]`, in the metadata
    of `Annotated[…]`, and in the arguments of calls that are part of such a head, since heads are
    not looked into. -/
inductive Settled : Expr → Prop
  | name (id : String) : Settled (.name id)
  | value {value : Literal} (noText : (Expr.literal value).text? = none) : Settled (.literal value)
  /-- Inside `Literal[…]` stand values. -/
  | literal {head index : Expr} (form : isOneOf literalForms (scope.denoted head) = true) :
    Settled (.apply .subscript [head, index])
  /-- After the first argument of `Annotated[…]` stand metadata. -/
  | annotated {head first : Expr} {metadata : List Expr}
    (form : isOneOf annotatedForms (scope.denoted head) = true) (dotted : head.Dotted)
    (settled : Settled first) : Settled (.apply .subscript [head, .apply .tuple (first :: metadata)])
  /-- Brackets of `Annotated` without a comma may hold anything. -/
  | single {head index : Expr} (form : isOneOf annotatedForms (scope.denoted head) = true)
    (single : ∀ first metadata, index ≠ .apply .tuple (first :: metadata)) :
    Settled (.apply .subscript [head, index])
  | parts {form : Form} {parts : List Expr} (each : ∀ p ∈ parts, Settled p) :
    Settled (.apply form parts)

variable {e d first type : Expr} {form : Form} {parts types metadata : List Expr} {head index : Expr}

/-- What an expression becomes is settled. -/
theorem Inlines.settled (h : scope.Inlines e type) : scope.Settled type := by
  induction h with
  | name id => exact .name id
  | value noText => exact .value noText
  | text _ _ ih => exact ih
  | literal form => exact .literal form
  | annotated form _ ih => exact .annotated form (dotted_of_isOneOf form) ih
  | single form single => exact .single form single
  | @parts form parts types _ length each ih =>
    have htypes : List.Forall₂ (fun _ type => scope.Settled type) parts types :=
      List.forall₂_iff_zip.mpr ⟨length, fun hmem => ih _ _ hmem⟩
    refine .parts fun type htype => ?_
    obtain ⟨_, -, hsettled⟩ := exists_left_of_forall₂ htypes htype
    exact hsettled

/-- What stands inside `Literal[…]` stays. -/
theorem Inlines.eq_of_literal (h : scope.Inlines (.apply .subscript [head, index]) type)
    (hliteral : isOneOf literalForms (scope.denoted head) = true) :
    type = .apply .subscript [head, index] := by
  cases h with
  | literal _ => rfl
  | annotated form _ =>
    exact Bool.noConfusion (hliteral.symm.trans (isOneOf_literalForms_of_annotated form))
  | single _ _ => rfl
  | parts unshielded _ _ =>
    exact Bool.noConfusion (unshielded.symm.trans (isShielded_of_literal hliteral _))

/-- Of what stands inside `Annotated[…]` only the first argument is replaced. -/
theorem Inlines.exists_of_annotated
    (h : scope.Inlines (.apply .subscript [head, .apply .tuple (first :: metadata)]) type)
    (hannotated : isOneOf annotatedForms (scope.denoted head) = true) :
    ∃ inner, scope.Inlines first inner ∧
      type = .apply .subscript [head, .apply .tuple (inner :: metadata)] := by
  cases h with
  | literal form =>
    exact Bool.noConfusion (form.symm.trans (isOneOf_literalForms_of_annotated hannotated))
  | annotated _ inlines => exact ⟨_, inlines, rfl⟩
  | single _ single => exact (single _ _ rfl).elim
  | parts unshielded _ _ =>
    exact Bool.noConfusion (unshielded.symm.trans (isShielded_of_annotated hannotated _))

/-- Brackets of `Annotated` without a comma stay. -/
theorem Inlines.eq_of_single (h : scope.Inlines (.apply .subscript [head, index]) type)
    (hannotated : isOneOf annotatedForms (scope.denoted head) = true)
    (hsingle : ∀ first metadata, index ≠ .apply .tuple (first :: metadata)) :
    type = .apply .subscript [head, index] := by
  cases h with
  | literal _ => rfl
  | annotated _ _ => exact (hsingle _ _ rfl).elim
  | single _ _ => rfl
  | parts unshielded _ _ =>
    exact Bool.noConfusion (unshielded.symm.trans (isShielded_of_annotated hannotated _))

/-- Of all other forms the parts are replaced. -/
theorem Inlines.exists_of_unshielded (h : scope.Inlines (.apply form parts) type)
    (hunshielded : scope.isShielded (.apply form parts) = false) :
    ∃ types, List.Forall₂ scope.Inlines parts types ∧ type = .apply form types := by
  cases h with
  | literal form => exact Bool.noConfusion (hunshielded.symm.trans (isShielded_of_literal form _))
  | annotated form _ =>
    exact Bool.noConfusion (hunshielded.symm.trans (isShielded_of_annotated form _))
  | single form _ =>
    exact Bool.noConfusion (hunshielded.symm.trans (isShielded_of_annotated form _))
  | parts _ length each =>
    exact ⟨_, List.forall₂_iff_zip.mpr ⟨length, fun hmem => each _ _ hmem⟩, rfl⟩

/-- There is only one thing that an expression becomes. -/
theorem Inlines.unique (h : scope.Inlines e type) {other : Expr} (h' : scope.Inlines e other) :
    type = other := by
  induction h generalizing other with
  | name id =>
    cases h'
    rfl
  | value noText =>
    cases h' with
    | value _ => rfl
    | text _ _ => cases noText
  | text spells _ ih =>
    cases h' with
    | value noText => cases noText
    | text spells' inlines =>
      obtain rfl := Except.ok.inj (spells.symm.trans spells')
      exact ih inlines
  | literal form => exact (h'.eq_of_literal form).symm
  | annotated form _ ih =>
    obtain ⟨inner, hinner, rfl⟩ := h'.exists_of_annotated form
    rw [ih hinner]
  | single form single => exact (h'.eq_of_single form single).symm
  | @parts form parts types unshielded length each ih =>
    obtain ⟨others, hothers, rfl⟩ := h'.exists_of_unshielded unshielded
    have htypes : List.Forall₂ (fun p type => ∀ other, scope.Inlines p other → type = other)
        parts types :=
      List.forall₂_iff_zip.mpr ⟨length, fun hmem _ hother => ih _ _ hmem hother⟩
    rw [eq_of_forall₂ htypes hothers]

theorem inlineAll_eq {spelled : List Nat → Except SpellingFault Expr}
    (h : ∀ p ∈ parts, scope.inlineWith spelled p = .ok p) :
    scope.inlineAll spelled parts = .ok parts := by
  induction parts with
  | nil => simp only [inlineAll]
  | cons p rest ih =>
    obtain ⟨hp, hrest⟩ := List.forall_mem_cons.mp h
    rw [inlineAll, hp, ih hrest]
    rfl

/-- Nothing is replaced in a settled expression, nor in the first item if it is a tuple. -/
theorem Settled.inlineWith_spec (h : scope.Settled e)
    (spelled : List Nat → Except SpellingFault Expr) :
    scope.inlineWith spelled e = .ok e ∧ ∀ first metadata, e = .apply .tuple (first :: metadata) →
      scope.inlineWith spelled first = .ok first := by
  induction h with
  | name id => exact ⟨inlineWith_name spelled id, fun _ _ heq => by cases heq⟩
  | value noText => exact ⟨inlineWith_value spelled noText, fun _ _ heq => by cases heq⟩
  | literal form => exact ⟨inlineWith_of_literal spelled form _, fun _ _ heq => by cases heq⟩
  | annotated form _ _ ih =>
    refine ⟨?_, fun _ _ heq => by cases heq⟩
    rw [inlineWith_of_annotated spelled form, ih.1]
    rfl
  | single form single => exact ⟨inlineWith_of_single spelled form single, fun _ _ heq => by cases heq⟩
  | @parts form parts each ih =>
    have hparts : scope.inlineAll spelled parts = .ok parts := inlineAll_eq fun p hp => (ih p hp).1
    constructor
    -- a shielded form whose parts are settled stays as well
    · cases hshielded : scope.isShielded (.apply form parts) with
      | false =>
        rw [inlineWith_of_unshielded spelled hshielded, hparts]
        rfl
      | true =>
        obtain ⟨head, index, rfl, rfl, hliteral | hannotated⟩ := exists_of_isShielded hshielded
        · exact inlineWith_of_literal spelled hliteral index
        · by_cases htuple : ∃ first metadata, index = .apply .tuple (first :: metadata)
          · obtain ⟨first, metadata, rfl⟩ := htuple
            have hfirst := (ih _ (.tail _ (.head _))).2 first metadata rfl
            rw [inlineWith_of_annotated spelled hannotated, hfirst]
            rfl
          · refine inlineWith_of_single spelled hannotated fun first metadata heq => ?_
            exact htuple ⟨first, metadata, heq⟩
    · rintro first metadata heq
      cases heq
      exact (ih first (.head _)).1

/-- **Nothing is replaced in a settled expression.** -/
theorem Settled.inlined_eq (h : scope.Settled e) : scope.inlined e = .ok e :=
  (h.inlineWith_spec _).1

/-! ## What is kept -/

variable (scope) in
/-- What stands where texts are no types is kept as it was written: the whole of `Literal[…]` and of
    `Annotated[…]` with a single argument, and everything in `Annotated[…]` but the first
    argument. -/
structure Keeps (e type : Expr) : Prop where
  literal : ∀ head index, scope.Visits (.apply .subscript [head, index]) e →
    isOneOf literalForms (scope.denoted head) = true →
    (Expr.apply .subscript [head, index]).Occurs type
  metadata : ∀ head first metadata,
    scope.Visits (.apply .subscript [head, .apply .tuple (first :: metadata)]) e →
    isOneOf annotatedForms (scope.denoted head) = true →
    ∃ inner, scope.Inlines first inner ∧
      (Expr.apply .subscript [head, .apply .tuple (inner :: metadata)]).Occurs type
  single : ∀ head index, scope.Visits (.apply .subscript [head, index]) e →
    isOneOf annotatedForms (scope.denoted head) = true →
    (∀ first metadata, index ≠ .apply .tuple (first :: metadata)) →
    (Expr.apply .subscript [head, index]).Occurs type

/-- What an expression on the way becomes stands in the result. -/
theorem Inlines.exists_occurs (h : scope.Inlines e type) (hd : scope.Visits d e) :
    ∃ inner, scope.Inlines d inner ∧ inner.Occurs type := by
  -- along the way to the part; each step keeps it inside of what comes of the whole
  induction hd generalizing type with
  | here => exact ⟨type, h, .here⟩
  | spelled spells _ ih =>
    cases h with
    | value noText => cases noText
    | text spells' inlines =>
      obtain rfl := Except.ok.inj (spells.symm.trans spells')
      exact ih inlines
  | first form _ ih =>
    obtain ⟨first, hfirst, rfl⟩ := h.exists_of_annotated form
    obtain ⟨inner, hinner, hoccurs⟩ := ih hfirst
    exact ⟨inner, hinner, .inside (.tail _ (.head _)) (.inside (.head _) hoccurs)⟩
  | part unshielded mem _ ih =>
    obtain ⟨types, htypes, rfl⟩ := h.exists_of_unshielded unshielded
    obtain ⟨type, htype, hinlines⟩ := exists_left_of_forall₂ htypes.flip mem
    obtain ⟨inner, hinner, hoccurs⟩ := ih hinlines
    exact ⟨inner, hinner, .inside htype hoccurs⟩

/-- What is shielded is kept. -/
theorem Inlines.keeps (h : scope.Inlines e type) : scope.Keeps e type where
  literal := by
    intro head index hvisits hliteral
    obtain ⟨inner, hinner, hoccurs⟩ := h.exists_occurs hvisits
    rwa [hinner.eq_of_literal hliteral] at hoccurs
  metadata := by
    intro head first metadata hvisits hannotated
    obtain ⟨inner, hinner, hoccurs⟩ := h.exists_occurs hvisits
    obtain ⟨first', hfirst, rfl⟩ := hinner.exists_of_annotated hannotated
    exact ⟨first', hfirst, hoccurs⟩
  single := by
    intro head index hvisits hannotated hsingle
    obtain ⟨inner, hinner, hoccurs⟩ := h.exists_occurs hvisits
    rwa [hinner.eq_of_single hannotated hsingle] at hoccurs

end Scope

/-! ## Reading type arguments -/

section

variable {scope : Scope} {e type : Expr}

theorem text_eq_of_printed (h : e.fault? = none) : e.text = .ok (e.print false Level.test) := by
  unfold Expr.text
  rw [h]

/-- An expression without a text is no argument. -/
theorem standalone_of_fault {fault : PrintFault} (h : e.fault? = some fault) :
    standalone e = .error (.unprintable fault) := by
  unfold standalone Expr.text
  rw [h]

/-- An expression without formatted texts that may stand alone does so as it is. -/
theorem standalone_of_isValue (h : e.Unformatted) (hprinted : e.fault? = none) (hvalue : e.IsValue) :
    standalone e = .ok e := by
  unfold standalone
  rw [text_eq_of_printed hprinted, h.hasFormatted_eq_false]
  dsimp only
  split
  · exact hvalue.elim
  · exact hvalue.elim
  · rfl

/-- Starred expressions and slices do not stand alone. -/
theorem standalone_of_not_isValue (hprinted : e.fault? = none) (hvalue : ¬ e.IsValue) :
    standalone e = .error (.malformed (e.print false Level.test)) := by
  unfold standalone
  rw [text_eq_of_printed hprinted]
  dsimp only
  split
  · rfl
  · rfl
  · next hstarred hslice =>
    -- the check refuses starred expressions and slices, and nothing else
    refine (hvalue ?_).elim
    unfold Expr.IsValue
    split
    · exact (hstarred _ rfl).elim
    · exact (hslice _ _ _ _ rfl).elim
    · trivial

namespace TypeArgument

/-- What is read of an argument that spells a type with a text. -/
theorem read_of_typeOf (htype : typeOf scope e = .ok type) (hprinted : type.fault? = none) :
    fatal? scope e = none ∧
      read scope e = { source := type.print false Level.test, names := Text.sortDistinct type.names } := by
  unfold fatal? read
  rw [htype]
  exact ⟨congrArg (Option.map _) hprinted, rfl⟩

/-- What is read of an argument with a text that spells no expression. -/
theorem read_of_malformed {shown : String} (htype : typeOf scope e = .error (.malformed shown)) :
    fatal? scope e = none ∧
      read scope e = { source := e.print false Level.test, problem := some (malformedNote shown) } := by
  unfold fatal? read
  rw [htype]
  exact ⟨rfl, rfl⟩

theorem typeOf_eq_inlined (h : e.Unformatted) (hprinted : e.fault? = none) (hvalue : e.IsValue) :
    typeOf scope e = scope.inlined e := by
  unfold typeOf
  rw [standalone_of_isValue h hprinted hvalue]
  rfl

/-- **A type argument is read once and for all, or there is a problem with it.** Of whatever
    expression without formatted texts and null characters, at any depth of texts in texts, one of
    four things is read.

    * Its texts are replaced by what they spell. The type that comes out is settled and keeps what
      stood where texts are no types. If its text reads back as the type, whatever is read from this
      text is settled as well, and is read as the same argument.
    * There is a problem: it cannot stand alone, or one of the texts spells no expression.
    * One of the texts holds half of a character, and nothing of the module can be used.
    * A number is met that has no text, since it is too long, and nothing of the module can be used
      either. -/
theorem read_settles (h : scope.Plain e) :
    (∃ type, e.IsValue ∧ scope.Inlines e type ∧ scope.Settled type ∧ scope.Keeps e type ∧
      fatal? scope e = none ∧
      read scope e
        = { source := type.print false Level.test, names := Text.sortDistinct type.names } ∧
      (parseExpression (read scope e).source.toList = .ok type →
        ∀ again, parseExpression (read scope e).source.toList = .ok again →
          scope.Settled again ∧ fatal? scope again = none ∧ read scope again = read scope e)) ∨
    (∃ shown, (e.IsValue → scope.Fails e (.malformed shown)) ∧
      (¬ e.IsValue → shown = e.print false Level.test) ∧
      fatal? scope e = none ∧
      read scope e
        = { source := e.print false Level.test, problem := some (malformedNote shown) }) ∨
    (e.IsValue ∧ scope.Fails e .surrogate ∧ fatal? scope e = some .surrogate ∧
      ∃ codes marked, scope.Visits (.literal (.text codes marked)) e ∧
        codes.any isSurrogate = true) ∨
    (fatal? scope e = some (.unprintable .digits) ∧
      ∃ d, scope.Visits d e ∧ d.fault? = some .digits) := by
  have hplain : e.Unformatted := h.unformatted e .here
  rcases hplain.fault?_cases with hprinted | hdigits
  -- an integer with too many digits: the printer stops, in the argument or in what comes of it
  swap
  · refine .inr (.inr (.inr ⟨?_, e, .here, hdigits⟩))
    unfold fatal? typeOf
    rw [standalone_of_fault hdigits]
    rfl
  by_cases hvalue : e.IsValue
  · have htypeOf : typeOf scope e = scope.inlined e := typeOf_eq_inlined hplain hprinted hvalue
    cases hinlined : scope.inlined e with
    | ok type =>
      rw [hinlined] at htypeOf
      have htype : scope.Inlines e type := Scope.inlines_of_inlined h hinlined
      rcases (htype.unformatted h).fault?_cases with hshown | hdigits
      swap
      · refine .inr (.inr (.inr ⟨?_, htype.exists_digits h (by simp [hdigits])⟩))
        unfold fatal?
        rw [htypeOf]
        exact congrArg (Option.map _) hdigits
      obtain ⟨hfatal, hread⟩ := read_of_typeOf htypeOf hshown
      refine .inl ⟨type, hvalue, htype, htype.settled, htype.keeps, hfatal, hread, ?_⟩
      intro hback again hagain
      obtain rfl := Except.ok.inj (hback.symm.trans hagain)
      -- read back, the type has no text left to replace
      have hself : typeOf scope type = .ok type := by
        rw [typeOf_eq_inlined (htype.unformatted h) hshown (htype.isValue hvalue),
          htype.settled.inlined_eq]
      obtain ⟨hfatal', hread'⟩ := read_of_typeOf hself hshown
      exact ⟨htype.settled, hfatal', hread'.trans hread.symm⟩
    | error fault =>
      have houtcome := Scope.inlined_outcome h
      rw [hinlined] at houtcome htypeOf
      have hfails : scope.Fails e fault := houtcome
      rcases hfails.cause h with ⟨shown, rfl⟩ | ⟨rfl, hhalf⟩
      · obtain ⟨hfatal, hread⟩ := read_of_malformed htypeOf
        exact .inr (.inl ⟨shown, fun _ => hfails, fun hnot => (hnot hvalue).elim, hfatal, hread⟩)
      · refine .inr (.inr (.inl ⟨hvalue, hfails, ?_, hhalf⟩))
        unfold fatal?
        rw [htypeOf]
  · have htypeOf : typeOf scope e = .error (.malformed (e.print false Level.test)) := by
      unfold typeOf
      rw [standalone_of_not_isValue hprinted hvalue]
      rfl
    obtain ⟨hfatal, hread⟩ := read_of_malformed htypeOf
    exact .inr (.inl ⟨_, fun hyes => (hvalue hyes).elim, fun _ => rfl, hfatal, hread⟩)

end TypeArgument

end

/-! ## Texts in texts, and half a character -/

namespace Sample.Forward

/-- The names of a module that imports `typing`. -/
def scope : Scope :=
  { module := "app.api"
    bindings := [("t", { name := "t", kind := .importedModule, originModule := "typing" })] }

/-- The text `list['A']`. -/
def nested : List Nat := [108, 105, 115, 116, 91, 39, 65, 39, 93]

/-- A type with metadata. It is spelled as a text, and its item as a text in this text. -/
def annotated : Expr :=
  .apply .subscript [.apply (.attribute "Annotated") [.name "t"],
    .apply .tuple [.literal (.text nested false), .literal (.text [109] false)]]

/-- The type that is spelled. -/
def type : Expr :=
  .apply .subscript [.apply (.attribute "Annotated") [.name "t"],
    .apply .tuple [.apply .subscript [.name "list", .name "A"], .literal (.text [109] false)]]

/-- A text of one half of a character. -/
def half : Expr := .literal (.text [0xd800] false)

/-- A source with such a text as type argument. -/
def source : String :=
  "import shapi.api as s\n@s.resources.resource('')\nclass A:\n class G(s.contracts.GET['\\ud800']): 0\n"

/-- The decorator of the class. -/
def decorator : Expr :=
  .apply (.call 1 []) [.apply (.attribute "resource") [.apply (.attribute "resources") [.name "s"]],
    .literal (.text [] false)]

/-- The base of the capability. -/
def base : Expr :=
  .apply .subscript [.apply (.attribute "GET") [.apply (.attribute "contracts") [.name "s"]], half]

/-- The statements of the source. -/
def body : List Statement :=
  [.importModules [{ name := "shapi.api", newName := some "s" }],
    .classDef "A" [] [decorator] [.classDef "G" [base] [] [.simple] 4] 3]

/-- The names of the source. -/
def sourceScope : Scope :=
  { module := "app.api"
    bindings := [
      ("s", { name := "s", kind := .importedModule, originModule := "shapi.api" }),
      ("A", { name := "A", kind := .localClass, originModule := "app.api", originName := some "A" })] }

theorem expressionOfCodes_nested : expressionOfCodes nested
    = .ok (.apply .subscript [.name "list", .literal (.text [65] false)]) := by
  cbv

theorem expressionOfCodes_A : expressionOfCodes [65] = .ok (.name "A") := by
  cbv

theorem plain_annotated : scope.Plain annotated := by
  have htext : scope.Plain (.literal (.text nested false)) := by
    refine Scope.plain_text_iff.mpr ⟨by decide, fun e he => ?_⟩
    rw [expressionOfCodes_nested] at he
    cases he
    refine Scope.plain_of_parts id rfl fun p hp => ?_
    rcases List.mem_pair.mp hp with rfl | rfl
    · exact Scope.plain_name "list"
    refine Scope.plain_text_iff.mpr ⟨by decide, fun e he => ?_⟩
    rw [expressionOfCodes_A] at he
    cases he
    exact Scope.plain_name "A"
  refine Scope.plain_of_shielded rfl ?_ fun first metadata heq => ?_
  · refine .apply id (List.forall_mem_cons.mpr ⟨?_, List.forall_mem_singleton.mpr ?_⟩)
    · exact .apply id (List.forall_mem_singleton.mpr (.name "t"))
    · exact .apply id (List.forall_mem_cons.mpr ⟨.literal _, List.forall_mem_singleton.mpr (.literal _)⟩)
  · cases heq
    exact htext

theorem expressionOfCodes_half : expressionOfCodes [0xd800] = .error .surrogate := by
  cbv

theorem plain_half : scope.Plain half := by
  refine Scope.plain_text_iff.mpr ⟨by decide, fun e he => ?_⟩
  rw [expressionOfCodes_half] at he
  cases he

theorem fatal?_half (scope : Scope) : TypeArgument.fatal? scope half = some .surrogate := by
  have htype : TypeArgument.typeOf scope half = .error .surrogate := by
    have hplain : half.Unformatted := .literal _
    have hprinted : half.fault? = none := by simp only [half, Expr.fault?, Literal.fault?]
    rw [TypeArgument.typeOf_eq_inlined hplain hprinted trivial]
    simp only [Scope.inlined, half, Scope.inlineWith, Scope.inlineText, expressionOfCodes_half]
    rfl
  unfold TypeArgument.fatal?
  rw [htype]

theorem fault?_annotated : annotated.fault? = none := by
  simp [annotated, Expr.fault?, partsFault?, Literal.fault?]

theorem inlined_annotated : scope.inlined annotated = .ok type := by
  decide +kernel

theorem inlines_annotated : scope.Inlines annotated type :=
  Scope.inlines_of_inlined plain_annotated inlined_annotated

theorem typeOf_annotated : TypeArgument.typeOf scope annotated = .ok type := by
  have hplain : annotated.Unformatted := plain_annotated.unformatted annotated .here
  rw [TypeArgument.typeOf_eq_inlined hplain fault?_annotated trivial, inlined_annotated]

theorem read_annotated : TypeArgument.read scope annotated
    = { source := "t.Annotated[list[A], 'm']", names := ["A", "list", "t"] } := by
  have hprint : type.print false Level.test = "t.Annotated[list[A], 'm']" := by cbv
  have hnames : Text.sortDistinct type.names = ["A", "list", "t"] := by rfl
  unfold TypeArgument.read
  rw [typeOf_annotated]
  simp only [hprint, hnames]

theorem parseExpression_annotated :
    parseExpression "t.Annotated[list[A], 'm']".toList = .ok type := by
  decide +kernel

theorem fatal?_annotated : TypeArgument.fatal? scope annotated = none := by
  have hfault : type.fault? = none := by
    simp [type, Expr.fault?, partsFault?, Literal.fault?]
  unfold TypeArgument.fatal?
  rw [typeOf_annotated]
  exact congrArg (Option.map _) hfault

theorem parseModule_source : parseModule source.toList = .ok body := by
  have hchars : source.toList = _ := String.toList_ofList
  exact (congrArg parseModule hchars).trans (by decide +kernel)

theorem moduleFault_body :
    moduleFault? (Scope.ofStatements "app.api" false body) body = some (.spelling .surrogate) := by
  have hscope : Scope.ofStatements "app.api" false body = sourceScope := rfl
  have hplain : isEndpointClass sourceScope [] = false := rfl
  have hsegment : (endpointDecorator sourceScope [decorator]).bind segmentCodes = some [] := rfl
  have hbase : baseFault? sourceScope base = some (.spelling .surrogate) := by
    have hprint : printFault? base = none := by cbv
    unfold baseFault?
    rw [hprint, base]
    have hindex : indexArguments half = [half] := rfl
    simp only [Option.none_or, hindex, List.findSome?_cons, fatal?_half]
    rfl
  rw [hscope]
  simp [moduleFault?, body, List.findSome?_cons, classFault?, bodyFault?, hplain, hsegment, hbase]

end Sample.Forward

open Sample.Forward in
/-- The text in a text is replaced, and the metadata stay a text. Read again, the type is the
    same. -/
theorem TypeArgument.read_settles_sample :
    scope.Plain annotated ∧
      TypeArgument.read scope annotated
        = { source := "t.Annotated[list[A], 'm']", names := ["A", "list", "t"] } ∧
      scope.Inlines annotated type ∧ scope.Settled type ∧ scope.Keeps annotated type ∧
      TypeArgument.fatal? scope annotated = none ∧
      type.print false Level.test = "t.Annotated[list[A], 'm']" ∧
      parseExpression "t.Annotated[list[A], 'm']".toList = .ok type ∧
      TypeArgument.fatal? scope type = none ∧
      TypeArgument.read scope type = TypeArgument.read scope annotated := by
  refine ⟨plain_annotated, read_annotated, ?_⟩
  rcases TypeArgument.read_settles plain_annotated with
    ⟨found, -, hfound, hsettled, hkeeps, hfatal, hread, hagain⟩ | ⟨shown, -, -, -, hread⟩ |
      ⟨-, -, hfatal, -⟩ | ⟨hfatal, -⟩
  · obtain rfl : type = found := inlines_annotated.unique hfound
    rw [read_annotated] at hread hagain
    obtain ⟨-, hfatal', hread'⟩ :=
      hagain parseExpression_annotated _ parseExpression_annotated
    exact ⟨hfound, hsettled, hkeeps, hfatal, (congrArg TypeArgument.source hread).symm,
      parseExpression_annotated, hfatal', hread'.trans read_annotated.symm⟩
  · rw [read_annotated] at hread
    cases congrArg TypeArgument.problem hread
  · rw [fatal?_annotated] at hfatal
    cases hfatal
  · rw [fatal?_annotated] at hfatal
    cases hfatal

open Sample.Forward in
/-- **A text with half of a character is no problem of the argument**: it holds no formatted text
    and no null character, and yet the module is lost. -/
theorem Sample.Forward.half_character_lost :
    scope.Plain half ∧ half.IsValue ∧ TypeArgument.fatal? scope half = some .surrogate ∧
      parseModule source.toList = .ok body ∧
      Descriptor.ofSource "app.api" false source = .error (.spelling .surrogate) := by
  refine ⟨plain_half, trivial, fatal?_half scope, parseModule_source, ?_⟩
  have hnull : source.toList.contains '\x00' = false := by
    have hchars : source.toList = _ := String.toList_ofList
    exact (congrArg (List.contains · '\x00') hchars).trans (by cbv)
  unfold Descriptor.ofSource
  rw [hnull, parseModule_source]
  simp only [Bool.false_eq_true, if_false, moduleFault_body]

end Waymark

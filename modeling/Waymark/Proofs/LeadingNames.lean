import Mathlib.Data.List.Basic
import Waymark.Grammar.Printer
import Waymark.Proofs.ReadTrees

/-! # The name that a text begins with

    The text of an expression begins with a name if its tree leads down to one at the left.

    * `Expr.leadingName?`: the name that a tree leads to, through forms that are written with their
      first part in front and past no parenthesis. A conditional has its second part in front.
    * `Expr.leads_or_not`: the text of a well-formed tree begins with that name, which ends there
      (`Breaks`); if the tree leads to no name, the text begins with a sign, a quote, a digit or a
      keyword.

    The main result is `startsWith_print_eq`: whether a text starts with `ClassVar` is a matter of the
    name that the tree leads to.
-/

namespace Waymark

namespace Grammar

/-! ## Trees that lead to a name -/

/-- Is the form written with its first part in front? Forms that are in parentheses wherever an
    expression stands alone are left out. -/
def Form.beginsWithPart : Form → Bool
  | .attribute _ | .subscript | .call _ _ | .binary _ | .boolean _ | .comparison _
  | .slice true _ _ => true
  | _ => false

/-- The name that the text of an expression at a level begins with, if it begins with one. -/
def Expr.leadingName? (level : Level) : Expr → Option String
  | .name id => some id
  | .literal _ => none
  | .apply form parts =>
    if form.isEnclosed level parts then none
    else
      match form, parts with
      | .conditional, _ :: value :: _ =>
        value.leadingName? (Form.conditional.partLevel 1 value)
      | form, first :: _ =>
        if form.beginsWithPart then first.leadingName? (form.partLevel 0 first) else none
      | _, [] => none

namespace Expr

variable {level : Level} {form : Form} {first : Expr} {parts rest : List Expr}

theorem leadingName?_of_isEnclosed (h : form.isEnclosed level parts = true) :
    (Expr.apply form parts).leadingName? level = none := by
  rw [leadingName?.eq_def]
  exact if_pos h

theorem leadingName?_of_beginsWithPart (hopen : form.isEnclosed level (first :: rest) = false)
    (hbegins : form.beginsWithPart = true) :
    (Expr.apply form (first :: rest)).leadingName? level
      = first.leadingName? (form.partLevel 0 first) := by
  rw [leadingName?.eq_def]
  dsimp only
  rw [hopen, if_neg Bool.false_ne_true]
  split
  · cases hbegins
  · next heq =>
    cases heq
    rw [if_pos hbegins]
  · next heq => cases heq

theorem leadingName?_conditional {condition value : Expr}
    (hopen : Form.isEnclosed .conditional level (condition :: value :: rest) = false) :
    (Expr.apply .conditional (condition :: value :: rest)).leadingName? level
      = value.leadingName? (Form.conditional.partLevel 1 value) := by
  rw [leadingName?.eq_def]
  dsimp only
  rw [hopen, if_neg Bool.false_ne_true]

theorem leadingName?_of_not (hbegins : form.beginsWithPart = false)
    (hconditional : form ≠ .conditional) : (Expr.apply form parts).leadingName? level = none := by
  rw [leadingName?.eq_def]
  dsimp only
  split
  · rfl
  · split
    · exact absurd rfl hconditional
    · rw [hbegins, if_neg Bool.false_ne_true]
    · rfl

end Expr

/-- No name goes on with the text. -/
def Breaks (text : String) : Prop :=
  ∀ c ∈ text.toList.head?, isNameChar c = false

/-- The text does not begin with the letter, with which no keyword and no literal begins. -/
def Nameless (text : String) : Prop :=
  ∀ c ∈ text.toList.head?, c ≠ 'C'

theorem head?_toList_append {a : String} {c : Char} (h : a.toList.head? = some c) (b : String) :
    (a ++ b).toList.head? = some c := by
  rw [String.toList_append, List.head?_append, h]
  rfl

theorem mem_head?_append {a b : String} {c : Char} (h : c ∈ (a ++ b).toList.head?) :
    c ∈ a.toList.head? ∨ c ∈ b.toList.head? := by
  cases ha : a.toList.head? with
  | none =>
    rw [String.toList_append, List.head?_append, ha] at h
    exact .inr h
  | some d =>
    rw [head?_toList_append ha] at h
    exact .inl h

theorem breaks_empty : Breaks "" := by
  simp [Breaks]

theorem Breaks.of_head {text : String} {c : Char} (h : text.toList.head? = some c)
    (hc : isNameChar c = false) : Breaks text := by
  intro d hd
  rw [h] at hd
  cases hd
  exact hc

theorem Nameless.of_head {text : String} {c : Char} (h : text.toList.head? = some c)
    (hc : c ≠ 'C') : Nameless text := by
  intro d hd
  rw [h] at hd
  cases hd
  exact hc

theorem Breaks.append {a b : String} (ha : Breaks a) (hb : Breaks b) : Breaks (a ++ b) :=
  fun c hc => (mem_head?_append hc).elim (ha c) (hb c)

theorem Nameless.append {a b : String} (ha : Nameless a) (hb : Breaks b) : Nameless (a ++ b) := by
  intro c hc heq
  subst heq
  exact (mem_head?_append hc).elim (fun hc => ha _ hc rfl) fun hc => Bool.noConfusion (hb _ hc)

theorem Breaks.join {texts : List String} (h : ∀ text ∈ texts, Breaks text) :
    Breaks (String.join texts) := by
  induction texts with
  | nil => exact breaks_empty
  | cons text rest ih =>
    obtain ⟨htext, hrest⟩ := List.forall_mem_cons.mp h
    rw [String.join_cons]
    exact htext.append (ih hrest)

/-! ## Texts of literals -/

/-- The characters of numbers. -/
def isNumberChar (c : Char) : Bool :=
  c.isDigit || ['.', 'e', '+', '-', '(', ')', 'j'].contains c

theorem Nameless.of_numberChars {text : String} (h : ∀ c ∈ text.toList, isNumberChar c = true) :
    Nameless text := by
  intro c hc heq
  subst heq
  exact absurd (h 'C' (List.mem_of_mem_head? hc)) (by decide)

theorem isNumberChar_of_mem_toDigits {n : Nat} {c : Char} (h : c ∈ Nat.toDigits 10 n) :
    isNumberChar c = true := by
  rw [isNumberChar, Nat.isDigit_of_mem_toDigits (by decide) (Nat.le_refl 10) h, Bool.true_or]

open Waymark.Decimal (Binary64 Layout Shortest)

theorem isNumberChar_of_mem_digits {mantissa : Nat} {exponent : Int} {c : Char}
    (h : c ∈ (Shortest.ofBinary mantissa exponent).digits) : isNumberChar c = true := by
  unfold Shortest.ofBinary at h
  exact isNumberChar_of_mem_toDigits h

theorem isNumberChar_of_mem_positional {s : Shortest}
    (hs : ∀ c ∈ s.digits, isNumberChar c = true) {c : Char} (h : c ∈ Layout.positional s) :
    isNumberChar c = true := by
  -- whatever is put between the digits is a zero or the point
  have hzero : ∀ {k : Nat} {c : Char}, c ∈ List.replicate k '0' → isNumberChar c = true := by
    intro k c hc
    rw [List.eq_of_mem_replicate hc]
    rfl
  unfold Layout.positional at h
  dsimp only at h
  split at h
  · simp only [List.mem_cons, List.mem_append] at h
    rcases h with rfl | rfl | h | h
    · rfl
    · rfl
    · exact hzero h
    · exact hs c h
  split at h
  · simp only [List.mem_cons, List.mem_append, List.not_mem_nil, or_false] at h
    rcases h with (h | h) | rfl | rfl
    · exact hs c h
    · exact hzero h
    · rfl
    · rfl
  · simp only [List.mem_cons, List.mem_append] at h
    rcases h with h | rfl | h
    · exact hs c (List.mem_of_mem_take h)
    · rfl
    · exact hs c (List.mem_of_mem_drop h)

/-- The first digit is set apart by a point. -/
theorem isNumberChar_of_mem_pointed {digits : List Char}
    (hs : ∀ c ∈ digits, isNumberChar c = true) {c : Char}
    (hc : c ∈ (match digits with
      | [] => []
      | [d] => [d]
      | d :: rest => d :: '.' :: rest)) : isNumberChar c = true := by
  split at hc
  · cases hc
  · exact hs c hc
  · next d rest _ =>
    rcases List.mem_cons.mp hc with rfl | hc
    · exact hs c List.mem_cons_self
    rcases List.mem_cons.mp hc with rfl | hc
    · rfl
    · exact hs c (List.mem_cons_of_mem d hc)

theorem isNumberChar_of_mem_scientific {s : Shortest}
    (hs : ∀ c ∈ s.digits, isNumberChar c = true) {c : Char}
    (h : c ∈ numberLayout.scientific s) : isNumberChar c = true := by
  -- the signs belong to numbers as well
  have hsign : ∀ {c : Char} {condition : Prop} [Decidable condition],
      c ∈ (if condition then ['-'] else numberLayout.plus) → isNumberChar c = true := by
    intro c condition _ hc
    split at hc
    · rw [List.mem_singleton.mp hc]
      rfl
    · rw [List.mem_singleton.mp hc]
      rfl
  unfold Layout.scientific at h
  dsimp only at h
  simp only [List.mem_append, List.mem_cons] at h
  rcases h with ((h | rfl | h) | h) | h
  · exact isNumberChar_of_mem_pointed hs h
  · rfl
  · exact hsign h
  · rw [List.eq_of_mem_replicate h]
    rfl
  · exact isNumberChar_of_mem_toDigits h

theorem isNumberChar_of_mem_render {x : Binary64} {c : Char}
    (h : c ∈ (numberLayout.render x).toList) : isNumberChar c = true := by
  cases x with
  | nan =>
    have hnan : "(1e309-1e309)".toList.all isNumberChar = true := by decide
    exact List.all_eq_true.mp hnan c h
  -- what is no finite number is written as a number that is too large
  | infinite negative =>
    have hinfinite :
        ((if negative then "-" else "") ++ "1e309").toList.all isNumberChar = true := by
      cases negative <;> decide
    exact List.all_eq_true.mp hinfinite c h
  | finite negative mantissa exponent =>
    have hbody : ∀ body : List Char, (∀ c ∈ body, isNumberChar c = true) →
        c ∈ (String.ofList (if negative then '-' :: body else body)).toList →
        isNumberChar c = true := by
      intro body hbody hc
      rw [String.toList_ofList] at hc
      split at hc
      · rcases List.mem_cons.mp hc with rfl | hc
        · rfl
        · exact hbody c hc
      · exact hbody c hc
    refine hbody _ ?_ h
    intro c hc
    dsimp only at hc
    split at hc
    · have hzero : ['0', '.', '0'].all isNumberChar = true := by decide
      exact List.all_eq_true.mp hzero c hc
    split at hc
    · exact isNumberChar_of_mem_positional (fun _ => isNumberChar_of_mem_digits) hc
    · exact isNumberChar_of_mem_scientific (fun _ => isNumberChar_of_mem_digits) hc

theorem isNumberChar_of_mem_imaginaryText {x : Binary64} {c : Char}
    (h : c ∈ (imaginaryText x).toList) : isNumberChar c = true := by
  unfold imaginaryText at h
  dsimp only at h
  rw [String.toList_append, String.toList_ofList] at h
  rcases List.mem_append.mp h with h | h
  · split at h
    · next front hfront =>
      refine isNumberChar_of_mem_render (x := x) (List.mem_reverse.mp ?_)
      rw [hfront]
      exact List.mem_cons_of_mem _ (List.mem_cons_of_mem _ (List.mem_reverse.mp h))
    · exact isNumberChar_of_mem_render h
  -- the mark of an imaginary number is the last character
  · have hc : c ∈ ['j'] := h
    rw [List.mem_singleton.mp hc]
    rfl

theorem preferredQuote_ne (codes : List Nat) : Text.preferredQuote codes ≠ 'C' := by
  unfold Text.preferredQuote
  split
  · decide
  · decide

theorem nameless_spell (value : Literal) : Nameless (value.spell false) := by
  cases value with
  | none => exact .of_head rfl (by decide)
  | true => exact .of_head rfl (by decide)
  | false => exact .of_head rfl (by decide)
  | ellipsis => exact .of_head rfl (by decide)
  | integer n =>
    refine .of_numberChars fun c hc => isNumberChar_of_mem_toDigits (n := n) ?_
    rwa [Literal.spell, Nat.toString_eq_ofList_toDigits, String.toList_ofList] at hc
  | float x => exact .of_numberChars fun c hc => isNumberChar_of_mem_render hc
  | imaginary x => exact .of_numberChars fun c hc => isNumberChar_of_mem_imaginaryText hc
  -- a text begins with its mark or with a quote
  | text codes marked =>
    cases marked with
    | true =>
      exact .of_head (head?_toList_append (a := "u") rfl (Text.quoteCodes codes)) (by decide)
    | false =>
      have htext : ("" ++ Text.quoteCodes codes).toList = _ :=
        (congrArg String.toList String.empty_append).trans String.toList_ofList
      exact .of_head (congrArg List.head? htext) (preferredQuote_ne codes)
  | bytes values =>
    have htext : (Text.quoteBytes values).toList = _ := String.toList_ofList
    exact .of_head (congrArg List.head? htext) (by decide)

/-! ## Texts of forms -/

theorem exists_intercalate_eq {separator text : String} {texts : List String}
    (h : ∀ after, Breaks (separator ++ after)) :
    ∃ rest, Breaks rest ∧ separator.intercalate (text :: texts) = text ++ rest := by
  cases texts with
  | nil => exact ⟨"", breaks_empty, by simp⟩
  | cons next later =>
    exact ⟨_, h _, by rw [String.intercalate_cons_cons, String.append_assoc]⟩

/-- The text of the first part stands in front, and what comes after it is no part of a name. -/
theorem Form.exists_spell_eq {form : Form} (parts : List Expr) (text : String) (texts : List String)
    (hbegins : form.beginsWithPart = true) (htakes : form.Takes (texts.length + 1)) :
    ∃ rest, Breaks rest ∧ form.spell parts (text :: texts) = text ++ rest := by
  have hsign : ∀ {a : String} {c : Char} (b : String), a.toList.head? = some c →
      isNameChar c = false → Breaks (a ++ b) := fun b ha hc => .of_head (head?_toList_append ha b) hc
  -- behind the first part comes a sign that ends any name
  match form, htakes with
  | .attribute name, _ =>
    refine ⟨(if parts.any Expr.isInteger then " ." else ".") ++ name, ?_, String.append_assoc⟩
    split
    · exact hsign name rfl (by decide)
    · exact hsign name rfl (by decide)
  | .subscript, htakes =>
    obtain ⟨index, rfl⟩ := List.length_eq_one_iff.mp (Nat.succ.inj htakes)
    refine ⟨"[" ++ (index ++ "]"), hsign _ rfl (by decide), ?_⟩
    simp only [Form.spell, String.append_assoc]
  | .call positional keywords, _ =>
    obtain ⟨inside, hspell⟩ : ∃ inside, Form.spell (.call positional keywords) parts (text :: texts)
        = text ++ "(" ++ inside ++ ")" := ⟨_, rfl⟩
    refine ⟨"(" ++ (inside ++ ")"), hsign _ rfl (by decide), ?_⟩
    rw [hspell, String.append_assoc, String.append_assoc]
  | .binary op, htakes =>
    obtain ⟨right, rfl⟩ := List.length_eq_one_iff.mp (Nat.succ.inj htakes)
    refine ⟨" " ++ (op.sign ++ (" " ++ right)), hsign _ rfl (by decide), ?_⟩
    simp only [Form.spell, String.append_assoc]
  | .boolean op, _ =>
    refine exists_intercalate_eq fun after => ?_
    rw [String.append_assoc, String.append_assoc]
    exact hsign _ rfl (by decide)
  | .comparison ops, _ =>
    refine ⟨_, Breaks.join fun joined hjoined => ?_, rfl⟩
    obtain ⟨⟨op, right⟩, _, rfl⟩ := List.mem_map.mp hjoined
    dsimp only
    rw [String.append_assoc, String.append_assoc]
    exact hsign _ rfl (by decide)
  | .slice true upper step, _ =>
    obtain ⟨middle, last, hspell⟩ : ∃ middle last,
        Form.spell (.slice true upper step) parts (text :: texts)
          = String.join [text] ++ ":" ++ middle ++ last := ⟨_, _, rfl⟩
    refine ⟨":" ++ (middle ++ last), hsign _ rfl (by decide), ?_⟩
    rw [hspell, String.join_cons, String.join_nil, String.append_empty, String.append_assoc,
      String.append_assoc]

/-! ## Texts of expressions -/

theorem length_printParts (inner : Bool) (form : Form) (index : Nat) (parts : List Expr) :
    (printParts inner form index parts).length = parts.length := by
  induction parts generalizing index with
  | nil => simp [printParts]
  | cons e rest ih => rw [printParts, List.length_cons, ih, List.length_cons]

theorem Form.test_le_partLevel {form : Form} (h : form.beginsWithPart = true) (first : Expr) :
    Level.test ≤ form.partLevel 0 first := by
  match form with
  | .attribute _ | .subscript | .call _ _ | .comparison _ | .slice true _ _ =>
    exact Nat.le_of_ble_eq_true rfl
  | .binary op => cases op <;> exact Nat.le_of_ble_eq_true rfl
  | .boolean op => cases op <;> exact Nat.le_of_ble_eq_true rfl

theorem Form.not_takes_zero {form : Form} (h : form.beginsWithPart = true) : ¬form.Takes 0 := by
  match form with
  | .attribute _ | .subscript | .binary _ | .comparison _ => exact fun htakes => by cases htakes
  | .call _ _ | .slice true _ _ =>
    intro htakes
    simp only [Form.Takes, Bool.toNat_true] at htakes
    omega
  | .boolean _ => exact fun htakes => by cases htakes

/-- The text of a form that is well-formed, apart from formatted texts. -/
theorem print_apply {form : Form} {parts : List Expr} (h : form.Takes parts.length) (inner : Bool)
    (level : Level) : Expr.print inner level (.apply form parts)
      = enclosed (form.isEnclosed level parts) (form.spell parts (printParts inner form 0 parts)) := by
  rw [Expr.print]
  · rintro rfl
    exact h
  · rintro conversion rfl
    exact h

theorem nameless_enclosed (text : String) : Nameless (enclosed true text) := by
  rw [enclosed, if_pos rfl, String.append_assoc]
  exact .of_head (head?_toList_append (a := "(") rfl _) (by decide)

/-- What is written with its first part in front, or is in parentheses, apart, a form begins with a
    sign or a keyword of its own. -/
theorem Form.nameless_spell {form : Form} {parts : List Expr} {texts : List String}
    (hbegins : form.beginsWithPart = false) (hconditional : form ≠ .conditional) {level : Level}
    (hlevel : Level.test ≤ level) (hopen : form.isEnclosed level parts = false)
    (htakes : form.Takes texts.length) : Nameless (form.spell parts texts) := by
  have hsign : ∀ {a : String} {c : Char} (b : String), a.toList.head? = some c → c ≠ 'C' →
      Nameless (a ++ b) := fun b ha hc => .of_head (head?_toList_append ha b) hc
  have hbracket : ∀ {a : String} {c : Char} (b d : String), a.toList.head? = some c → c ≠ 'C' →
      Nameless (a ++ b ++ d) := fun b d ha hc =>
    .of_head (head?_toList_append (head?_toList_append ha b) d) hc
  -- the levels below are not reached
  have hlow : ∀ {low : Level}, low < Level.test → decide (level > low) = false → False := by
    intro low hlt hle
    exact absurd (lt_of_lt_of_le hlt hlevel) (of_decide_eq_false hle)
  match form, htakes with
  | .tuple, _ => exact (hlow (by decide) (Bool.or_eq_false_iff.mp hopen).2).elim
  | .named, _ => exact (hlow (by decide) hopen).elim
  | .yield, _ => exact (hlow (by decide) hopen).elim
  | .yieldFrom, _ => exact (hlow (by decide) hopen).elim
  | .conditional, _ => exact absurd rfl hconditional
  | .list, _ => exact hbracket (a := "[") _ _ rfl (by decide)
  | .set, _ =>
    cases texts with
    | nil =>
      have hempty : "\x7b*()\x7d".toList.head? = some '\x7b' := rfl
      exact .of_head hempty (by decide)
    | cons text rest => exact hbracket (a := "\x7b") _ _ rfl (by decide)
  | .dictionary _, _ => exact hbracket (a := "\x7b") _ _ rfl (by decide)
  | .unary op, htakes =>
    obtain ⟨operand, rfl⟩ := List.length_eq_one_iff.mp htakes
    cases op with
    | invert => exact hsign (a := "~") operand rfl (by decide)
    | not => exact hsign (a := "not ") operand rfl (by decide)
    | plus => exact hsign (a := "+") operand rfl (by decide)
    | minus => exact hsign (a := "-") operand rfl (by decide)
  | .lambda params, _ =>
    obtain ⟨shown, body, hspell⟩ : ∃ shown body, Form.spell (.lambda params) parts texts
        = "lambda" ++ shown ++ ": " ++ body := ⟨_, _, rfl⟩
    rw [hspell, String.append_assoc]
    exact hbracket (a := "lambda") _ _ rfl (by decide)
  | .comprehension .dictionary _, htakes =>
    match texts, htakes with
    | key :: value :: rest, _ =>
      simp only [Form.spell, String.append_assoc]
      exact hsign (a := "\x7b") _ rfl (by decide)
  | .comprehension .list _, htakes =>
    match texts, htakes with
    | element :: rest, _ => exact hbracket (a := "[") _ _ rfl (by decide)
  | .comprehension .set _, htakes =>
    match texts, htakes with
    | element :: rest, _ => exact hbracket (a := "\x7b") _ _ rfl (by decide)
  | .comprehension .generator _, htakes =>
    match texts, htakes with
    | element :: rest, _ => exact hbracket (a := "(") _ _ rfl (by decide)
  | .await, htakes =>
    obtain ⟨value, rfl⟩ := List.length_eq_one_iff.mp htakes
    exact hsign (a := "await ") value rfl (by decide)
  | .starred, htakes =>
    obtain ⟨value, rfl⟩ := List.length_eq_one_iff.mp htakes
    exact hsign (a := "*") value rfl (by decide)
  | .slice false upper step, _ =>
    obtain ⟨middle, last, hspell⟩ : ∃ middle last,
        Form.spell (.slice false upper step) parts texts
          = String.join [] ++ ":" ++ middle ++ last := ⟨_, _, rfl⟩
    rw [hspell, String.join_nil, String.empty_append]
    exact hbracket (a := ":") _ _ rfl (by decide)

theorem nameless_formattedText (parts : List (Bool × List Nat)) : Nameless (formattedText parts) := by
  have hmark : ∀ codes : List Nat, Nameless (ofCodes (0x66 :: codes)) := fun codes =>
    .of_head (congrArg List.head? (String.toList_ofList (l := _ :: codes.map Char.ofNat))) (by decide)
  unfold formattedText
  split
  · exact hmark _
  · exact hmark _

/-- By induction on the tree: the text begins with the name that the tree leads to, or with no
    name. -/
theorem Expr.leads_or_not {n : Nat} {e : Expr} (h : e.Read n) {level : Level}
    (hlevel : Level.test ≤ level) :
    (∃ id rest, e.leadingName? level = some id ∧ Breaks rest ∧ e.print false level = id ++ rest) ∨
      e.leadingName? level = none ∧ Nameless (e.print false level) := by
  induction h generalizing level with
  | @name id =>
    rw [Expr.print, leadingName?]
    exact .inl ⟨id, "", rfl, breaks_empty, String.append_empty.symm⟩
  | text =>
    rw [Expr.print, leadingName?]
    exact .inr ⟨rfl, nameless_spell _⟩
  | literal =>
    rw [Expr.print, leadingName?]
    exact .inr ⟨rfl, nameless_spell _⟩
  | joined =>
    rw [Expr.print]
    exact .inr ⟨leadingName?_of_not rfl Form.noConfusion, nameless_formattedText _⟩
  | @apply form parts takes _ ih =>
    rw [print_apply takes]
    -- behind a bracket there is no leading name; else the first part decides
    cases hopen : form.isEnclosed level parts with
    | true => exact .inr ⟨leadingName?_of_isEnclosed hopen, nameless_enclosed _⟩
    | false =>
      rw [enclosed, if_neg Bool.false_ne_true]
      cases hbegins : form.beginsWithPart with
      | true =>
        cases parts with
        | nil => exact absurd takes (Form.not_takes_zero hbegins)
        | cons first rest =>
          obtain ⟨after, hafter, hspell⟩ := Form.exists_spell_eq (first :: rest)
            (first.print false (form.partLevel 0 first)) (printParts false form 1 rest) hbegins
            (by rwa [length_printParts])
          rw [printParts, hspell, leadingName?_of_beginsWithPart hopen hbegins]
          rcases ih first List.mem_cons_self (Form.test_le_partLevel hbegins first) with
            ⟨id, between, hleads, hbetween, hprint⟩ | ⟨hnot, hnameless⟩
          · rw [hprint, String.append_assoc]
            exact .inl ⟨id, _, hleads, hbetween.append hafter, rfl⟩
          · exact .inr ⟨hnot, hnameless.append hafter⟩
      | false =>
        by_cases hconditional : form = .conditional
        · subst hconditional
          obtain ⟨condition, value, other, rfl⟩ := List.length_eq_three.mp takes
          have hlevel : Level.test ≤ Form.conditional.partLevel 1 value :=
            Nat.le_of_ble_eq_true rfl
          have hafter : ∀ b, Breaks (" if " ++ b) := fun b =>
            .of_head (head?_toList_append (a := " if ") rfl b) (by decide)
          simp only [printParts, Form.spell, String.append_assoc]
          rw [leadingName?_conditional hopen]
          rcases ih value (by simp) hlevel with
            ⟨id, between, hleads, hbetween, hprint⟩ | ⟨hnot, hnameless⟩
          · rw [hprint, String.append_assoc]
            exact .inl ⟨id, _, hleads, hbetween.append (hafter _), rfl⟩
          · exact .inr ⟨hnot, hnameless.append (hafter _)⟩
        · refine .inr ⟨leadingName?_of_not hbegins hconditional, ?_⟩
          exact Form.nameless_spell hbegins hconditional hlevel hopen (by rwa [length_printParts])

/-- A word of characters that names have ends in front of where the name breaks off. -/
theorem isPrefix_append_iff {word id rest : List Char} (hword : ∀ c ∈ word, isNameChar c = true)
    (hrest : ∀ c ∈ rest.head?, isNameChar c = false) : word <+: id ++ rest ↔ word <+: id := by
  refine ⟨fun h => ?_, fun h => h.trans (List.prefix_append id rest)⟩
  rcases Nat.le_total word.length id.length with hle | hle
  · exact List.prefix_of_prefix_length_le h (List.prefix_append id rest) hle
  obtain ⟨more, rfl⟩ := List.prefix_of_prefix_length_le (List.prefix_append id rest) h hle
  cases more with
  | nil => exact (List.append_nil id).symm ▸ List.prefix_rfl
  | cons c more =>
    obtain ⟨after, rfl⟩ := (List.prefix_append_right_inj id).mp h
    have hc := hword c (List.mem_append_right id List.mem_cons_self)
    rw [hrest c rfl] at hc
    cases hc

/-- **Whether a text begins with `ClassVar` is a matter of the name that its tree leads to.** -/
theorem startsWith_print_eq {n : Nat} {e : Expr} (h : e.Read n) :
    (e.print false Level.test).startsWith "ClassVar"
      = (e.leadingName? Level.test).any fun id => id.startsWith "ClassVar" := by
  have hword : ∀ c ∈ "ClassVar".toList, isNameChar c = true :=
    List.all_eq_true.mp (by decide)
  rcases Expr.leads_or_not h (le_refl Level.test) with
    ⟨id, rest, hleads, hbreaks, hprint⟩ | ⟨hnot, hnameless⟩
  · rw [hleads, hprint, Option.any_some, Bool.eq_iff_iff, String.startsWith_string_iff,
      String.startsWith_string_iff, String.toList_append, isPrefix_append_iff hword hbreaks]
  · rw [hnot, Option.any_none, Bool.eq_false_iff, Ne, String.startsWith_string_iff]
    rintro ⟨rest, hrest⟩
    exact absurd rfl (hnameless 'C' (by rw [← hrest]; rfl))

end Grammar

end Waymark

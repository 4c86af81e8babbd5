import Mathlib.Tactic.IntervalCases
import Waymark.Grammar.Statement

/-! # The length of text literals

    A text is not longer than the source it is read from, and a text literal loses at least its
    quotes. So what is quoted inside a text is shorter than the text, however deep quotes are
    nested.

    * `length_decodeText_le`: an escape stands for at most as many characters as it is written with.
    * A token takes its spelling away from the source (`lexStep_leaves`, one lemma for each kind of
      lexeme).
    * `weightOf_tokenize_le`: what stands between quotes in a text is shorter than the text.
-/

namespace Waymark

namespace Grammar

/-! ## Escapes -/

/-- The characters that mean something else after a backslash. -/
def escapable : List Char :=
  ['\n', '\\', '\'', '"', 'a', 'b', 't', 'n', 'v', 'f', 'r', '0', '1', '2', '3', '4', '5', '6', '7',
    'x', 'u', 'U', 'N']

theorem decodeText_eq_drop (skip : Nat) (cs : List Char) :
    decodeText skip cs = decodeText 0 (cs.drop skip) := by
  induction skip generalizing cs with
  | zero => rfl
  | succ skip ih =>
    cases cs with
    | nil => simp [decodeText]
    | cons c rest => rw [decodeText, ih, List.drop_succ_cons]

theorem isOctalDigit_iff {c : Char} :
    isOctalDigit c = true ↔ c ∈ ['0', '1', '2', '3', '4', '5', '6', '7'] := by
  constructor
  · intro h
    have hrange : 48 ≤ c.toNat ∧ c.toNat ≤ 55 := by
      simpa [isOctalDigit, Char.le_def, UInt32.le_iff_toNat_le] using h
    have hc : c = Char.ofNat c.toNat := (Char.ofNat_toNat c).symm
    obtain ⟨hlow, hhigh⟩ := hrange
    generalize c.toNat = n at hc hlow hhigh
    subst hc
    interval_cases n <;> decide
  · intro h
    simp only [List.mem_cons, List.not_mem_nil, or_false] at h
    rcases h with rfl | rfl | rfl | rfl | rfl | rfl | rfl | rfl <;> rfl

/-- A backslash without a meaning of its own stands for itself, and so does what follows it. -/
theorem decodeText_of_not_escapable {c : Char} (hc : c ∉ escapable) (rest : List Char) :
    decodeText 0 ('\\' :: c :: rest)
      = (decodeText 0 rest).map fun later => '\\'.toNat :: c.toNat :: later := by
  have hoctal : isOctalDigit c = false := by
    rw [Bool.eq_false_iff, Ne, isOctalDigit_iff]
    intro h
    refine hc ?_
    simp only [List.mem_cons, List.not_mem_nil, or_false] at h
    rcases h with rfl | rfl | rfl | rfl | rfl | rfl | rfl | rfl <;> decide
  simp only [escapable, List.mem_cons, List.not_mem_nil, or_false, not_or] at hc
  have hsimple : simpleEscape? c = none := by
    simp [simpleEscape?, hc]
  rw [decodeText]
  simp [hc, hsimple, hoctal, decodeText]

theorem cases_of_mem_escapable {c : Char} (hc : c ∈ escapable) :
    c = '\n' ∨ c = 'x' ∨ c = 'u' ∨ c = 'U' ∨ c = 'N' ∨ (simpleEscape? c).isSome = true ∨
      isOctalDigit c = true := by
  simp only [escapable, List.mem_cons, List.not_mem_nil, or_false] at hc
  rcases hc with rfl | rfl | rfl | rfl | rfl | rfl | rfl | rfl | rfl | rfl | rfl | rfl | rfl | rfl |
    rfl | rfl | rfl | rfl | rfl | rfl | rfl | rfl | rfl <;> decide

/-- An escape stands for one character, or none. -/
theorem exists_decodeText_of_escapable {c : Char} {rest : List Char} {codes : List Nat}
    (hc : c ∈ escapable) (h : decodeText 0 ('\\' :: c :: rest) = some codes) :
    ∃ skip later, decodeText skip rest = some later ∧ codes.length ≤ later.length + 1 := by
  have hnumbered : ∀ width, (do
      let code ← hexEscape? width rest
      if code ≥ 0x110000 then none
      let later ← decodeText (width + 1) (c :: rest)
      return code :: later) = some codes →
      ∃ skip later, decodeText skip rest = some later ∧ codes.length ≤ later.length + 1 := by
    intro width h
    rw [decodeText] at h
    cases hhex : hexEscape? width rest with
    | none =>
      rw [hhex] at h
      cases h
    | some code =>
      cases hlater : decodeText width rest with
      | none =>
        rw [hhex, hlater] at h
        simp at h
      | some later =>
        rw [hhex, hlater] at h
        obtain ⟨_, rfl⟩ : code < 0x110000 ∧ code :: later = codes := by simpa using h
        exact ⟨width, later, hlater, le_refl _⟩
  have hmapped : ∀ skip (code : Nat), (decodeText (skip + 1) (c :: rest)).map (code :: ·)
      = some codes → ∃ skip later, decodeText skip rest = some later ∧
        codes.length ≤ later.length + 1 := by
    intro skip code h
    rw [decodeText] at h
    obtain ⟨later, hlater, rfl⟩ := Option.map_eq_some_iff.mp h
    exact ⟨skip, later, hlater, le_refl _⟩
  rw [decodeText] at h
  dsimp only at h
  split at h
  · rw [decodeText] at h
    exact ⟨0, codes, h, Nat.le_succ _⟩
  split at h
  · exact hnumbered 2 h
  split at h
  · exact hnumbered 4 h
  split at h
  · exact hnumbered 8 h
  split at h
  · cases h
  split at h
  · exact hmapped 0 _ h
  split at h
  · next hoctal =>
    -- there is at least one digit
    rw [List.take_succ_cons, List.takeWhile_cons_of_pos hoctal, List.length_cons] at h
    exact hmapped _ _ h
  · next hsimple hoctal =>
    -- nothing else can be escaped
    rcases cases_of_mem_escapable hc with rfl | rfl | rfl | rfl | rfl | hmeans | hmeans
    all_goals simp_all

theorem decodeText_of_ne {c : Char} (hc : c ≠ '\\') (rest : List Char) :
    decodeText 0 (c :: rest) = (decodeText 0 rest).map (c.toNat :: ·) := by
  rw [decodeText]
  exact fun _ _ heq => absurd heq hc

/-- What is read of a text is not longer than the text. -/
theorem length_decodeText_le {cs : List Char} {codes : List Nat}
    (h : decodeText 0 cs = some codes) : codes.length ≤ cs.length := by
  induction hlength : cs.length using Nat.strong_induction_on generalizing cs codes with
  | _ n ih =>
    match cs with
    | [] =>
      obtain rfl : [] = codes := by simpa [decodeText] using h
      exact Nat.zero_le _
    | [c] =>
      obtain rfl : [c.toNat] = codes := by simpa [decodeText] using h
      exact hlength.le
    | c :: d :: rest =>
      by_cases hc : c = '\\'
      · subst hc
        -- an escape takes several characters and gives one code at most
        by_cases hd : d ∈ escapable
        · obtain ⟨skip, later, hlater, hle⟩ := exists_decodeText_of_escapable hd h
          rw [decodeText_eq_drop] at hlater
          have hshort : (rest.drop skip).length < n := by
            rw [List.length_drop, ← hlength]
            simp only [List.length_cons]
            omega
          have := ih _ hshort hlater rfl
          simp only [List.length_drop, List.length_cons] at this hlength
          omega
        -- a backslash before any other character stands for itself
        · rw [decodeText_of_not_escapable hd] at h
          obtain ⟨later, hlater, rfl⟩ := Option.map_eq_some_iff.mp h
          have := ih rest.length (by simp only [← hlength, List.length_cons]; omega) hlater rfl
          simp only [List.length_cons] at hlength ⊢
          omega
      · rw [decodeText_of_ne hc] at h
        obtain ⟨later, hlater, rfl⟩ := Option.map_eq_some_iff.mp h
        have := ih (d :: rest).length (by simp only [← hlength, List.length_cons]; omega) hlater rfl
        simp only [List.length_cons] at hlength this ⊢
        omega

/-! ## Lexemes -/

/-- What is left after reading, if something is read, is at most that long. -/
def LeavesAtMost (n : Nat) (read : Option (List Char × List Char)) : Prop :=
  ∀ found ∈ read, found.2.length ≤ n

namespace LeavesAtMost

variable {n m : Nat} {read : Option (List Char × List Char)} {cs after : List Char}

theorem none : LeavesAtMost n none := by
  simp [LeavesAtMost]

theorem some (h : after.length ≤ n) : LeavesAtMost n (some (cs, after)) := by
  simpa [LeavesAtMost] using h

theorem mono (h : LeavesAtMost n read) (hle : n ≤ m) : LeavesAtMost m read :=
  fun found hfound => (h found hfound).trans hle

/-- What is made of the characters that were read does not matter. -/
theorem map (h : LeavesAtMost n read) {f : List Char × List Char → List Char × List Char}
    (hf : ∀ found, (f found).2 = found.2) : LeavesAtMost n (read.map f) := by
  intro found hfound
  obtain ⟨before, hbefore, rfl⟩ := Option.map_eq_some_iff.mp hfound
  rw [hf]
  exact h before hbefore

theorem bind (h : LeavesAtMost n read) {f : List Char × List Char → Option (List Char × List Char)}
    (hf : ∀ ds after : List Char, after.length ≤ n → LeavesAtMost m (f (ds, after))) :
    LeavesAtMost m (read >>= f) := by
  intro found hfound
  obtain ⟨⟨ds, after⟩, hbefore, hfound⟩ := Option.bind_eq_some_iff.mp hfound
  exact hf ds after (h _ hbefore) found hfound

/-- What goes on from where reading ended leaves no more than was left there. -/
theorem andThen (h : LeavesAtMost n read) (hle : n ≤ m)
    {f : List Char × List Char → Option (List Char × List Char)}
    (hf : ∀ ds after : List Char, LeavesAtMost after.length (f (ds, after))) :
    LeavesAtMost m (read >>= f) :=
  h.bind fun ds after hafter => (hf ds after).mono (hafter.trans hle)

theorem ite {condition : Prop} [Decidable condition] {other : Option (List Char × List Char)}
    (h : LeavesAtMost n read) (hother : LeavesAtMost n other) :
    LeavesAtMost n (if condition then read else other) := by
  split
  · exact h
  · exact hother

end LeavesAtMost

theorem digitTail_leaves (isDigit : Char → Bool) (cs : List Char) :
    LeavesAtMost cs.length (digitTail isDigit cs) := by
  fun_induction digitTail isDigit cs with
  | case1 d rest hd ih =>
    refine LeavesAtMost.mono (.map ih fun _ => rfl) ?_
    simp only [List.length_cons]
    omega
  | case2 => exact .none
  | case3 => exact .none
  | case4 c rest _ _ hc ih => exact LeavesAtMost.mono (.map ih fun _ => rfl) (Nat.le_succ _)
  | case5 => exact .some le_rfl
  | case6 => exact .some le_rfl

theorem basedDigits_leaves (isDigit : Char → Bool) (cs : List Char) :
    LeavesAtMost cs.length (basedDigits isDigit cs) := by
  unfold basedDigits
  dsimp only
  split
  · next d rest hrest =>
    -- an underscore may stand in front of the digits
    have hle : rest.length ≤ cs.length := by
      have hlength := congrArg List.length hrest
      split at hlength
      · simp only [List.length_cons] at hlength ⊢
        omega
      · simp only [List.length_cons] at hlength
        omega
    exact .ite (.mono (.map (digitTail_leaves isDigit rest) fun _ => rfl) hle) .none
  · exact .none

theorem endNumber_leaves (digits rest : List Char) :
    LeavesAtMost rest.length (endNumber digits rest) := by
  unfold endNumber
  split
  · exact .some le_rfl
  · exact .none

theorem imaginaryTail_leaves (digits rest : List Char) :
    LeavesAtMost rest.length (imaginaryTail digits rest) := by
  unfold imaginaryTail
  split
  · split
    · exact (endNumber_leaves _ _).mono (Nat.le_succ _)
    · exact endNumber_leaves _ _
  · exact .some (Nat.zero_le _)

theorem exponentTail_leaves (digits rest : List Char) :
    LeavesAtMost rest.length (exponentTail digits rest) := by
  unfold exponentTail
  -- an exponent with or without a sign, or none
  split
  · split
    · split
      · split
        · split
          · split
            · exact (digitTail_leaves _ _).andThen (by simp only [List.length_cons]; omega)
                fun _ _ => imaginaryTail_leaves _ _
            · exact .none
          · exact .none
        · split
          · exact (digitTail_leaves _ _).andThen (by simp only [List.length_cons]; omega)
              fun _ _ => imaginaryTail_leaves _ _
          · exact endNumber_leaves _ _
      · exact endNumber_leaves _ _
    · exact imaginaryTail_leaves _ _
  · exact .some (Nat.zero_le _)

theorem fractionTail_leaves (digits rest : List Char) :
    LeavesAtMost rest.length (fractionTail digits rest) := by
  unfold fractionTail
  split
  · split
    · exact (digitTail_leaves _ _).andThen (Nat.le_succ _) fun _ _ => exponentTail_leaves _ _
    · exact exponentTail_leaves _ _
  · exact .some (Nat.zero_le _)

theorem decimalTail_leaves (digits rest : List Char) :
    LeavesAtMost rest.length (decimalTail digits rest) := by
  unfold decimalTail
  split
  · exact (fractionTail_leaves _ _).mono (Nat.le_succ _)
  · exact exponentTail_leaves _ _

theorem lexNumber_leaves (d : Char) (rest : List Char) :
    LeavesAtMost rest.length (lexNumber d rest) := by
  unfold lexNumber
  extract_lets based decimal
  -- a number is based or decimal; the branches only choose between the two
  have hbased : ∀ (mark : Char) (isDigit : Char → Bool) (after : List Char),
      after.length ≤ rest.length → LeavesAtMost rest.length (based mark isDigit after) :=
    fun mark isDigit after hle =>
      (basedDigits_leaves _ _).andThen hle fun ds r => endNumber_leaves _ _
  have hdecimal : LeavesAtMost rest.length decimal :=
    (digitTail_leaves _ _).andThen le_rfl fun ds r => .ite .none (decimalTail_leaves _ _)
  split
  · split
    · next c after =>
      have hle : after.length ≤ (c :: after).length := Nat.le_succ _
      split
      · exact hbased _ _ _ hle
      · split
        · split
          · split
            · exact .none
            · exact hbased _ _ _ hle
          · exact hbased _ _ _ hle
        · split
          · split
            · split
              · exact .none
              · exact hbased _ _ _ hle
            · exact hbased _ _ _ hle
          · exact hdecimal
    · exact hdecimal
  · exact hdecimal

/-! ## Literals in quotes -/

/-- What is read to the end of a literal is taken away from the source. -/
theorem length_lexQuoted {quote : Char} {size left : Nat} {cs read after : List Char}
    (h : lexQuoted quote size left cs = some (read, after)) :
    read.length + after.length = cs.length := by
  fun_induction lexQuoted quote size left cs generalizing read with
  | case1 =>
    cases h
    simp
  | case2 => cases h
  | case3 _ c rest ih =>
    obtain ⟨⟨s, r⟩, hs, heq⟩ := Option.map_eq_some_iff.mp h
    cases heq
    have := ih hs
    simp only [List.length_cons]
    omega
  | case4 _ c rest _ _ ih =>
    obtain ⟨⟨s, r⟩, hs, heq⟩ := Option.map_eq_some_iff.mp h
    cases heq
    have := ih hs
    simp only [List.length_cons]
    omega
  | case5 => cases h
  | case6 _ c rest _ _ _ ih =>
    obtain ⟨⟨s, r⟩, hs, heq⟩ := Option.map_eq_some_iff.mp h
    cases heq
    have := ih hs
    simp only [List.length_cons]
    omega

/-- A literal begins with the quote character that was read before it. -/
theorem length_lexText {quote : Char} {rest read after : List Char}
    (h : lexText quote rest = some (read, after)) :
    read ≠ [] ∧ read.length + after.length = rest.length + 1 := by
  have hquoted : ∀ {size left : Nat} (front : List Char) {cs : List Char}
      {f : List Char × List Char → List Char × List Char}, (∀ s r, f (s, r) = (front ++ s, r)) →
      front.length + cs.length = rest.length + 1 → front ≠ [] →
      (lexQuoted quote size left cs).map f = some (read, after) →
      read ≠ [] ∧ read.length + after.length = rest.length + 1 := by
    intro size left front cs f hf hfront hne h
    obtain ⟨⟨s, r⟩, hs, heq⟩ := Option.map_eq_some_iff.mp h
    rw [hf] at heq
    cases heq
    have := length_lexQuoted hs
    refine ⟨List.append_ne_nil_of_left_ne_nil hne s, ?_⟩
    rw [List.length_append]
    omega
  -- with three quotes, empty, or with one quote
  unfold lexText at h
  split at h
  · next a b more =>
    split at h
    · split at h
      · exact hquoted [quote, a, b] (fun _ _ => rfl)
          (by simp only [List.length_cons, List.length_nil]; omega) (List.cons_ne_nil _ _) h
      · cases h
        simp only [List.length_cons, List.length_nil]
        exact ⟨List.cons_ne_nil _ _, by omega⟩
    · exact hquoted [quote] (fun _ _ => rfl)
        (by simp only [List.length_cons, List.length_nil]; omega) (List.cons_ne_nil _ _) h
  · split at h
    · cases h
      exact ⟨List.cons_ne_nil _ _, rfl⟩
    · cases h
  · cases h

/-! ## Tokens -/

/-- After one step of cutting at most that much is left, and a text literal took its spelling
    away. -/
def Lexed.Leaves (n : Nat) : Lexed → Prop
  | .token kind spelling _ _ rest =>
    rest.length ≤ n ∧ (kind = .text → spelling ≠ [] ∧ spelling.length + rest.length ≤ n)
  | .lineEnd _ _ rest => rest.length ≤ n
  | .skip _ rest => rest.length ≤ n
  | .finish => True
  | .broken _ _ => True

theorem length_lexOperator_le (cs : List Char) : (lexOperator cs).2.length ≤ cs.length := by
  unfold lexOperator
  split
  · simp only [List.length_drop]
    omega
  · simp only [List.length_drop]
    omega

theorem lexStep_leaves (s : LexState) (cs : List Char) : (lexStep s cs).Leaves cs.length := by
  -- a literal is a text with its prefix; nothing else of its kind is lexed
  have htext : ∀ (word : List Char) {more body rest : List Char} {q : Char} {line : Nat} {state : LexState},
      lexText q more = some (body, rest) → word.length + more.length + 1 ≤ cs.length →
      (Lexed.token .text (word ++ body) line state rest).Leaves cs.length := by
    intro word more body rest q line state hbody hle
    obtain ⟨hne, hlength⟩ := length_lexText hbody
    have := List.length_pos_iff.mpr hne
    refine ⟨by omega, fun _ => ⟨List.append_ne_nil_of_right_ne_nil word hne, ?_⟩⟩
    rw [List.length_append]
    omega
  have hother : ∀ {kind : TokenKind} {spelling rest : List Char} {line : Nat} {state : LexState},
      kind ≠ .text → rest.length ≤ cs.length →
      (Lexed.token kind spelling line state rest).Leaves cs.length :=
    fun hkind hle => ⟨hle, fun h => absurd h hkind⟩
  unfold lexStep
  split
  · trivial
  · exact Nat.le_succ _
  · exact Nat.le_succ _
  · exact Nat.le_succ _
  · next rest =>
    exact ((List.dropWhile_sublist _).length_le).trans (Nat.le_succ rest.length)
  · exact Nat.le_succ _
  · next rest =>
    split
    · trivial
    · simp only [Lexed.Leaves, List.length_cons]
      omega
  · trivial
  · next c rest _ _ _ _ _ _ _ =>
    -- a name is cut off the front, so what is left is no longer
    have hcut : ((c :: rest).takeWhile isNameChar).length
        + ((c :: rest).dropWhile isNameChar).length = (c :: rest).length := by
      rw [← List.length_append, List.takeWhile_append_dropWhile]
    have hrest : rest.length ≤ (c :: rest).length := Nat.le_succ _
    split
    · -- a name, or what stands before a literal
      dsimp only
      split
      · next q more hquoted =>
        split
        · next body _ hbody =>
          refine htext _ hbody ?_
          -- the prefix is the name and the quote stands right behind it
          split at hquoted
          · next d later hafter =>
            split at hquoted
            · cases hquoted
              rw [hafter, List.length_cons] at hcut
              omega
            · cases hquoted
          · cases hquoted
        · trivial
      · split
        · exact hother (by decide) (by omega)
        · trivial
    · split
      · split
        · next hbody => exact htext [] hbody (by simp)
        · trivial
      · split
        · split
          · next hnumber =>
            exact hother (by decide) ((lexNumber_leaves c rest _ hnumber).trans hrest)
          · trivial
        · split
          · split
            · next hfraction =>
              exact hother (by decide) ((fractionTail_leaves ['.'] rest _ hfraction).trans hrest)
            · trivial
          · split
            · split
              · trivial
              · exact hother (by decide) hrest
            · split
              · split
                · split
                  · exact hother (by decide) hrest
                  · trivial
                · trivial
              · split
                · trivial
                · exact hother (by decide) (length_lexOperator_le (c :: rest))

theorem length_measure_le {line after : Nat} {margin found : Margin} {fixed : Option Margin}
    {cs rest : List Char} (h : measure line margin fixed cs = .ok (found, after, rest)) :
    rest.length ≤ cs.length := by
  fun_induction measure line margin fixed cs with
  | case1 _ _ _ rest ih => exact (ih h).trans (Nat.le_succ _)
  | case2 _ _ _ rest ih => exact (ih h).trans (Nat.le_succ _)
  | case3 _ _ _ rest ih => exact (ih h).trans (Nat.le_succ _)
  | case4 => cases h
  | case5 _ _ _ rest _ _ ih => exact (ih h).trans ((Nat.le_succ _).trans (Nat.le_succ _))
  | case6 => cases h
  | case7 =>
    cases h
    exact le_rfl

/-- One more than what stands between the quotes of a text literal; other tokens weigh nothing. -/
def Token.weight (t : Token) : Nat :=
  if t.kind = .text then (TextSpelling.ofChars t.spelling.toList).body.length + 1 else 0

/-- The weight of some tokens together. -/
def weightOf (tokens : List Token) : Nat :=
  (tokens.map Token.weight).sum

@[simp] theorem weightOf_nil : weightOf [] = 0 := rfl

@[simp] theorem weightOf_cons (t : Token) (tokens : List Token) :
    weightOf (t :: tokens) = t.weight + weightOf tokens := rfl

@[simp] theorem weightOf_append (before after : List Token) :
    weightOf (before ++ after) = weightOf before + weightOf after := by
  simp [weightOf]

theorem Token.weight_of_ne {t : Token} (h : t.kind ≠ .text) : t.weight = 0 :=
  if_neg h

theorem weightOf_eq_zero {tokens : List Token} (h : ∀ t ∈ tokens, t.kind ≠ .text) :
    weightOf tokens = 0 := by
  induction tokens with
  | nil => rfl
  | cons t rest ih =>
    obtain ⟨ht, hrest⟩ := List.forall_mem_cons.mp h
    rw [weightOf_cons, Token.weight_of_ne ht, ih hrest]

theorem length_body_lt {spelling : List Char} (h : spelling ≠ []) :
    (TextSpelling.ofChars spelling).body.length < spelling.length := by
  have := List.length_pos_iff.mpr h
  unfold TextSpelling.ofChars
  dsimp only
  simp only [List.length_take, List.length_drop]
  split
  · split
    · omega
    · omega
  · omega

/-- By induction on the steps of cutting, each of which takes from the source what its token
    weighs. -/
theorem weightOf_lexFrom_le (fuel : Nat) (start : Bool) (s : LexState) (index : Nat)
    (cs : List Char) : weightOf (lexFrom fuel start s index cs).1 ≤ cs.length := by
  induction fuel generalizing start s index cs with
  | zero => exact Nat.zero_le _
  | succ fuel ih =>
    cases start with
    | true =>
      unfold lexFrom
      dsimp only
      split
      · exact Nat.zero_le _
      · next margin line rest hmeasure =>
        have hrest := length_measure_le hmeasure
        have hite : ∀ {condition : Prop} [Decidable condition] {a b : List Token × LexState},
            weightOf a.1 ≤ cs.length → weightOf b.1 ≤ cs.length →
            weightOf (if condition then a else b).1 ≤ cs.length := by
          intro condition _ a b ha hb
          split
          · exact ha
          · exact hb
        refine hite ?_ (hite ((ih _ _ _ rest).trans hrest) ?_)
        · split
          · next c after hafter =>
            have hle := (List.dropWhile_sublist (· != '\n') (l := rest)).length_le
            rw [hafter, List.length_cons] at hle
            exact (ih _ _ _ after).trans (by omega)
          · exact (ih _ _ _ []).trans (Nat.zero_le _)
        · split
          · exact Nat.zero_le _
          · next margins closed opened _ =>
            -- the marks of blocks that end or begin are no texts
            rw [weightOf_append, weightOf_eq_zero, Nat.zero_add]
            · exact (ih _ _ _ rest).trans hrest
            · intro t ht
              rcases List.mem_append.mp ht with ht | ht
              · obtain ⟨i, _, rfl⟩ := List.mem_map.mp ht
                simp
              · split at ht
                · rw [List.mem_singleton.mp ht]
                  simp
                · cases ht
    | false =>
      have hstep := lexStep_leaves s cs
      unfold lexFrom
      dsimp only
      cases hlexed : lexStep s cs with
      | token kind spelling line state rest =>
        rw [hlexed] at hstep
        obtain ⟨hrest, htext⟩ := hstep
        have hlater := ih false state (index + 1) rest
        rw [weightOf_cons]
        by_cases hkind : kind = .text
        · obtain ⟨hne, hle⟩ := htext hkind
          have hlt := length_body_lt hne
          simp only [Token.weight, hkind, if_true, String.toList_ofList]
          omega
        · rw [Token.weight_of_ne hkind]
          omega
      | lineEnd isToken state rest =>
        rw [hlexed] at hstep
        have hlater := ih true state
        cases isToken with
        | true =>
          have := hlater (index + 1) rest
          refine le_trans (Nat.le_of_eq ?_) (this.trans hstep)
          exact (congrArg (· + _) (Token.weight_of_ne (by simp))).trans (Nat.zero_add _)
        | false => exact (hlater index rest).trans hstep
      | skip state rest =>
        rw [hlexed] at hstep
        exact (ih false state index rest).trans hstep
      | finish =>
        dsimp only
        split
        · exact Nat.zero_le _
        · exact Nat.zero_le _
      | broken why line => exact Nat.zero_le _

theorem length_unifyLineEnds_le (cs : List Char) :
    (Text.unifyLineEnds cs).length ≤ cs.length := by
  fun_induction Text.unifyLineEnds cs with
  | case1 rest ih => simp only [List.length_cons]; omega
  | case2 rest _ ih => simp only [List.length_cons]; omega
  | case3 c rest _ _ ih => simp only [List.length_cons]; omega
  | case4 => exact le_refl _

/-- **What stands between quotes in a text is shorter than the text**, in all its literals
    together. -/
theorem weightOf_tokenize_le (line : Nat) (cs : List Char) :
    weightOf (tokenize line cs).tokens ≤ cs.length := by
  unfold tokenize
  exact weightOf_lexFrom_le _ _ _ _ _

end Grammar

end Waymark

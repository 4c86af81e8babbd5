import Mathlib.Data.List.Infix
import Waymark.Proofs.Indentation
import Waymark.Proofs.Outline
import Waymark.Proofs.RouteForm
import Waymark.Proofs.TextLiterals

/-! # Routes as docstrings

    The route of a unit stands as it is between triple quotes. Whether that denotes the route is a
    matter of its characters.

    * A literal of three quotes ends where three quotes in a row come that no backslash hides
      (`Closes`, `lexQuoted_eq_some_iff`).
    * The escapes of a text are read as the text itself exactly if there are none
      (`decodeText_eq_self_iff`). All others make it shorter.
    * A line holds one literal with a value if, wherever a token may begin, the line is that token
      and nothing else (`ReadsAsText`).

    The main result is `docstrings_denote_routes_iff`: the line of each class holds a literal with
    its route as value exactly if the route is `Verbatim`. So where all routes of a client are, all
    docstrings of its module are right (`docstrings_right_iff`). Whether the rest of the module is
    read back is a matter of the types in it and of how deep its classes nest, and nothing is said
    of that here.
-/

namespace Waymark

namespace Grammar

/-! ## Where a literal ends -/

/-- The characters are the rest of a literal of triple quotes, `left` of which are to come. -/
inductive Closes : (left : Nat) → List Char → Prop
  | done : Closes 0 []
  | escaped {left : Nat} {c : Char} {cs : List Char} (rest : Closes 3 cs) :
    Closes (left + 1) ('\\' :: c :: cs)
  | quote {left : Nat} {cs : List Char} (rest : Closes left cs) : Closes (left + 1) ('"' :: cs)
  | other {left : Nat} {c : Char} {cs : List Char} (noQuote : c ≠ '"') (noBackslash : c ≠ '\\')
    (rest : Closes 3 cs) : Closes (left + 1) (c :: cs)

theorem lexQuoted_of_closes {left : Nat} {cs : List Char} (h : Closes left cs) (after : List Char) :
    lexQuoted '"' 3 left (cs ++ after) = some (cs, after) := by
  induction h with
  | done => rw [List.nil_append, lexQuoted]
  | escaped _ ih => rw [List.cons_append, List.cons_append, lexQuoted, ih, Option.map_some]
  | quote _ ih =>
    rw [List.cons_append, lexQuoted, ih]
    · rfl
    · exact fun _ _ heq => by cases heq
  | other noQuote noBackslash _ ih =>
    rw [List.cons_append, lexQuoted, ih]
    · simp [noQuote]
    · exact fun _ _ heq => absurd heq noBackslash

/-- The rest of a literal is what the characters up to its end are. -/
theorem lexQuoted_eq_some_iff {left : Nat} {cs read after : List Char} :
    lexQuoted '"' 3 left cs = some (read, after) ↔ Closes left read ∧ cs = read ++ after := by
  constructor
  · intro h
    fun_induction lexQuoted '"' 3 left cs generalizing read with
    | case1 cs =>
      cases h
      exact ⟨.done, rfl⟩
    | case2 => cases h
    | case3 left c rest ih =>
      obtain ⟨⟨s, r⟩, hs, heq⟩ := Option.map_eq_some_iff.mp h
      cases heq
      obtain ⟨hcloses, rfl⟩ := ih hs
      exact ⟨.escaped hcloses, rfl⟩
    | case4 left c rest hplain hquote ih =>
      obtain rfl : c = '"' := by simpa using hquote
      obtain ⟨⟨s, r⟩, hs, heq⟩ := Option.map_eq_some_iff.mp h
      cases heq
      obtain ⟨hcloses, rfl⟩ := ih hs
      exact ⟨.quote hcloses, rfl⟩
    | case5 left c rest _ _ hline => cases (Bool.and_eq_true _ _ ▸ hline : _ ∧ _).2
    | case6 left c rest hplain hquote _ ih =>
      obtain ⟨⟨s, r⟩, hs, heq⟩ := Option.map_eq_some_iff.mp h
      cases heq
      obtain ⟨hcloses, rfl⟩ := ih hs
      refine ⟨.other (by simpa using hquote) (fun hslash => ?_) hcloses, rfl⟩
      -- a backslash takes the next character with it, so nothing would be left
      cases hcloses with
      | escaped | quote | other => exact hplain _ _ hslash rfl
  · rintro ⟨hcloses, rfl⟩
    exact lexQuoted_of_closes hcloses after

@[simp] theorem closes_nil_iff {left : Nat} : Closes left [] ↔ left = 0 := by
  constructor
  · rintro ⟨⟩
    rfl
  · rintro rfl
    exact .done

@[simp] theorem closes_quote_iff {left : Nat} {cs : List Char} :
    Closes left ('"' :: cs) ↔ ∃ fewer, left = fewer + 1 ∧ Closes fewer cs := by
  constructor
  · intro h
    cases h with
    | quote rest => exact ⟨_, rfl, rest⟩
    | other noQuote => exact absurd rfl noQuote
  · rintro ⟨fewer, rfl, hrest⟩
    exact .quote hrest

theorem closes_escaped_iff {left : Nat} {c : Char} {cs : List Char} :
    Closes left ('\\' :: c :: cs) ↔ 0 < left ∧ Closes 3 cs := by
  constructor
  · intro h
    cases h with
    | escaped rest => exact ⟨Nat.succ_pos _, rest⟩
    | other _ noBackslash => exact absurd rfl noBackslash
  · rintro ⟨hpos, hrest⟩
    obtain ⟨fewer, rfl⟩ := Nat.exists_eq_succ_of_ne_zero hpos.ne'
    exact .escaped hrest

theorem closes_other_iff {left : Nat} {c : Char} {cs : List Char} (hquote : c ≠ '"')
    (hslash : c ≠ '\\') : Closes left (c :: cs) ↔ 0 < left ∧ Closes 3 cs := by
  constructor
  · intro h
    cases h with
    | escaped => exact absurd rfl hslash
    | quote => exact absurd rfl hquote
    | other _ _ rest => exact ⟨Nat.succ_pos _, rest⟩
  · rintro ⟨hpos, hrest⟩
    obtain ⟨fewer, rfl⟩ := Nat.exists_eq_succ_of_ne_zero hpos.ne'
    exact .other hquote hslash hrest

/-! ## Escapes -/

/-- No backslash in the text has a meaning of its own. -/
def Unescaped (cs : List Char) : Prop :=
  ∀ before c after, cs = before ++ '\\' :: c :: after → c ∉ escapable

theorem unescaped_cons_iff {c : Char} {cs : List Char} :
    Unescaped (c :: cs) ↔
      (∀ d after, c = '\\' → cs = d :: after → d ∉ escapable) ∧ Unescaped cs := by
  constructor
  · refine fun h => ⟨fun d after hc hcs => h [] d after (by rw [hc, hcs]; rfl),
      fun before d after hcs => h (c :: before) d after (by rw [hcs]; rfl)⟩
  · rintro ⟨hfirst, hrest⟩ before d after heq
    cases before with
    | nil =>
      obtain ⟨rfl, rfl⟩ := List.cons.inj heq
      exact hfirst d after rfl rfl
    | cons b before => exact hrest before d after (List.cons.inj heq).2

/-- A text without escapes is read as itself. -/
theorem decodeText_of_unescaped {cs : List Char} (h : Unescaped cs) :
    decodeText 0 cs = some (cs.map Char.toNat) := by
  induction hlength : cs.length using Nat.strong_induction_on generalizing cs with
  | _ n ih =>
    match cs with
    | [] => rfl
    | [c] => simp [decodeText]
    | c :: d :: rest =>
      obtain ⟨hfirst, hlater⟩ := unescaped_cons_iff.mp h
      -- a backslash that escapes nothing takes two characters, all others one
      by_cases hc : c = '\\'
      · subst hc
        have hshort : rest.length < n := by
          simp only [← hlength, List.length_cons]
          omega
        rw [decodeText_of_not_escapable (hfirst d rest rfl rfl),
          ih _ hshort (unescaped_cons_iff.mp hlater).2 rfl]
        rfl
      · have hshort : (d :: rest).length < n := by
          simp only [← hlength, List.length_cons]
          omega
        rw [decodeText_of_ne hc, ih _ hshort hlater rfl]
        rfl

/-- An escape makes a text shorter, so nothing is one in a text that is read in full length. -/
theorem unescaped_of_decodeText {cs : List Char} {codes : List Nat}
    (h : decodeText 0 cs = some codes) (hfull : cs.length ≤ codes.length) : Unescaped cs := by
  induction hlength : cs.length using Nat.strong_induction_on generalizing cs codes with
  | _ n ih =>
    match cs with
    | [] => simp [Unescaped]
    | [c] =>
      rw [unescaped_cons_iff]
      exact ⟨fun d after _ heq => absurd heq (List.cons_ne_nil d after).symm, by simp [Unescaped]⟩
    | c :: d :: rest =>
      by_cases hc : c = '\\'
      · subst hc
        -- an escape is shorter when it is decoded, so the text could not have its full length
        by_cases hd : d ∈ escapable
        · obtain ⟨skip, later, hlater, hle⟩ := exists_decodeText_of_escapable hd h
          rw [decodeText_eq_drop] at hlater
          have := length_decodeText_le hlater
          simp only [List.length_drop, List.length_cons] at this hfull
          omega
        · rw [decodeText_of_not_escapable hd] at h
          obtain ⟨later, hlater, rfl⟩ := Option.map_eq_some_iff.mp h
          have hslash : d ≠ '\\' := fun heq => hd (by rw [heq]; decide)
          have hrest : Unescaped rest := by
            refine ih rest.length ?_ hlater ?_ rfl
            · simp only [← hlength, List.length_cons]
              omega
            · simpa using hfull
          rw [unescaped_cons_iff, unescaped_cons_iff]
          refine ⟨fun d' after _ heq => ?_, fun _ _ heq => absurd heq hslash, hrest⟩
          rw [← (List.cons.inj heq).1]
          exact hd
      · rw [decodeText_of_ne hc] at h
        obtain ⟨later, hlater, rfl⟩ := Option.map_eq_some_iff.mp h
        rw [unescaped_cons_iff]
        refine ⟨fun _ _ heq => absurd heq hc, ih _ ?_ hlater ?_ rfl⟩
        · simp only [← hlength, List.length_cons]
          omega
        · simpa using hfull

/-! ## Texts between triple quotes -/

/-- Three quotes, as they stand before and after a docstring. -/
def tripled : List Char := ['"', '"', '"']

/-- A text that denotes itself when it stands between triple quotes in a module. -/
structure Verbatim (text : String) : Prop where
  noNull : '\x00' ∉ text.toList
  noReturn : '\r' ∉ text.toList
  unescaped : Unescaped text.toList
  noTripled : ¬ tripled <:+: text.toList
  endsPlain : text.toList.getLast? ≠ some '"' ∧ text.toList.getLast? ≠ some '\\'

theorem tripled_infix_iff {k : Nat} (hk : k ≤ 2) {c : Char} (hc : c ≠ '"') (cs : List Char) :
    tripled <:+: List.replicate k '"' ++ c :: cs ↔ tripled <:+: cs := by
  unfold tripled
  interval_cases k <;> simp [List.infix_cons_iff, List.replicate_succ, Ne.symm hc]

/-- Where no escape counts, a text is closed by the three quotes behind it exactly if there are no
    three quotes before that and nothing at its end takes one of them. By induction on the text,
    where `k` quotes have just been passed. -/
theorem closes_append_tripled_iff {k : Nat} (hk : k ≤ 2) {cs : List Char} (hcs : Unescaped cs) :
    Closes (3 - k) (cs ++ tripled) ↔
      ¬ tripled <:+: List.replicate k '"' ++ cs ∧
        (List.replicate k '"' ++ cs).getLast? ≠ some '"' ∧ cs.getLast? ≠ some '\\' := by
  induction hlength : cs.length using Nat.strong_induction_on generalizing cs k with
  | _ n ih =>
    match cs with
    | [] => interval_cases k <;> simp [tripled, List.replicate_succ]
    | c :: rest =>
      have hrest := (unescaped_cons_iff.mp hcs).2
      have hshort : rest.length < n := by
        rw [← hlength]
        exact Nat.lt_succ_self _
      -- a character that is no quote makes a new start
      have hlast : c ≠ '"' → ((List.replicate k '"' ++ c :: rest).getLast? ≠ some '"' ↔
          rest.getLast? ≠ some '"') := by
        intro hquote
        rw [List.getLast?_append_of_ne_nil _ (List.cons_ne_nil _ _)]
        cases rest with
        | nil => simp [hquote]
        | cons => simp
      by_cases hquote : c = '"'
      · subst hquote
        have hmore : List.replicate k '"' ++ '"' :: rest = List.replicate (k + 1) '"' ++ rest := by
          rw [List.replicate_succ', List.append_assoc]
          rfl
        have hslash : ('"' :: rest).getLast? ≠ some '\\' ↔ rest.getLast? ≠ some '\\' := by
          cases rest with
          | nil => simp
          | cons => simp
        rw [hmore, hslash, List.cons_append, closes_quote_iff]
        by_cases htwo : k = 2
        · subst htwo
          refine iff_of_false ?_ fun h => h.1 ⟨[], rest, rfl⟩
          rintro ⟨fewer, hfewer, hcloses⟩
          obtain rfl : fewer = 0 := by omega
          cases rest <;> cases hcloses
        · have hk' : k + 1 ≤ 2 := by omega
          rw [← ih _ hshort hk' hrest rfl]
          constructor
          · rintro ⟨fewer, hfewer, hcloses⟩
            rwa [show 3 - (k + 1) = fewer by omega]
          · exact fun hcloses => ⟨3 - (k + 1), by omega, hcloses⟩
      · rw [tripled_infix_iff hk hquote, hlast hquote]
        by_cases hslash : c = '\\'
        · subst hslash
          match rest with
          | [] =>
            refine iff_of_false ?_ fun h => h.2.2 rfl
            rw [List.cons_append, List.nil_append, tripled, closes_escaped_iff]
            simp
          | d :: more =>
            have hd : d ∉ escapable := (unescaped_cons_iff.mp hcs).1 d more rfl rfl
            have hdquote : d ≠ '"' := fun heq => hd (by rw [heq]; decide)
            have hdslash : d ≠ '\\' := fun heq => hd (by rw [heq]; decide)
            have hmore := ih _ hshort (Nat.zero_le 2) hrest rfl
            rw [List.cons_append, closes_other_iff hdquote hdslash,
              and_iff_right (by omega : 0 < 3 - 0)] at hmore
            rw [List.cons_append, List.cons_append, closes_escaped_iff,
              and_iff_right (by omega : 0 < 3 - k), hmore]
            simp
        · have hplain : (c :: rest).getLast? ≠ some '\\' ↔ rest.getLast? ≠ some '\\' := by
            cases rest with
            | nil => simp [hslash]
            | cons => simp
          rw [List.cons_append, closes_other_iff hquote hslash,
            and_iff_right (by omega : 0 < 3 - k), hplain]
          exact ih _ hshort (Nat.zero_le 2) hrest rfl

/-! ## Literals on a line -/

/-- The spelling is that of a text literal with the value. -/
def Denotes (spelling : List Char) (value : List Nat) : Prop :=
  let t := TextSpelling.ofChars spelling
  t.isBytes = false ∧ t.isFormatted = false ∧
    (if t.isRaw then some (t.body.map Char.toNat) else decodeText 0 t.body) = some value

/-- Wherever a token may begin, the characters up to the end of the line are one text literal with
    the value, whatever follows on other lines. -/
def ReadsAsText (cs : List Char) (value : List Nat) : Prop :=
  '\x00' ∉ cs ∧ ∀ (s : LexState) (after : List Char), ∃ spelling state,
    lexStep s (Text.unifyLineEnds (cs ++ '\n' :: after))
      = .token .text spelling s.line state ('\n' :: Text.unifyLineEnds after) ∧
    Denotes spelling value

/-- Line ends are unified on both sides of a place that is not within one. -/
theorem unifyLineEnds_append {xs ys : List Char}
    (h : xs.getLast? ≠ some '\r' ∨ ys.head? ≠ some '\n') :
    Text.unifyLineEnds (xs ++ ys) = Text.unifyLineEnds xs ++ Text.unifyLineEnds ys := by
  -- the only line end that could be torn apart is a return before a line feed
  fun_induction Text.unifyLineEnds xs with
  | case1 rest ih =>
    have hrest : rest.getLast? ≠ some '\r' ∨ ys.head? ≠ some '\n' := by
      cases rest with
      | nil => simp
      | cons => simpa using h
    rw [List.cons_append, List.cons_append, Text.unifyLineEnds, ih hrest]
    rfl
  | case2 rest hline ih =>
    have hrest : rest.getLast? ≠ some '\r' ∨ ys.head? ≠ some '\n' := by
      cases rest with
      | nil => simp
      | cons => simpa using h
    rw [List.cons_append, Text.unifyLineEnds]
    · rw [ih hrest]
      rfl
    · -- no line feed comes next
      intro after heq
      cases rest with
      | nil =>
        rw [List.nil_append] at heq
        subst heq
        simp at h
      | cons d more => exact hline more (by rw [(List.cons.inj heq).1])
  | case3 c rest hline hreturn ih =>
    have hrest : rest.getLast? ≠ some '\r' ∨ ys.head? ≠ some '\n' := by
      cases rest with
      | nil => simp
      | cons => simpa using h
    rw [List.cons_append, Text.unifyLineEnds, ih hrest]
    · rfl
    · exact fun _ heq => absurd heq hreturn
    · exact hreturn
  | case4 => rfl

/-- Unifying line ends leaves the quotes around a text, and the line end behind them. -/
theorem unifyLineEnds_tripled (cs after : List Char) :
    Text.unifyLineEnds (tripled ++ cs ++ tripled ++ '\n' :: after)
      = tripled ++ (Text.unifyLineEnds cs ++ tripled ++ '\n' :: Text.unifyLineEnds after) := by
  have hline : Text.unifyLineEnds ('\n' :: after) = '\n' :: Text.unifyLineEnds after := by
    rw [Text.unifyLineEnds] <;> intros <;> contradiction
  have hquotes : Text.unifyLineEnds tripled = tripled := Text.unifyLineEnds_eq_self (by decide)
  have hlast : (tripled ++ cs ++ tripled).getLast? ≠ some '\r' := by
    rw [List.getLast?_append_of_ne_nil _ (by decide)]
    decide
  rw [unifyLineEnds_append (.inl hlast), unifyLineEnds_append (.inr (by decide)),
    unifyLineEnds_append (.inl (by decide)), hline, hquotes]
  simp only [List.append_assoc]

/-- Three quotes begin a literal, which ends as `lexQuoted` says. -/
theorem lexStep_tripled (s : LexState) (cs : List Char) :
    lexStep s (tripled ++ cs) = (lexQuoted '"' 3 3 cs).elim (.broken .malformed s.line)
      fun read => .token .text (tripled ++ read.1) s.line
        { s with line := s.line + (tripled ++ read.1).count '\n' } read.2 := by
  show lexStep s ('"' :: '"' :: '"' :: cs) = _
  have hname : isNameStart '"' = false := by decide
  rw [lexStep]
  · rw [hname, if_neg (by decide), if_pos (by decide)]
    have htext : lexText '"' ('"' :: '"' :: cs)
        = (lexQuoted '"' 3 3 cs).map fun read => (tripled ++ read.1, read.2) := rfl
    rw [htext]
    cases lexQuoted '"' 3 3 cs with
    | none => rfl
    | some parts => rfl
  all_goals intros; contradiction

theorem ofChars_tripled (cs : List Char) :
    TextSpelling.ofChars (tripled ++ cs ++ tripled)
      = { isBytes := false, isRaw := false, isFormatted := false, isMarked := false, body := cs } := by
  cases cs with
  | nil => rfl
  | cons c rest =>
    obtain ⟨d, more, hmore⟩ : ∃ d more, rest ++ tripled = d :: more :=
      List.exists_cons_of_ne_nil (by simp [tripled])
    have hbody : (c :: d :: more).take (more.length + 5 - 6) = c :: rest := by
      -- six quotes are cut off, and what is left is as long as the text
      have hlength : more.length + 5 - 6 = (c :: rest).length := by
        have := congrArg List.length hmore
        simp only [tripled, List.length_append, List.length_cons, List.length_nil] at this ⊢
        omega
      rw [← hmore, hlength, ← List.cons_append, List.take_left']
      rfl
    have hchars : tripled ++ c :: rest ++ tripled = '"' :: '"' :: '"' :: c :: d :: more := by
      rw [← hmore]
      rfl
    rw [hchars]
    exact congrArg (TextSpelling.mk false false false false) hbody

/-- **A text between triple quotes reads as a literal with the text as value exactly if it is
    verbatim.** -/
theorem readsAsText_tripled_iff (text : String) :
    ReadsAsText (tripled ++ text.toList ++ tripled) (text.toList.map Char.toNat) ↔
      Verbatim text := by
  constructor
  · rintro ⟨hnull, hreads⟩
    obtain ⟨spelling, state, htoken, -, -, hvalue⟩ := hreads {} []
    rw [unifyLineEnds_tripled, lexStep_tripled] at htoken
    cases hquoted : lexQuoted '"' 3 3
        (Text.unifyLineEnds text.toList ++ tripled ++ '\n' :: Text.unifyLineEnds []) with
    | some read =>
      obtain ⟨body, after⟩ := read
      rw [hquoted] at htoken
      cases htoken
      obtain ⟨hcloses, hsplit⟩ := lexQuoted_eq_some_iff.mp hquoted
      -- the literal ends with the line
      obtain rfl : Text.unifyLineEnds text.toList ++ tripled = body :=
        List.append_cancel_right hsplit
      rw [← List.append_assoc, ofChars_tripled] at hvalue
      have hdecode : decodeText 0 (Text.unifyLineEnds text.toList)
          = some (text.toList.map Char.toNat) := hvalue
      have hunescaped := unescaped_of_decodeText hdecode (by
        rw [List.length_map]
        exact length_unifyLineEnds_le _)
      -- so the value is the text itself, in which there was no line end to be unified
      have hsame : Text.unifyLineEnds text.toList = text.toList := by
        rw [decodeText_of_unescaped hunescaped, Option.some.injEq] at hdecode
        exact List.map_injective_iff.mpr (fun _ _ => Char.toNat_inj.mp) hdecode
      rw [hsame] at hunescaped hcloses
      obtain ⟨hnone, hquote, hslash⟩ :=
        (closes_append_tripled_iff (Nat.zero_le 2) hunescaped).mp hcloses
      exact
        { noNull := fun hmem => hnull (by simp [hmem])
          noReturn := hsame ▸ Text.not_mem_unifyLineEnds _
          unescaped := hunescaped
          noTripled := hnone
          endsPlain := ⟨hquote, hslash⟩ }
    | none =>
      rw [hquoted] at htoken
      cases htoken
  · rintro ⟨hnull, hreturn, hunescaped, hnone, hquote, hslash⟩
    refine ⟨by simpa [tripled] using hnull, fun s after => ?_⟩
    have hcloses : Closes 3 (text.toList ++ tripled) :=
      (closes_append_tripled_iff (Nat.zero_le 2) hunescaped).mpr ⟨hnone, hquote, hslash⟩
    refine ⟨tripled ++ (text.toList ++ tripled),
      { s with line := s.line + (tripled ++ (text.toList ++ tripled)).count '\n' }, ?_, ?_⟩
    · rw [unifyLineEnds_tripled, Text.unifyLineEnds_eq_self hreturn, lexStep_tripled,
        lexQuoted_of_closes hcloses, Option.elim_some]
    · unfold Denotes
      rw [← List.append_assoc, ofChars_tripled]
      exact ⟨rfl, rfl, decodeText_of_unescaped hunescaped⟩

end Grammar

open Grammar

/-! ## The lines of routes -/

namespace Client

/-- Behind blanks the line holds one text literal, whose value is the text. -/
def HoldsLiteral (line value : String) : Prop :=
  ReadsAsText (line.toList.dropWhile (· == ' ')) (value.toList.map Char.toNat)

theorem blank_of_mem_padding {depth : Nat} {c : Char} (h : c ∈ (padding depth).toList) :
    c = ' ' := by
  induction depth with
  | zero => cases h
  | succ depth ih =>
    rw [Layout.padding_succ, String.toList_append] at h
    rcases List.mem_append.mp h with h | h
    · exact ih h
    · exact List.eq_of_mem_replicate (show c ∈ List.replicate 4 ' ' from h)

/-- The line of a route holds a literal with the route as value exactly if that is verbatim. -/
theorem holdsLiteral_routeLine_iff (depth : Nat) (route : String) :
    HoldsLiteral (routeLine (padding depth) route) route ↔ Verbatim route := by
  -- behind the indentation stands the route between quotes
  have hline : (routeLine (padding depth) route).toList.dropWhile (· == ' ')
      = tripled ++ route.toList ++ tripled := by
    have hchars : (routeLine (padding depth) route).toList
        = ((padding depth).toList ++ indent.toList) ++ (tripled ++ route.toList ++ tripled) := by
      unfold routeLine
      simp only [String.toList_append, List.append_assoc]
      rfl
    have hblanks : ∀ c ∈ (padding depth).toList ++ indent.toList, (c == ' ') = true := by
      intro c hc
      rw [← String.toList_append, ← Layout.padding_succ] at hc
      rw [blank_of_mem_padding hc]
      rfl
    rw [hchars, List.dropWhile_append_of_pos hblanks]
    rfl
  unfold HoldsLiteral
  rw [hline]
  exact Grammar.readsAsText_tripled_iff route

end Client

/-- Nothing is in a route but slashes and what is in the segments. -/
theorem Route.mem_normal {segments : List String} {c : Char}
    (h : c ∈ (Route.normal segments).toList) :
    c = '/' ∨ ∃ segment ∈ segments, c ∈ segment.toList := by
  unfold normal at h
  rw [String.toList_append] at h
  rcases List.mem_append.mp h with h | h
  · exact .inl (List.mem_singleton.mp h)
  · rcases mem_intercalate h with hslash | ⟨step, hstep, hc⟩
    · exact .inl hslash
    · obtain ⟨segment, hsegment, rfl⟩ := List.mem_map.mp (List.mem_filter.mp hstep).1
      rw [toList_bare] at hc
      exact .inr ⟨segment, hsegment, Text.mem_of_mem_dropAround hc⟩

/-- A route of segments without quotes, backslashes and control characters is verbatim. -/
theorem Route.verbatim_normal {segments : List String}
    (h : ∀ segment ∈ segments, ∀ c ∈ segment.toList, c ∉ ['"', '\\', '\r', '\x00']) :
    Verbatim (Route.normal segments) := by
  have hplain : ∀ c ∈ (Route.normal segments).toList, c ∉ ['"', '\\', '\r', '\x00'] := by
    intro c hc
    rcases Route.mem_normal hc with rfl | ⟨segment, hsegment, hc⟩
    · decide
    · exact h segment hsegment c hc
  have hquote : '"' ∉ (Route.normal segments).toList := fun hc => hplain _ hc (by decide)
  have hslash : '\\' ∉ (Route.normal segments).toList := fun hc => hplain _ hc (by decide)
  exact
    { noNull := fun hc => hplain _ hc (by decide)
      noReturn := fun hc => hplain _ hc (by decide)
      unescaped := fun before c after heq => absurd (heq ▸ by simp) hslash
      noTripled := fun hin => hquote (hin.mem List.mem_cons_self)
      endsPlain := ⟨fun hlast => hquote (List.mem_of_getLast? hlast),
        fun hlast => hslash (List.mem_of_getLast? hlast)⟩ }

/-- **Which docstrings denote their routes.** A client that is compiled from a source is written
    down, and each class in it is documented by the route of the segments down to its unit. The
    line of that route is one text literal with the route as value exactly if the route is
    verbatim. Segments without quotes, backslashes, carriage returns and null characters make it
    so. -/
theorem docstrings_denote_routes_iff {module source : String} {isPackage : Bool}
    {client : ClientRoot} (h : CompiledFrom module isPackage source client) (transport : String) :
    ∃ m, Client.generate client transport = .ok m ∧
      ∀ name segments u, ClientUnit.Along client.root name segments u →
        (∃ lines, m.source = Client.textOfLines lines ∧
          Client.Documented lines (segments.length - 1) name u.operations (Route.normal segments)) ∧
        (Client.HoldsLiteral
            (Client.routeLine (Client.padding (segments.length - 1)) (Route.normal segments))
            (Route.normal segments) ↔ Verbatim (Route.normal segments)) ∧
        ((∀ segment ∈ segments, ∀ c ∈ segment.toList, c ∉ ['"', '\\', '\r', '\x00']) →
          Verbatim (Route.normal segments)) := by
  obtain ⟨_, _, htraced⟩ := h.traced
  obtain ⟨m, hgenerate, -⟩ := Client.generate_eq htraced transport
  refine ⟨m, hgenerate, fun name segments u halong => ?_⟩
  exact ⟨Client.documented_of_along hgenerate halong, Client.holdsLiteral_routeLine_iff _ _,
    Route.verbatim_normal⟩

open Sample in
/-- The route of the short descriptor is documented as it is. -/
theorem docstrings_denote_routes_iff_sample :
    CompiledFrom "app.api" false source client ∧
      ClientUnit.Along client.root "AClient" [""] client.root ∧
      ∃ m lines, Client.generate client "shapi.client.transport" = .ok m ∧
        m.source = Client.textOfLines lines ∧
        Client.Documented lines 0 "AClient" client.root.operations (Route.normal [""]) ∧
        Client.HoldsLiteral (Client.routeLine (Client.padding 0) (Route.normal [""]))
          (Route.normal [""]) := by
  have halong : ClientUnit.Along client.root "AClient" [""] client.root := .root
  obtain ⟨m, hgenerate, hunits⟩ :=
    docstrings_denote_routes_iff compiledFrom "shapi.client.transport"
  obtain ⟨⟨lines, hsource, hlines⟩, hiff, hplain⟩ := hunits _ _ _ halong
  refine ⟨compiledFrom, halong, m, lines, hgenerate, hsource, hlines, hiff.mpr (hplain ?_)⟩
  intro segment hsegment c hc
  obtain rfl := List.mem_singleton.mp hsegment
  cases hc

/-- Each docstring of a module is its route, whatever stands on the lines around it, exactly if all
    routes are verbatim. -/
theorem docstrings_right_iff {module source : String} {isPackage : Bool} {client : ClientRoot}
    (h : CompiledFrom module isPackage source client) (transport : String) :
    ∃ m lines, Client.generate client transport = .ok m ∧ m.source = Client.textOfLines lines ∧
      ((∀ name segments u, ClientUnit.Along client.root name segments u →
        Client.Documented lines (segments.length - 1) name u.operations (Route.normal segments) ∧
        Client.HoldsLiteral
          (Client.routeLine (Client.padding (segments.length - 1)) (Route.normal segments))
          (Route.normal segments)) ↔
        ∀ name segments u, ClientUnit.Along client.root name segments u →
          Verbatim (Route.normal segments)) := by
  obtain ⟨_, _, htraced⟩ := h.traced
  obtain ⟨m, hgenerate, -⟩ := Client.generate_eq htraced transport
  obtain ⟨lines, hsource, hlines⟩ := Client.exists_documented_lines hgenerate
  refine ⟨m, lines, hgenerate, hsource, fun hholds name segments u halong => ?_,
    fun hverbatim name segments u halong => ⟨hlines name segments u halong, ?_⟩⟩
  · exact (Client.holdsLiteral_routeLine_iff _ _).mp (hholds name segments u halong).2
  · exact (Client.holdsLiteral_routeLine_iff _ _).mpr (hverbatim name segments u halong)

/-! ## A segment that ends with a quote -/

namespace Sample.Quote

/-- A source whose root has such a segment. -/
def source : String :=
  "import shapi.api as s\n@s.resources.resource('a\"')\nclass A: 0\n"

/-- The decorator of the root. -/
def decorator : Expr :=
  .apply (.call 1 [])
    [.apply (.attribute "resource") [.apply (.attribute "resources") [.name "s"]],
      .literal (.text [97, 34] false)]

/-- The statements of the source. -/
def body : List Statement :=
  [.importModules [{ name := "shapi.api", newName := some "s" }],
    .classDef "A" [] [decorator] [.simple] 3]

/-- The root as it is read. -/
def endpoint : Endpoint :=
  { name := "A", qualname := "A", segment := "a\"", line := 3 }

/-- The client of the root. -/
def client : ClientRoot :=
  { module := "app.api", root := { name := "A", qualname := "A", segment := "a\"" }
    scope := Scope.ofStatements "app.api" false body }

/-- The module that the client is printed to. -/
def output : Client.ClientModule :=
  { module := "app.api", root := "A", moduleName := "a_client", className := "AClient"
    source := Client.textOfLines
      ["# Code generated by shapi from app.api. DO NOT EDIT.",
        "from __future__ import annotations",
        "",
        "from app.api import A",
        "from shapi.api.response import ApiResponse",
        "",
        "",
        "class AClient:",
        "    \"\"\"/a\"\"\"\""]
    operationCount := 0, unitCount := 1 }

theorem compiledFrom : CompiledFrom "app.api" false source client := by
  have hchars : source.toList = _ := String.toList_ofList
  have hparsed : parseModule source.toList = .ok body :=
    (congrArg parseModule hchars).trans (by decide +kernel)
  have hnull : source.toList.contains '\x00' = false :=
    (congrArg (List.contains · '\x00') hchars).trans (by cbv)
  have hfault : moduleFault? (Scope.ofStatements "app.api" false body) body = none := by cbv
  -- the source is read without a fault
  obtain ⟨report, hreport, hvalue⟩ : ∃ report,
      Descriptor.ofSource "app.api" false source = .ok report ∧
        report.value = some (Descriptor.ofStatements "app.api" false body).value := by
    unfold Descriptor.ofSource
    rw [hnull, hparsed]
    simp only [Bool.false_eq_true, if_false, hfault]
    exact ⟨_, rfl, rfl⟩
  have hroots : (Descriptor.ofStatements "app.api" false body).value.roots = [endpoint] := rfl
  refine .intro hreport hvalue (e := endpoint) ?_ rfl
  rw [hroots]
  exact List.mem_singleton_self _

theorem generate_client : Client.generate client "shapi.client.transport" = .ok output := by
  decide +kernel

/-- The last quote of the line opens a literal that nothing closes. -/
theorem parseModule_output : parseModule output.source.toList
    = .error { line := 9, shown := "    \"\"\"/a\"\"\"\"" } := by
  have hchars : output.source.toList = _ :=
    (Client.toList_textOfLines (List.cons_ne_nil _ _)).trans <|
      Text.toList_lines_cons String.toList_ofList <| Text.toList_lines_cons String.toList_ofList <|
      Text.toList_lines_cons String.toList_ofList <| Text.toList_lines_cons String.toList_ofList <|
      Text.toList_lines_cons String.toList_ofList <| Text.toList_lines_cons String.toList_ofList <|
      Text.toList_lines_cons String.toList_ofList <| Text.toList_lines_cons String.toList_ofList <|
      Text.toList_lines_cons String.toList_ofList rfl
  exact (congrArg parseModule hchars).trans (by decide +kernel)

end Sample.Quote

open Sample.Quote in
/-- **A route that ends with a quote is not documented**, and its module does not parse. -/
theorem Sample.Quote.route_not_documented :
    CompiledFrom "app.api" false source client ∧
      ClientUnit.Along client.root "AClient" ["a\""] client.root ∧
      ¬ Client.HoldsLiteral (Client.routeLine (Client.padding 0) (Route.normal ["a\""]))
        (Route.normal ["a\""]) ∧
      ∃ m fault, Client.generate client "shapi.client.transport" = .ok m ∧
        parseModule m.source.toList = .error fault := by
  have halong : ClientUnit.Along client.root "AClient" ["a\""] client.root :=
    .root
  refine ⟨compiledFrom, halong, ?_, output, _, generate_client, parseModule_output⟩
  rw [Client.holdsLiteral_routeLine_iff]
  exact fun hverbatim => hverbatim.endsPlain.1 (by decide)

end Waymark

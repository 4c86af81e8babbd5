import Mathlib.Data.List.Infix
import Mathlib.Data.List.TakeWhile
import Waymark.Display.Markup
import Waymark.Proofs.ItemByItem

/-! # What is read of markup

    A marked-up text is scanned from the left: backslashes with the tag behind them, or
    backslashes with a character that begins no tag, until only backslashes are left
    (`Scans`).

    * A text without tags and names of emoji is read as itself (`Unmarked`,
      `plain_of_unmarked`).
    * An escaped text between two tags never closes what is not open
      (`exists_plain_coloured`), and is read as itself unless it names emoji or has
      backslashes that are taken for escapes (`Escapable`, `plain_coloured`).
-/

namespace Waymark.Display

/-! ## Tags -/

/-- Is the character a bracket? -/
def isBracket (c : Char) : Bool :=
  c == '[' || c == ']'

/-- What may stand in the brackets of a tag. -/
def IsTag (content : List Char) : Prop :=
  content.head?.any beginsTag = true ∧ ∀ c ∈ content, isBracket c = false

instance (content : List Char) : Decidable (IsTag content) :=
  have : Decidable (∀ c ∈ content, isBracket c = false) := List.decidableBAll _ content
  inferInstanceAs (Decidable (_ ∧ _))

theorem not_isBracket (c : Char) : (c != '[' && c != ']') = !isBracket c := by
  simp [isBracket, bne]

/-- Nothing that begins a tag is a bracket. -/
theorem isBracket_of_beginsTag {c : Char} (h : beginsTag c = true) : isBracket c = false := by
  by_contra hbracket
  rw [Bool.not_eq_false] at hbracket
  obtain rfl | rfl : c = '[' ∨ c = ']' := by simpa [isBracket] using hbracket
  all_goals exact absurd h (by decide)

/-- A text that a tag stands in front of, without its opening bracket. -/
theorem tag?_eq_some_iff {cs content after : List Char} :
    tag? cs = some (content, after) ↔ cs = content ++ ']' :: after ∧ IsTag content := by
  have hscan : (fun c => c != '[' && c != ']') = fun c => !isBracket c := funext not_isBracket
  unfold tag?
  rw [hscan]
  constructor
  · intro h
    cases cs with
    | nil => cases h
    | cons c rest =>
      by_cases hc : beginsTag c = true
      · simp only [hc, if_true] at h
        have hparts := List.takeWhile_append_dropWhile (p := fun c => !isBracket c) (l := c :: rest)
        split at h
        · next hdrop =>
          obtain ⟨rfl, rfl⟩ := Prod.mk.inj (Option.some.inj h)
          rw [hdrop] at hparts
          refine ⟨hparts.symm, ?_, ?_⟩
          · rw [List.takeWhile_cons_of_pos (by simpa using isBracket_of_beginsTag hc)]
            simpa using hc
          · intro d hd
            simpa using List.mem_takeWhile_imp hd
        · cases h
      · simp [hc] at h
  · rintro ⟨rfl, hhead, hall⟩
    -- nothing in the tag is a bracket, so that it ends at the first one
    have hfront : ∀ c ∈ content, (!isBracket c) = true := by simpa using hall
    cases content with
    | nil => cases hhead
    | cons c rest =>
      have hc : beginsTag c = true := by simpa using hhead
      rw [List.takeWhile_append_of_pos hfront, List.dropWhile_append_of_pos hfront]
      simp [hc, isBracket]

/-- There is a tag in front if something that begins one does, and the next bracket closes. -/
theorem isSome_tag?_iff {cs : List Char} :
    (tag? cs).isSome = true ↔ cs.head?.any beginsTag = true ∧ cs.find? isBracket = some ']' := by
  constructor
  · intro h
    obtain ⟨⟨content, after⟩, htag⟩ := Option.isSome_iff_exists.mp h
    obtain ⟨rfl, hhead, hall⟩ := tag?_eq_some_iff.mp htag
    refine ⟨?_, ?_⟩
    · cases content with
      | nil => cases hhead
      | cons c rest => exact hhead
    · rw [List.find?_append, List.find?_eq_none.mpr (by simpa using hall)]
      rfl
  · rintro ⟨hhead, hfind⟩
    -- the tag is what comes before that bracket
    obtain ⟨-, front, after, rfl, hfront⟩ := List.find?_eq_some_iff_append.mp hfind
    have hcontent : IsTag front := by
      refine ⟨?_, by simpa using hfront⟩
      cases front with
      | nil => cases hhead
      | cons c rest => exact hhead
    rw [tag?_eq_some_iff.mpr ⟨rfl, hcontent⟩]
    rfl

/-- The backslashes in front of something else. -/
theorem takeWhile_slashes (n : Nat) {rest : List Char} (h : rest.head? ≠ some '\\') :
    (List.replicate n '\\' ++ rest).takeWhile (· == '\\') = List.replicate n '\\' ∧
      (List.replicate n '\\' ++ rest).dropWhile (· == '\\') = rest := by
  have hrun : ∀ c ∈ List.replicate n '\\', (c == '\\') = true := by
    intro c hc
    simpa using List.eq_of_mem_replicate hc
  rw [List.takeWhile_append_of_pos hrun, List.dropWhile_append_of_pos hrun]
  cases rest with
  | nil => simp
  | cons c rest =>
    have hc : c ≠ '\\' := by simpa using h
    simp [hc]

theorem tagAhead?_bracket (inner : List Char) :
    tagAhead? ('[' :: inner) = (tag? inner).map fun found => (0, found) := by
  simp [tagAhead?]

theorem tagAhead?_of_ne {c : Char} {rest : List Char} (hslash : c ≠ '\\') (hbracket : c ≠ '[') :
    tagAhead? (c :: rest) = none := by
  unfold tagAhead?
  rw [List.dropWhile_cons_of_neg (by simpa using hslash)]
  split
  · next heq => exact absurd (List.cons.inj heq).1 hbracket
  · rfl

/-- The backslashes in front are counted. -/
theorem tagAhead?_replicate_append (n : Nat) {rest : List Char} (h : rest.head? ≠ some '\\') :
    tagAhead? (List.replicate n '\\' ++ rest) = (tagAhead? rest).map fun found => (n, found.2) := by
  have hslashes := takeWhile_slashes n h
  have hnone := takeWhile_slashes 0 h
  rw [List.replicate_zero, List.nil_append] at hnone
  unfold tagAhead?
  rw [hslashes.1, hslashes.2, hnone.1, hnone.2]
  split
  · simp [Function.comp_def]
  · rfl

/-- The text of a tag with backslashes in front. -/
def tagText (n : Nat) (content after : List Char) : List Char :=
  List.replicate n '\\' ++ '[' :: (content ++ ']' :: after)

theorem tagAhead?_tagText (n : Nat) {content : List Char} (h : IsTag content)
    (after : List Char) :
    tagAhead? (tagText n content after) = some (n, content, after) := by
  unfold tagText
  rw [tagAhead?_replicate_append n (by simp), tagAhead?_bracket, tag?_eq_some_iff.mpr ⟨rfl, h⟩]
  rfl

/-- Every text is some backslashes and something that begins with no backslash. -/
theorem exists_slashes (cs : List Char) :
    ∃ n rest, cs = List.replicate n '\\' ++ rest ∧ rest.head? ≠ some '\\' := by
  refine ⟨(cs.takeWhile (· == '\\')).length, cs.dropWhile (· == '\\'), ?_, ?_⟩
  · have hrun : cs.takeWhile (· == '\\')
        = List.replicate (cs.takeWhile (· == '\\')).length '\\' := by
      rw [List.eq_replicate_iff]
      exact ⟨rfl, fun c hc => by simpa using List.mem_takeWhile_imp hc⟩
    rw [← hrun, List.takeWhile_append_dropWhile]
  · intro hhead
    have hfirst := List.head?_dropWhile_not (· == '\\') cs
    rw [hhead] at hfirst
    simp at hfirst

/-! ## Scanning -/

variable {n : Nat} {c : Char} {cs rest content after escaped : List Char} {ps : List Piece}

/-! ### One step -/

theorem exists_cons_tagText (n : Nat) (content after : List Char) :
    ∃ c rest, tagText n content after = c :: rest :=
  List.exists_cons_of_ne_nil (by simp [tagText])

/-- Backslashes with a tag are read together. -/
theorem piecesWithin_tagText (fuel : Nat) (h : IsTag content) :
    piecesWithin (fuel + 1) (tagText n content after)
      = .plain [] :: (piecesOfTag n content ++ piecesWithin fuel after) := by
  have hahead := tagAhead?_tagText n h after
  obtain ⟨c, rest, hcons⟩ := exists_cons_tagText n content after
  rw [hcons] at hahead ⊢
  simp [piecesWithin, hahead]

theorem escapeTagsWithin_tagText (fuel : Nat) (h : IsTag content) :
    escapeTagsWithin (fuel + 1) (tagText n content after)
      = tagText (2 * n + 1) content (escapeTagsWithin fuel after) := by
  have hahead := tagAhead?_tagText n h after
  obtain ⟨c, rest, hcons⟩ := exists_cons_tagText n content after
  rw [hcons] at hahead ⊢
  simp [escapeTagsWithin, hahead, escapedTag, tagText]

/-- Backslashes without a tag are read together, too. -/
theorem piecesWithin_slashes (fuel : Nat) (hn : n ≠ 0) (hrest : rest.head? ≠ some '\\')
    (h : tagAhead? rest = none) :
    piecesWithin (fuel + 1) (List.replicate n '\\' ++ rest)
      = (List.replicate n '\\').foldr joinChar (piecesWithin fuel rest) := by
  have hahead : tagAhead? (List.replicate n '\\' ++ rest) = none := by
    rw [tagAhead?_replicate_append n hrest, h]
    rfl
  obtain ⟨htake, hdrop⟩ := takeWhile_slashes n hrest
  obtain ⟨n, rfl⟩ := Nat.exists_eq_succ_of_ne_zero hn
  rw [List.replicate_succ, List.cons_append] at htake hdrop hahead ⊢
  rw [piecesWithin, hahead, htake, hdrop]

theorem escapeTagsWithin_slashes (fuel : Nat) (hn : n ≠ 0) (hrest : rest.head? ≠ some '\\')
    (h : tagAhead? rest = none) :
    escapeTagsWithin (fuel + 1) (List.replicate n '\\' ++ rest)
      = List.replicate n '\\' ++ escapeTagsWithin fuel rest := by
  have hahead : tagAhead? (List.replicate n '\\' ++ rest) = none := by
    rw [tagAhead?_replicate_append n hrest, h]
    rfl
  obtain ⟨htake, hdrop⟩ := takeWhile_slashes n hrest
  obtain ⟨n, rfl⟩ := Nat.exists_eq_succ_of_ne_zero hn
  rw [List.replicate_succ, List.cons_append] at htake hdrop hahead ⊢
  rw [escapeTagsWithin, hahead, htake, hdrop]

/-- Anything else is read character by character. -/
theorem piecesWithin_cons (fuel : Nat) (hslash : c ≠ '\\') (h : tagAhead? (c :: rest) = none) :
    piecesWithin (fuel + 1) (c :: rest) = joinChar c (piecesWithin fuel rest) := by
  rw [piecesWithin, h]
  simp only
  rw [List.takeWhile_cons_of_neg (by simpa using hslash)]

theorem escapeTagsWithin_cons (fuel : Nat) (hslash : c ≠ '\\')
    (h : tagAhead? (c :: rest) = none) :
    escapeTagsWithin (fuel + 1) (c :: rest) = c :: escapeTagsWithin fuel rest := by
  rw [escapeTagsWithin, h]
  simp only
  rw [List.takeWhile_cons_of_neg (by simpa using hslash)]

/-! ### Whole texts -/

/-- How a text is scanned, with its pieces and the text in which its tags are escaped. -/
inductive Scans : List Char → List Piece → List Char → Prop where
  /-- Only backslashes are left. -/
  | slashes (n : Nat) :
      Scans (List.replicate n '\\') ((List.replicate n '\\').foldr joinChar [])
        (List.replicate n '\\')
  | tag (n : Nat) {content after escaped : List Char} {ps : List Piece} (isTag : IsTag content)
      (later : Scans after ps escaped) :
      Scans (tagText n content after) (.plain [] :: (piecesOfTag n content ++ ps))
        (tagText (2 * n + 1) content escaped)
  /-- Backslashes and a character that begins no tag. -/
  | char (n : Nat) {c : Char} {rest escaped : List Char} {ps : List Piece} (hslash : c ≠ '\\')
      (noTag : tagAhead? (c :: rest) = none) (later : Scans rest ps escaped) :
      Scans (List.replicate n '\\' ++ c :: rest)
        ((List.replicate n '\\').foldr joinChar (joinChar c ps))
        (List.replicate n '\\' ++ c :: escaped)

/-- Every text is scanned. -/
theorem exists_scans (cs : List Char) : ∃ ps escaped, Scans cs ps escaped := by
  obtain ⟨n, rest, rfl, hrest⟩ := exists_slashes cs
  cases rest with
  | nil =>
    rw [List.append_nil]
    exact ⟨_, _, .slashes n⟩
  | cons c rest =>
    have hc : c ≠ '\\' := by simpa using hrest
    -- behind the backslashes stands a tag or any other character
    cases hahead : tagAhead? (c :: rest) with
    | none =>
      obtain ⟨ps, escaped, hlater⟩ := exists_scans rest
      exact ⟨_, _, .char n hc hahead hlater⟩
    | some found =>
      obtain rfl : c = '[' := by
        by_contra hbracket
        rw [tagAhead?_of_ne hc hbracket] at hahead
        cases hahead
      rw [tagAhead?_bracket] at hahead
      obtain ⟨⟨content, after⟩, htag, -⟩ := Option.map_eq_some_iff.mp hahead
      obtain ⟨rfl, hcontent⟩ := tag?_eq_some_iff.mp htag
      obtain ⟨ps, escaped, hlater⟩ := exists_scans after
      exact ⟨_, _, .tag n hcontent hlater⟩
termination_by cs.length
decreasing_by
  · simp only [*, List.length_append, List.length_cons]
    omega
  · simp only [*, List.length_append, List.length_cons]
    omega

/-- The two functions do what scanning says if they have fuel for the whole text. -/
theorem Scans.within (h : Scans cs ps escaped) {fuel : Nat} (hfuel : cs.length ≤ fuel) :
    piecesWithin fuel cs = ps ∧ escapeTagsWithin fuel cs = escaped := by
  induction h generalizing fuel with
  | slashes n =>
    have hnil : ∀ fuel, piecesWithin fuel [] = [] ∧ escapeTagsWithin fuel [] = [] := fun fuel => by
      cases fuel <;> exact ⟨rfl, rfl⟩
    cases n with
    | zero => exact hnil fuel
    | succ n =>
      obtain ⟨fuel, rfl⟩ : ∃ f, fuel = f + 1 := ⟨fuel - 1, by simp at hfuel; omega⟩
      have hpieces := @piecesWithin_slashes (n + 1) [] fuel n.succ_ne_zero (by simp) rfl
      have hescaped := @escapeTagsWithin_slashes (n + 1) [] fuel n.succ_ne_zero (by simp) rfl
      rw [(hnil fuel).1, List.append_nil] at hpieces
      rw [(hnil fuel).2, List.append_nil] at hescaped
      exact ⟨hpieces, hescaped⟩
  | @tag n content after escaped ps isTag _ ih =>
    have hlength : after.length + 1 ≤ fuel := by
      simp only [tagText, List.length_append, List.length_cons] at hfuel
      omega
    obtain ⟨fuel, rfl⟩ : ∃ f, fuel = f + 1 := ⟨fuel - 1, by omega⟩
    obtain ⟨hpieces, hescaped⟩ := ih (Nat.le_of_succ_le_succ hlength)
    rw [piecesWithin_tagText fuel isTag, escapeTagsWithin_tagText fuel isTag, hpieces, hescaped]
    exact ⟨rfl, rfl⟩
  -- backslashes before any other character are characters themselves
  | @char n c rest escaped ps hslash noTag _ ih =>
    simp only [List.length_append, List.length_replicate, List.length_cons] at hfuel
    have hfirst : ∀ fuel, rest.length + 1 ≤ fuel →
        piecesWithin fuel (c :: rest) = joinChar c ps ∧
          escapeTagsWithin fuel (c :: rest) = c :: escaped := by
      intro fuel hfuel
      obtain ⟨fuel, rfl⟩ : ∃ f, fuel = f + 1 := ⟨fuel - 1, by omega⟩
      obtain ⟨hpieces, hescaped⟩ := ih (Nat.le_of_succ_le_succ hfuel)
      rw [piecesWithin_cons fuel hslash noTag, escapeTagsWithin_cons fuel hslash noTag, hpieces,
        hescaped]
      exact ⟨rfl, rfl⟩
    by_cases hn : n = 0
    · subst hn
      exact hfirst fuel (by omega)
    · obtain ⟨fuel, rfl⟩ : ∃ f, fuel = f + 1 := ⟨fuel - 1, by omega⟩
      have hhead : (c :: rest).head? ≠ some '\\' := by simpa using hslash
      obtain ⟨hpieces, hescaped⟩ := hfirst fuel (by omega)
      rw [piecesWithin_slashes fuel hn hhead noTag, escapeTagsWithin_slashes fuel hn hhead noTag,
        hpieces, hescaped]
      exact ⟨rfl, rfl⟩

theorem Scans.pieces_eq (h : Scans cs ps escaped) : pieces cs = ps :=
  (h.within (Nat.le_refl _)).1

/-! ## Escaped texts -/

theorem find?_tagText : (tagText n content after).find? isBracket = some '[' := by
  unfold tagText
  rw [List.find?_append, List.find?_eq_none.mpr, List.find?_cons_of_pos rfl]
  · rfl
  · intro c hc
    rw [List.eq_of_mem_replicate hc]
    decide

theorem head?_tagText : (tagText n content after).head?.any beginsTag = false := by
  cases n <;> rfl

/-- Escaping keeps the first closing bracket where it is, if no opening one stands before it. -/
theorem Scans.find?_of_escaped (h : Scans cs ps escaped)
    (hfind : (escaped ++ tagText n content after).find? isBracket = some ']') :
    cs.find? isBracket = some ']' := by
  -- backslashes are no brackets, so those that escaping adds make no difference
  have hslashes : ∀ (k : Nat) (xs : List Char),
      (List.replicate k '\\' ++ xs).find? isBracket = xs.find? isBracket := by
    intro k xs
    rw [List.find?_append, List.find?_eq_none.mpr]
    · rfl
    · intro c hc
      rw [List.eq_of_mem_replicate hc]
      decide
  induction h with
  | slashes k =>
    rw [hslashes, find?_tagText] at hfind
    cases hfind
  | tag k _ _ _ =>
    rw [List.find?_append, find?_tagText] at hfind
    cases hfind
  | @char k c rest escaped ps _ _ _ ih =>
    rw [List.append_assoc, hslashes, List.cons_append] at hfind
    rw [hslashes]
    by_cases hc : isBracket c = true
    · rw [List.find?_cons_of_pos hc] at hfind ⊢
      exact hfind
    · rw [List.find?_cons_of_neg hc] at hfind ⊢
      exact ih hfind

/-- Escaping puts nothing in front that begins a tag. -/
theorem Scans.head?_of_escaped (h : Scans cs ps escaped)
    (hhead : (escaped ++ tagText n content after).head?.any beginsTag = true) :
    cs.head?.any beginsTag = true := by
  cases h with
  | slashes k =>
    have hjoin : List.replicate k '\\' ++ tagText n content after = tagText (k + n) content after := by
      simp [tagText, ← List.append_assoc]
    rw [hjoin, head?_tagText] at hhead
    cases hhead
  | tag k _ _ => cases k <;> cases hhead
  | char k _ _ _ =>
    cases k with
    | zero => exact hhead
    | succ k => cases hhead

/-- What begins no tag begins none when the rest is escaped and a tag follows. -/
theorem Scans.tagAhead?_escaped (h : Scans rest ps escaped) (hslash : c ≠ '\\')
    (hnone : tagAhead? (c :: rest) = none) :
    tagAhead? (c :: (escaped ++ tagText n content after)) = none := by
  by_cases hc : c = '['
  · subst hc
    rw [tagAhead?_bracket, Option.map_eq_none_iff] at hnone ⊢
    rw [← Option.not_isSome_iff_eq_none, isSome_tag?_iff] at hnone ⊢
    exact fun hsome => hnone ⟨h.head?_of_escaped hsome.1, h.find?_of_escaped hsome.2⟩
  · exact tagAhead?_of_ne hslash hc

/-- The number of backslashes at the end of a text. -/
def slashesAtEnd (cs : List Char) : Nat :=
  (cs.reverse.takeWhile (· == '\\')).length

theorem slashesAtEnd_replicate (n : Nat) : slashesAtEnd (List.replicate n '\\') = n := by
  simp [slashesAtEnd]

theorem slashesAtEnd_append_cons (front : List Char) (hc : c ≠ '\\') :
    slashesAtEnd (front ++ c :: rest) = slashesAtEnd rest := by
  have hcut : ∀ xs ys : List Char,
      (xs ++ c :: ys).takeWhile (· == '\\') = xs.takeWhile (· == '\\') := by
    intro xs ys
    induction xs with
    | nil => simp [hc]
    | cons x xs ih => simp [List.takeWhile_cons, ih]
  unfold slashesAtEnd
  rw [List.reverse_append, List.reverse_cons, List.append_assoc, List.singleton_append, hcut]

theorem slashesAtEnd_tagText : slashesAtEnd (tagText n content after) = slashesAtEnd after := by
  have hsplit : tagText n content after
      = (List.replicate n '\\' ++ '[' :: content) ++ ']' :: after := by simp [tagText]
  rw [hsplit, slashesAtEnd_append_cons _ (by decide)]

/-- Escaping keeps the backslashes at the end. -/
theorem Scans.slashesAtEnd_eq (h : Scans cs ps escaped) :
    slashesAtEnd escaped = slashesAtEnd cs := by
  induction h with
  | slashes k => rfl
  | tag k _ _ ih => rw [slashesAtEnd_tagText, slashesAtEnd_tagText, ih]
  | char k hslash _ _ ih =>
    rw [slashesAtEnd_append_cons _ hslash, slashesAtEnd_append_cons _ hslash, ih]

/-- A single backslash at the end is doubled. -/
theorem closeBackslash_eq (cs : List Char) :
    closeBackslash cs = cs ++ List.replicate (if slashesAtEnd cs = 1 then 1 else 0) '\\' := by
  unfold closeBackslash slashesAtEnd
  -- one backslash at the end gets a second one, more are left alone
  split
  · next rest heq => simp [heq]
  · next rest hone heq =>
    have hrest : rest.takeWhile (· == '\\') = [] := by
      cases rest with
      | nil => rfl
      | cons c rest =>
        have hc : c ≠ '\\' := fun hc => hone rest (by rw [hc])
        simp [hc]
    simp [heq, hrest]
  · next hone hnone =>
    have hempty : cs.reverse.takeWhile (· == '\\') = [] := by
      cases hrev : cs.reverse with
      | nil => rfl
      | cons c rest =>
        have hc : c ≠ '\\' := fun hc => hnone rest (by rw [hrev, hc])
        simp [hc]
    simp [hempty]

/-- Does the text have a backslash before a bracket that no tag begins with? It is taken for
    an escape. -/
def HasStraySlash (cs : List Char) : Prop :=
  ∃ t ∈ cs.tails, tagAhead? t = none ∧ ['\\', '['] <+: t

instance (cs : List Char) : Decidable (HasStraySlash cs) :=
  inferInstanceAs (Decidable (∃ t ∈ cs.tails, _))

theorem HasStraySlash.of_suffix {t : List Char} (h : HasStraySlash t) (ht : t <:+ cs) :
    HasStraySlash cs := by
  obtain ⟨u, hu, hstray⟩ := h
  exact ⟨u, (List.mem_tails _ _).mpr (((List.mem_tails _ _).mp hu).trans ht), hstray⟩

/-- There is no backslash before a bracket at all. -/
def SlashFree (cs : List Char) : Prop :=
  ¬ ['\\', '['] <:+: cs

instance (cs : List Char) : Decidable (SlashFree cs) :=
  inferInstanceAs (Decidable (¬ _))

theorem slashFree_cons (hc : c ≠ '\\') (h : SlashFree rest) : SlashFree (c :: rest) := by
  intro hin
  rcases List.infix_cons_iff.mp hin with hfirst | hlater
  · exact hc (List.cons_prefix_cons.mp hfirst).1.symm
  · exact h hlater

theorem slashFree_replicate_append (n : Nat) (hc : n ≠ 0 → c ≠ '[')
    (h : SlashFree (c :: rest)) : SlashFree (List.replicate n '\\' ++ c :: rest) := by
  induction n with
  | zero => exact h
  | succ n ih =>
    have hbelow := ih fun _ => hc n.succ_ne_zero
    intro hin
    rw [List.replicate_succ, List.cons_append] at hin
    rcases List.infix_cons_iff.mp hin with hfirst | hlater
    · have hsecond := (List.cons_prefix_cons.mp hfirst).2
      cases n with
      | zero => exact hc (by omega) (List.cons_prefix_cons.mp hsecond).1.symm
      | succ n => exact absurd (List.cons_prefix_cons.mp hsecond).1 (by decide)
    · exact hbelow hlater

theorem joinChar_foldr (n : Nat) (text : List Char) (ps : List Piece) :
    (List.replicate n '\\').foldr joinChar (.plain text :: ps)
      = .plain (List.replicate n '\\' ++ text) :: ps := by
  induction n with
  | zero => rfl
  | succ n ih => rw [List.replicate_succ, List.foldr_cons, ih]; rfl

theorem slashFree_replicate (n : Nat) : SlashFree (List.replicate n '\\') := fun hin =>
  absurd (List.eq_of_mem_replicate (hin.subset (by simp : '[' ∈ ['\\', '[']))) (by decide)

theorem slashFree_tagText_zero (h : IsTag content) : SlashFree ('[' :: (content ++ [']'])) := by
  apply slashFree_cons (by decide)
  intro hin
  have hmem := hin.subset (by simp : '[' ∈ ['\\', '['])
  rcases List.mem_append.mp hmem with hinner | hend
  · exact absurd (h.2 _ hinner) (by decide)
  · exact absurd (List.mem_singleton.mp hend) (by decide)

/-- What a tag with backslashes stands for: half as many backslashes, and the tag or its text. -/
theorem exists_piecesOfTag (n : Nat) (content : List Char) :
    ∃ (texts : List (List Char)) (last : Piece), piecesOfTag n content = texts.map .plain ++ [last] ∧
      texts.flatten = List.replicate (n / 2) '\\' ∧ (∀ t ∈ texts, SlashFree t) ∧
      last = if n % 2 = 1 then .plain ('[' :: content ++ [']']) else .tag content := by
  unfold piecesOfTag
  cases hhalf : n / 2 with
  | zero => exact ⟨[], _, rfl, rfl, by simp, rfl⟩
  | succ k =>
    refine ⟨[List.replicate (k + 1) '\\'], _, rfl, by simp, ?_, rfl⟩
    intro t ht
    rw [List.mem_singleton.mp ht]
    exact slashFree_replicate (k + 1)

/-- The pieces of an escaped text with a tag behind it: plain texts, and the tag or what it has
    become. Where the backslashes at the end were doubled if there was one, and none of the
    others is taken for an escape, the tag is one, and the plain texts are the text. -/
theorem Scans.escaped_append (h : Scans cs ps escaped) {m : Nat} (hcontent : IsTag content)
    {later : List Piece} {laterEscaped : List Char} (hafter : Scans after later laterEscaped) :
    ∃ (texts : List (List Char)) (last : Piece) (all : List Char), texts ≠ [] ∧
      Scans (escaped ++ tagText m content after) (texts.map .plain ++ last :: later) all ∧
      (last = .tag content ∨ ∃ t, last = .plain t) ∧
      (¬ HasStraySlash cs → slashesAtEnd cs ≤ 1 → m = slashesAtEnd cs →
        last = .tag content ∧ texts.flatten = cs ∧ ∀ t ∈ texts, SlashFree t) := by
  induction h with
  | slashes k =>
    -- these backslashes are read with the tag
    have hjoin : List.replicate k '\\' ++ tagText m content after = tagText (k + m) content after := by
      simp [tagText, ← List.append_assoc]
    obtain ⟨texts, last, hpieces, hflatten, hfree, hlast⟩ := exists_piecesOfTag (k + m) content
    have hscan := Scans.tag (k + m) hcontent hafter
    rw [hpieces] at hscan
    refine ⟨[] :: texts, last, _, by simp, by simpa [hjoin] using hscan, ?_, ?_⟩
    · rw [hlast]
      split
      · exact .inr ⟨_, rfl⟩
      · exact .inl rfl
    · rw [slashesAtEnd_replicate]
      rintro - hk rfl
      have hdouble : (m + m) % 2 ≠ 1 ∧ (m + m) / 2 = m := by omega
      rw [hlast, if_neg hdouble.1]
      refine ⟨rfl, by simp [hflatten, hdouble.2], ?_⟩
      rintro t (_ | ⟨_, ht⟩)
      · exact slashFree_replicate 0
      · exact hfree t ht
  | @tag k inner after' escaped ps isTag hlater ih =>
    obtain ⟨texts, last, all, -, hscan, hlast, hverbatim⟩ := ih
    have hjoin : tagText (2 * k + 1) inner escaped ++ tagText m content after
        = tagText (2 * k + 1) inner (escaped ++ tagText m content after) := by
      simp [tagText]
    obtain ⟨own, ownLast, hpieces, hflatten, hfree, hownLast⟩ := exists_piecesOfTag (2 * k + 1) inner
    rw [if_pos (by omega)] at hownLast
    have hall := Scans.tag (2 * k + 1) isTag hscan
    rw [hpieces, hownLast] at hall
    refine ⟨[] :: own ++ ('[' :: inner ++ [']']) :: texts, last, _, by simp,
      by simpa [hjoin] using hall, hlast, ?_⟩
    intro hstray hend hm
    rw [slashesAtEnd_tagText] at hend hm
    obtain ⟨rfl, rfl, htexts⟩ :=
      hverbatim (fun h => hstray (h.of_suffix ⟨List.replicate k '\\' ++ '[' :: inner ++ [']'],
        by simp [tagText]⟩)) hend hm
    refine ⟨rfl, ?_, ?_⟩
    · have hhalf : (2 * k + 1) / 2 = k := by omega
      simp [hflatten, hhalf, tagText]
    · intro t ht
      simp only [List.cons_append, List.mem_cons, List.mem_append] at ht
      rcases ht with rfl | hown | rfl | hlater
      · exact slashFree_replicate 0
      · exact hfree t hown
      · exact slashFree_tagText_zero isTag
      · exact htexts t hlater
  | @char k c rest escaped ps hslash noTag hlater ih =>
    obtain ⟨texts, last, all, hne, hscan, hlast, hverbatim⟩ := ih
    obtain ⟨text, texts, rfl⟩ := List.exists_cons_of_ne_nil hne
    have hall := Scans.char k hslash (hlater.tagAhead?_escaped hslash noTag) hscan
    rw [List.map_cons, List.cons_append, joinChar, joinChar_foldr] at hall
    refine ⟨(List.replicate k '\\' ++ c :: text) :: texts, last, _, by simp,
      by simpa using hall, hlast, ?_⟩
    intro hstray hend hm
    rw [slashesAtEnd_append_cons _ hslash] at hend hm
    obtain ⟨rfl, rfl, htexts⟩ :=
      hverbatim (fun h => hstray (h.of_suffix ⟨List.replicate k '\\' ++ [c], by simp⟩)) hend hm
    refine ⟨rfl, by simp, ?_⟩
    rintro t (_ | ⟨_, ht⟩)
    · apply slashFree_replicate_append k ?_ (slashFree_cons hslash (htexts text (by simp)))
      rintro hk rfl
      -- a bracket behind a backslash that begins no tag
      obtain ⟨k, rfl⟩ := Nat.exists_eq_succ_of_ne_zero hk
      have hahead :=
        @tagAhead?_replicate_append 1 ('[' :: (text :: texts).flatten) (by simp)
      rw [noTag] at hahead
      exact hstray ⟨'\\' :: '[' :: (text :: texts).flatten,
        (List.mem_tails _ _).mpr ⟨List.replicate k '\\', by simp [List.replicate_succ']⟩, hahead,
        by simp⟩
    · exact htexts t (List.mem_cons_of_mem _ ht)

/-! ## Emoji -/

/-- The name between colons that a text begins with. -/
def codeAhead? : List Char → Option (List Char)
  | ':' :: rest =>
    match rest.dropWhile fun c => !endsCode c with
    | ':' :: _ => some (rest.takeWhile fun c => !endsCode c)
    | _ => none
  | _ => none

/-- No name between colons in the text is one of an emoji. -/
def EmojiFree (cs : List Char) : Prop :=
  ∀ t ∈ cs.tails, (codeAhead? t).bind expandCode? = none

instance (cs : List Char) : Decidable (EmojiFree cs) :=
  inferInstanceAs (Decidable (∀ t ∈ cs.tails, _))

theorem codeAhead?_eq_some_iff {cs code : List Char} :
    codeAhead? cs = some code ↔
      (∀ c ∈ code, endsCode c = false) ∧ ∃ after, cs = ':' :: (code ++ ':' :: after) := by
  constructor
  · intro h
    unfold codeAhead? at h
    split at h
    · next rest =>
      split at h
      · next after hdrop =>
        have hparts := List.takeWhile_append_dropWhile (p := fun c => !endsCode c) (l := rest)
        rw [hdrop] at hparts
        obtain rfl := Option.some.inj h
        exact ⟨fun c hc => by simpa using List.mem_takeWhile_imp hc, after, by rw [hparts]⟩
      · cases h
    · cases h
  · rintro ⟨hends, after, rfl⟩
    -- nothing in the code ends it
    have hfront : ∀ c ∈ code, (!endsCode c) = true := by simpa using hends
    have hcolon : endsCode ':' = true := rfl
    unfold codeAhead?
    simp only [List.takeWhile_append_of_pos hfront, List.dropWhile_append_of_pos hfront]
    simp [hcolon]

theorem EmojiFree.mono {t : List Char} (h : EmojiFree cs) (ht : t <:+: cs) : EmojiFree t := by
  obtain ⟨front, later, rfl⟩ := ht
  intro u hu
  cases hcode : codeAhead? u with
  | none => rfl
  | some code =>
    obtain ⟨hends, after, rfl⟩ := codeAhead?_eq_some_iff.mp hcode
    -- a code inside the part is a code of the whole
    have hlonger : codeAhead? (':' :: (code ++ ':' :: after) ++ later) = some code :=
      codeAhead?_eq_some_iff.mpr ⟨hends, after ++ later, by simp⟩
    have htail : ':' :: (code ++ ':' :: after) ++ later ∈ (front ++ t ++ later).tails := by
      obtain ⟨v, rfl⟩ := (List.mem_tails _ _).mp hu
      exact (List.mem_tails _ _).mpr ⟨front ++ v, by simp⟩
    have hnone := h _ htail
    rwa [hlonger] at hnone

/-- With a single colon there is no name between two. -/
theorem emojiFree_of_count_le (h : cs.count ':' ≤ 1) : EmojiFree cs := by
  intro t ht
  cases hcode : codeAhead? t with
  | none => rfl
  | some code =>
    obtain ⟨-, after, rfl⟩ := codeAhead?_eq_some_iff.mp hcode
    have hcount := ((List.mem_tails _ _).mp ht).sublist.count_le ':'
    simp only [List.count_cons_self, List.count_append] at hcount
    omega

theorem emojiFree_of_not_mem (h : ':' ∉ cs) : EmojiFree cs :=
  emojiFree_of_count_le (by rw [List.count_eq_zero_of_not_mem h]; exact Nat.zero_le 1)

/-- Nothing is put in the place of names that are none of emoji. -/
theorem withEmoji_of_emojiFree (h : EmojiFree cs) : withEmoji cs = cs := by
  have hwithin : ∀ fuel, ∀ cs, EmojiFree cs → withEmojiWithin fuel cs = cs := by
    intro fuel cs
    fun_induction withEmojiWithin fuel cs with
    | case1 => exact fun _ => rfl
    | case2 => exact fun _ => rfl
    | case3 fuel rest code after hdrop ih =>
      intro h
      have hparts := List.takeWhile_append_dropWhile (p := fun c => !endsCode c) (l := rest)
      rw [hdrop] at hparts
      change code ++ ':' :: after = rest at hparts
      -- the name is that of no emoji, and stays with its colons
      have hcode : codeAhead? (':' :: rest) = some code := by
        simp only [codeAhead?, hdrop, code]
      have hnone := h (':' :: rest) (by simp)
      rw [hcode, Option.bind_some] at hnone
      have hlater : after <:+: ':' :: rest := ⟨':' :: code ++ [':'], [], by simp [← hparts]⟩
      rw [hnone, Option.getD_none, ih (h.mono hlater), ← hparts]
      simp
    | case4 fuel rest hdrop ih =>
      intro h
      rw [ih (h.mono (List.infix_cons (List.infix_refl rest)))]
    | case5 fuel c rest hc ih =>
      intro h
      rw [ih (h.mono (List.infix_cons (List.infix_refl rest)))]
  exact hwithin cs.length cs h

/-! ## Reading -/

theorem bareBrackets_of_slashFree (h : SlashFree cs) : bareBrackets cs = cs := by
  fun_induction bareBrackets cs with
  | case1 rest => exact absurd ⟨[], rest, rfl⟩ h
  | case2 c rest _ ih =>
    rw [ih fun hin => h (List.infix_cons hin)]
  | case3 => rfl

/-- A piece that is no tag is read as itself if nothing in it stands for something else. -/
theorem withEmoji_bareBrackets (hslash : SlashFree cs) (hemoji : EmojiFree cs) :
    withEmoji (bareBrackets cs) = cs := by
  rw [bareBrackets_of_slashFree hslash, withEmoji_of_emojiFree hemoji]

/-- Plain texts are read one after the other. -/
theorem markedOfPieces_plain_append (texts : List (List Char)) (ps : List Piece)
    (opened : List Tag) :
    markedOfPieces opened (texts.map .plain ++ ps)
      = (markedOfPieces opened ps).map fun m =>
          { m with text := texts.flatMap (fun t => withEmoji (bareBrackets t)) ++ m.text } := by
  induction texts with
  | nil => cases h : markedOfPieces opened ps <;> simp [h, Except.map]
  | cons t texts ih =>
    rw [List.map_cons, List.cons_append, markedOfPieces, ih]
    cases markedOfPieces opened ps <;> simp [Except.map, bind, Except.bind, pure, Except.pure]

/-- The texts of pieces that are no tags. -/
theorem markedOfPieces_plain (texts : List (List Char)) (opened : List Tag) :
    markedOfPieces opened (texts.map .plain)
      = .ok { text := texts.flatMap fun t => withEmoji (bareBrackets t)
              styles := opened.map Tag.style } := by
  have happend := markedOfPieces_plain_append texts [] opened
  rw [List.append_nil] at happend
  rw [happend]
  simp [markedOfPieces, Except.map]

/-- A text is left to read if it is well marked up and all its styles can be looked up. -/
theorem plain_eq_ok_iff {s : String} {text : List Char} :
    plain s = .ok text ↔ ∃ m, read s = .ok m ∧
      (∀ style ∈ m.styles, ∃ found, lookUp style = .ok found) ∧
      text = m.text.filter (!isDropped ·) := by
  unfold plain
  rw [bind_eq_ok_iff]
  refine exists_congr fun m => and_congr_right fun _ => ?_
  rw [bind_eq_ok_iff, ← exists_mapM_iff]
  simp only [pure, Except.pure, Except.ok.injEq, exists_and_right, eq_comm]

/-- A text without tags is a single piece. -/
theorem pieces_of_noTag (h : ∀ t ∈ cs.tails, tagAhead? t = none) :
    pieces cs = (if cs = [] then [] else [cs]).map .plain := by
  obtain ⟨ps, escaped, hscan⟩ := exists_scans cs
  rw [hscan.pieces_eq]
  -- characters that are joined one by one make one piece
  have hrun : ∀ n, (List.replicate (n + 1) '\\').foldr joinChar []
      = [.plain (List.replicate (n + 1) '\\')] := by
    intro n
    rw [List.replicate_succ', List.foldr_append]
    exact (joinChar_foldr n ['\\'] []).trans (by simp)
  induction hscan with
  | slashes n =>
    cases n with
    | zero => rfl
    | succ n => rw [hrun]; simp [List.replicate_succ]
  | @tag n content after _ _ isTag _ _ =>
    have hahead := h (tagText n content after) (by simp)
    rw [tagAhead?_tagText n isTag] at hahead
    cases hahead
  | @char n c rest escaped ps hslash noTag _ ih =>
    have hlater : ∀ t ∈ rest.tails, tagAhead? t = none := by
      intro t ht
      apply h t
      have hsuffix : rest <:+ List.replicate n '\\' ++ c :: rest :=
        ⟨List.replicate n '\\' ++ [c], by simp⟩
      exact (List.mem_tails _ _).mpr (((List.mem_tails _ _).mp ht).trans hsuffix)
    rw [ih hlater]
    have hjoin : joinChar c ((if rest = [] then [] else [rest]).map Piece.plain)
        = [.plain (c :: rest)] := by
      cases rest <;> rfl
    rw [hjoin, joinChar_foldr]
    simp

/-- There are no tags in a text without opening brackets. -/
theorem tagAhead?_of_not_mem (h : '[' ∉ cs) : ∀ t ∈ cs.tails, tagAhead? t = none := by
  intro t ht
  have hmem : '[' ∉ t := fun hmem => h (((List.mem_tails _ _).mp ht).subset hmem)
  unfold tagAhead?
  split
  · next rest hdrop =>
    exact absurd ((List.dropWhile_suffix _).subset (by rw [hdrop]; simp)) hmem
  · rfl

/-- A text that stands for itself. -/
structure Unmarked (cs : List Char) : Prop where
  noTag : ∀ t ∈ cs.tails, tagAhead? t = none
  slashFree : SlashFree cs
  emojiFree : EmojiFree cs
  noControl : ∀ c ∈ cs, isDropped c = false

instance (cs : List Char) : Decidable (Unmarked cs) :=
  have : Decidable (∀ c ∈ cs, isDropped c = false) := List.decidableBAll _ cs
  decidable_of_iff ((∀ t ∈ cs.tails, tagAhead? t = none) ∧ SlashFree cs ∧ EmojiFree cs ∧
      ∀ c ∈ cs, isDropped c = false)
    ⟨fun h => ⟨h.1, h.2.1, h.2.2.1, h.2.2.2⟩,
      fun h => ⟨h.noTag, h.slashFree, h.emojiFree, h.noControl⟩⟩

theorem slashFree_of_not_mem (h : '[' ∉ cs) : SlashFree cs :=
  fun hin => h (hin.subset (by simp))

/-- It does if there are no opening brackets and no names of emoji. -/
theorem unmarked_of_not_mem (h : '[' ∉ cs) (hemoji : EmojiFree cs)
    (hcontrol : ∀ c ∈ cs, isDropped c = false) : Unmarked cs :=
  ⟨tagAhead?_of_not_mem h, slashFree_of_not_mem h, hemoji, hcontrol⟩

theorem filter_isDropped (h : ∀ c ∈ cs, isDropped c = false) :
    cs.filter (!isDropped ·) = cs :=
  List.filter_eq_self.mpr (by simpa using h)

/-- A text without markup is read as itself, and has no styles. -/
theorem read_of_unmarked {s : String} (h : Unmarked s.toList) : read s = .ok { text := s.toList } := by
  unfold read
  split
  · rw [pieces_of_noTag h.noTag, markedOfPieces_plain]
    split
    · next hnil => simp [hnil]
    · simp [withEmoji_bareBrackets h.slashFree h.emojiFree]
  · rw [withEmoji_of_emojiFree h.emojiFree]

/-- **A text without markup is left as it is.** -/
theorem plain_of_unmarked {s : String} (h : Unmarked s.toList) : plain s = .ok s.toList :=
  plain_eq_ok_iff.mpr ⟨_, read_of_unmarked h, by simp, (filter_isDropped h.noControl).symm⟩

/-- A text without opening brackets is always read. -/
theorem exists_plain_of_not_mem {s : String} (h : '[' ∉ s.toList) : ∃ text, plain s = .ok text := by
  have hcontains : s.toList.contains '[' = false := by simpa using h
  have hread : read s = .ok { text := withEmoji s.toList } := by
    unfold read
    rw [hcontains]
    rfl
  exact ⟨_, plain_eq_ok_iff.mpr ⟨_, hread, by simp, rfl⟩⟩

/-! ### Tags around an escaped text -/

/-- The name of a tag that can be closed by that name. It is the name of a style, which can be
    looked up by the normal form of the name. -/
structure IsStyle (name : List Char) (normal : String) : Prop where
  isTag : IsTag name
  noEquals : '=' ∉ name
  opens : name.head? ≠ some '/'
  compared : comparedName name = .ok normal
  noAction : normal.toList.head? ≠ some '@'
  found : ∃ style, lookUp normal.toList = .ok style

/-- A text between a tag and the one that closes it, with something in front and behind. -/
def coloured (front name after : List Char) (s : String) : String :=
  String.ofList (front ++ '[' :: (name ++ ']' :: ((escape s).toList
    ++ '[' :: ('/' :: name ++ ']' :: after))))

variable {front name : List Char} {normal s : String}

theorem IsStyle.closing (h : IsStyle name normal) : IsTag ('/' :: name) := by
  refine ⟨rfl, ?_⟩
  rintro c (_ | ⟨_, hc⟩)
  · rfl
  · exact h.isTag.2 c hc

/-- Scanning a text without brackets and backslashes, and then another. -/
theorem Scans.front_append (hbracket : '[' ∉ front) (hslash : '\\' ∉ front)
    (h : Scans rest (.plain content :: ps) escaped) :
    Scans (front ++ rest) (.plain (front ++ content) :: ps) (front ++ escaped) := by
  induction front with
  | nil => exact h
  | cons c front ih =>
    have hlater := ih (fun hmem => hbracket (List.mem_cons_of_mem _ hmem))
      (fun hmem => hslash (List.mem_cons_of_mem _ hmem))
    have hplain : c ≠ '\\' := fun hc => hslash (by simp [hc])
    have hnoTag : tagAhead? (c :: (front ++ rest)) = none :=
      tagAhead?_of_ne hplain fun hc => hbracket (by simp [hc])
    simpa [joinChar] using Scans.char 0 hplain hnoTag hlater

/-- A text that stands for itself when it is escaped. -/
structure Escapable (cs : List Char) : Prop where
  noStray : ¬ HasStraySlash cs
  atEnd : slashesAtEnd cs ≤ 1
  emojiFree : EmojiFree cs
  noControl : ∀ c ∈ cs, isDropped c = false

instance (cs : List Char) : Decidable (Escapable cs) :=
  have : Decidable (∀ c ∈ cs, isDropped c = false) := List.decidableBAll _ cs
  decidable_of_iff (¬ HasStraySlash cs ∧ slashesAtEnd cs ≤ 1 ∧ EmojiFree cs ∧
      ∀ c ∈ cs, isDropped c = false)
    ⟨fun h => ⟨h.1, h.2.1, h.2.2.1, h.2.2.2⟩,
      fun h => ⟨h.noStray, h.atEnd, h.emojiFree, h.noControl⟩⟩

/-- The pieces of a coloured text. The closing tag may have been made part of the text by
    backslashes in front of it. -/
theorem pieces_coloured (hbracket : '[' ∉ front) (hslash : '\\' ∉ front) (hname : IsStyle name normal)
    (after : List Char) (s : String) :
    ∃ (texts : List (List Char)) (last : Piece),
      pieces (coloured front name after s).toList
        = .plain front :: .tag name :: (texts.map .plain ++ last :: pieces after) ∧
      (last = .tag ('/' :: name) ∨ ∃ t, last = .plain t) ∧
      (Escapable s.toList →
        last = .tag ('/' :: name) ∧ texts.flatten = s.toList ∧ ∀ t ∈ texts, SlashFree t) := by
  obtain ⟨ps, escaped, hscan⟩ := exists_scans s.toList
  obtain ⟨later, laterEscaped, hafter⟩ := exists_scans after
  -- the text is escaped on its own, so that no tag of it is read
  have hescape : (escape s).toList
      = escaped ++ List.replicate (if slashesAtEnd escaped = 1 then 1 else 0) '\\' := by
    unfold escape
    rw [String.toList_ofList, (hscan.within (Nat.le_of_eq String.length_toList)).2,
      closeBackslash_eq]
  obtain ⟨texts, last, all, -, htexts, hlast, hverbatim⟩ :=
    hscan.escaped_append (m := if slashesAtEnd escaped = 1 then 1 else 0) hname.closing hafter
  have hall := Scans.front_append hbracket hslash (.tag 0 hname.isTag htexts)
  refine ⟨texts, last, ?_, hlast, fun hs => ?_⟩
  · have htext : (coloured front name after s).toList = front ++ tagText 0 name
        (escaped ++ tagText (if slashesAtEnd escaped = 1 then 1 else 0) ('/' :: name) after) := by
      simp [coloured, hescape, tagText]
    rw [htext, hall.pieces_eq, hafter.pieces_eq]
    simp [piecesOfTag]
  · apply hverbatim hs.noStray hs.atEnd
    rw [hscan.slashesAtEnd_eq]
    have := hs.atEnd
    split <;> omega

/-- The tag that is open can be closed. -/
theorem IsStyle.close_eq (h : IsStyle name normal) :
    close name [{ name := normal }] = .ok ({ name := normal }, []) := by
  unfold close
  rw [h.compared]
  split
  · rfl
  · simp [bind, Except.bind, pure, Except.pure]

/-- A name without an equals sign is the name of its tag. -/
theorem tagName_eq_self {content : List Char} (h : '=' ∉ content) : tagName content = content :=
  List.takeWhile_eq_self_iff.mpr fun c hc => by
    simpa using fun heq : c = '=' => h (heq ▸ hc)

/-- The tag is opened without parameters. -/
theorem IsStyle.ofContent_eq (h : IsStyle name normal) :
    Tag.ofContent name = .ok { name := normal } := by
  have hparameters : tagParameters name = [] := by
    unfold tagParameters
    rw [List.dropWhile_eq_nil_iff.mpr fun c hc => by
      simpa using fun heq : c = '=' => h.noEquals (heq ▸ hc)]
    rfl
  unfold Tag.ofContent
  rw [tagName_eq_self h.noEquals, h.compared, hparameters]
  rfl

theorem markedOfPieces_tag (hname : IsStyle name normal) (opened : List Tag) :
    markedOfPieces opened (.tag name :: ps) = markedOfPieces ({ name := normal } :: opened) ps := by
  rw [markedOfPieces]
  split
  · next rest heq =>
    rw [tagName_eq_self hname.noEquals] at heq
    exact absurd (by rw [heq]; rfl) hname.opens
  · rw [hname.ofContent_eq]
    rfl

theorem markedOfPieces_closing (hname : IsStyle name normal) :
    markedOfPieces [{ name := normal }] (.tag ('/' :: name) :: ps)
      = (markedOfPieces [] ps).map fun m => { m with styles := normal.toList :: m.styles } := by
  have hown : tagName ('/' :: name) = '/' :: name :=
    tagName_eq_self (List.not_mem_cons_of_ne_of_not_mem (by decide) hname.noEquals)
  have hclosed : Tag.closed { name := normal } = .ok [normal.toList] := by
    have haction : Tag.isAction { name := normal } = false := by
      simpa [Tag.isAction] using hname.noAction
    unfold Tag.closed
    rw [haction]
    simp [Tag.style]
  rw [markedOfPieces, hown]
  simp only [hname.close_eq, hclosed, bind, Except.bind]
  cases markedOfPieces [] ps <;> rfl

/-- **An escaped text between tags is always read.** -/
theorem exists_plain_coloured (hbracket : '[' ∉ front) (hslash : '\\' ∉ front)
    (hname : IsStyle name normal) (hafter : '[' ∉ after) (s : String) :
    ∃ text, plain (coloured front name after s) = .ok text := by
  obtain ⟨texts, last, hpieces, hlast, -⟩ := pieces_coloured hbracket hslash hname after s
  have hcontains : (coloured front name after s).toList.contains '[' = true := by
    simp [coloured]
  have hopened : ∀ opened, ∃ text, markedOfPieces opened (pieces after)
      = .ok { text, styles := opened.map Tag.style } := by
    intro opened
    rw [pieces_of_noTag (tagAhead?_of_not_mem hafter), markedOfPieces_plain]
    exact ⟨_, rfl⟩
  -- the only style is that of the tag, whether it is closed or not
  have hrest : ∃ text, markedOfPieces [{ name := normal }] (last :: pieces after)
      = .ok { text, styles := [normal.toList] } := by
    rcases hlast with rfl | ⟨t, rfl⟩
    · obtain ⟨text, htext⟩ := hopened []
      rw [markedOfPieces_closing hname, htext]
      exact ⟨_, rfl⟩
    · obtain ⟨text, htext⟩ := hopened [{ name := normal }]
      rw [markedOfPieces, htext]
      exact ⟨withEmoji (bareBrackets t) ++ text,
        by simp [Tag.style, bind, Except.bind, pure, Except.pure]⟩
  obtain ⟨text, htext⟩ := hrest
  have hread : ∃ text, read (coloured front name after s)
      = .ok { text, styles := [normal.toList] } := by
    unfold read
    rw [hcontains, if_pos rfl, hpieces, markedOfPieces, markedOfPieces_tag hname,
      markedOfPieces_plain_append, htext]
    exact ⟨_, rfl⟩
  obtain ⟨text, hread⟩ := hread
  exact ⟨_, plain_eq_ok_iff.mpr ⟨_, hread, by simpa using hname.found, rfl⟩⟩

/-- **It is read as itself if it is escapable.** -/
theorem plain_coloured (hbracket : '[' ∉ front) (hslash : '\\' ∉ front)
    (hname : IsStyle name normal) (hfront : Unmarked front) (hs : Escapable s.toList) :
    plain (coloured front name [] s) = .ok (front ++ s.toList) := by
  obtain ⟨texts, last, hpieces, -, hverbatim⟩ := pieces_coloured hbracket hslash hname [] s
  obtain ⟨rfl, hflatten, hfree⟩ := hverbatim hs
  have hcontains : (coloured front name [] s).toList.contains '[' = true := by
    simp [coloured]
  -- what escaping has added is gone again
  have htexts : texts.flatMap (fun t => withEmoji (bareBrackets t)) = s.toList := by
    have hsame : texts.map (fun t => withEmoji (bareBrackets t)) = texts.map id := by
      apply List.map_congr_left
      intro t ht
      have hin : t <:+: s.toList := hflatten ▸ List.infix_of_mem_flatten ht
      exact withEmoji_bareBrackets (hfree t ht) (hs.emojiFree.mono hin)
    rw [List.flatMap_def, hsame, List.map_id, hflatten]
  have hread : read (coloured front name [] s)
      = .ok { text := front ++ s.toList, styles := [normal.toList] } := by
    have hnil : markedOfPieces [] (pieces []) = .ok {} := rfl
    unfold read
    rw [hcontains, if_pos rfl, hpieces, markedOfPieces, markedOfPieces_tag hname,
      markedOfPieces_plain_append, markedOfPieces_closing hname, htexts, hnil,
      withEmoji_bareBrackets hfront.slashFree hfront.emojiFree]
    simp [Except.map, bind, Except.bind, pure, Except.pure]
  refine plain_eq_ok_iff.mpr ⟨_, hread, by simpa using hname.found, ?_⟩
  rw [filter_isDropped]
  intro c hc
  rcases List.mem_append.mp hc with hc | hc
  · exact hfront.noControl c hc
  · exact hs.noControl c hc

end Waymark.Display

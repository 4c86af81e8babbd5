import Mathlib.Data.List.Forall2
import Mathlib.Data.List.Infix
import Mathlib.Data.List.TakeWhile
import Waymark.Display.Table

/-! # Where a text is shown

    A text that is not too wide is shown as it is.

    * Its lines are not broken (`fit_of_fits`).
    * In a table, the columns that must not be broken keep their width as long as there is
      room for them (`keepsFixed_columnWidths`), so the first column of such a table shows the
      texts in it, each in a row of its own (`showsColumn_lines`).
-/

namespace Waymark.Display

/-! ## Lines -/

variable {columns : Nat} {line cs : List Char} {overflow : Overflow}

/-- A line takes no more than some columns, and has no blanks at its end that would be dropped. -/
structure Fits (columns : Nat) (line : List Char) : Prop where
  width : width line ≤ columns
  whole : dropBlanksBeyond columns line = line

instance (columns : Nat) (line : List Char) : Decidable (Fits columns line) :=
  decidable_of_iff (Display.width line ≤ columns ∧ dropBlanksBeyond columns line = line)
    ⟨fun h => ⟨h.1, h.2⟩, fun h => ⟨h.width, h.whole⟩⟩

theorem trimEnd_isPrefix (cs : List Char) : trimEnd cs <+: cs := by
  have hsuffix : cs.reverse.dropWhile Text.isBlank <:+ cs.reverse := List.dropWhile_suffix _
  simpa [trimEnd] using List.reverse_prefix.mpr hsuffix

theorem width_le_of_isPrefix {front : List Char} (h : front <+: cs) : width front ≤ width cs := by
  obtain ⟨rest, rfl⟩ := h
  rw [width_append]
  omega

/-- Words are put into the open line while there is room. -/
theorem foldl_add (words : List (List Char)) (f : Filling)
    (h : width (f.current ++ words.flatten) ≤ columns) :
    words.foldl (Filling.add columns overflow) f
      = { f with current := f.current ++ words.flatten } := by
  induction words generalizing f with
  | nil => simp
  | cons word words ih =>
    have hword := width_le_of_isPrefix (trimEnd_isPrefix word)
    simp only [List.flatten_cons, width_append] at h
    have hroom : width f.current + width (trimEnd word) ≤ columns := by omega
    have hadd : Filling.add columns overflow f word = { f with current := f.current ++ word } := by
      unfold Filling.add
      simp only [hroom, if_true]
    rw [List.foldl_cons, hadd, ih _ (by simp only [width_append]; omega)]
    simp

/-- Splitting off a word loses nothing, and what follows begins with no blank. -/
theorem splitWord_spec (h : cs.all Text.isBlank = false) :
    (splitWord cs).1 ++ (splitWord cs).2 = cs ∧ (splitWord cs).2.length < cs.length ∧
      ((splitWord cs).2 = [] ∨ (splitWord cs).2.all Text.isBlank = false) := by
  have hbefore := List.takeWhile_append_dropWhile (p := Text.isBlank) (l := cs)
  cases hrest : cs.dropWhile Text.isBlank with
  | nil =>
    have hblank := List.dropWhile_eq_nil_iff.mp hrest
    rw [List.all_eq_true.mpr hblank] at h
    cases h
  | cons c rest =>
    have hhead : (cs.dropWhile Text.isBlank).head?.all (fun c => !Text.isBlank c) = true := by
      have hfirst := List.head?_dropWhile_not Text.isBlank cs
      rw [hrest] at hfirst ⊢
      simpa using hfirst
    rw [hrest] at hhead hbefore
    have hc : (!Text.isBlank c) = true := hhead
    unfold splitWord
    simp only [hrest, List.takeWhile_cons, List.dropWhile_cons, hc, if_true]
    have hword := List.takeWhile_append_dropWhile (p := fun c => !Text.isBlank c) (l := rest)
    generalize rest.takeWhile (fun c => !Text.isBlank c) = word at hword ⊢
    generalize rest.dropWhile (fun c => !Text.isBlank c) = later at hword ⊢
    have hlater := List.takeWhile_append_dropWhile (p := Text.isBlank) (l := later)
    -- blanks, a word and what comes after it make up the text
    have hwhole : cs.takeWhile Text.isBlank ++ c :: (word ++ later) = cs := by rw [hword, hbefore]
    refine ⟨?_, ?_, ?_⟩
    · rw [List.append_assoc, hlater]
      simpa using hwhole
    · have hlength := congrArg List.length hwhole
      have hless := congrArg List.length hlater
      simp only [List.length_append, List.length_cons] at hlength hless
      omega
    -- what is left begins with a word or is empty
    · cases hend : later.dropWhile Text.isBlank with
      | nil => exact .inl rfl
      | cons d more =>
        have hfirst := List.head?_dropWhile_not Text.isBlank later
        rw [hend] at hfirst
        exact .inr (by simp [show Text.isBlank d = false by simpa using hfirst])

/-- The words of a line are the line. -/
theorem flatten_wordsWithin {fuel : Nat} (hfuel : cs.length ≤ fuel)
    (h : cs.all Text.isBlank = false) : (wordsWithin fuel cs).flatten = cs := by
  induction fuel generalizing cs with
  | zero => simp [List.length_eq_zero_iff.mp (Nat.le_zero.mp hfuel)] at h
  | succ fuel ih =>
    obtain ⟨hparts, hlength, hrest⟩ := splitWord_spec h
    rw [wordsWithin, h]
    simp only [Bool.false_eq_true, if_false, List.flatten_cons]
    rcases hrest with hnil | hrest
    · rw [hnil] at hparts ⊢
      have hnone : wordsWithin fuel [] = [] := by cases fuel <;> rfl
      rw [hnone]
      simpa using hparts
    · rw [ih (by omega) hrest, hparts]

/-- A line that is not too wide is not broken. -/
theorem breakLine_of_width_le (h : width line ≤ columns) : breakLine columns overflow line = [line] := by
  unfold breakLine
  split
  · rfl
  · next words hwords =>
    -- a line of blanks has no words, and any other one is its words put together
    by_cases hblank : line.all Text.isBlank = true
    · have hnone : wordsWithin line.length line = [] := by
        cases hlength : line.length with
        | zero => rfl
        | succ n => rw [wordsWithin, hblank]; rfl
      exact absurd hnone hwords
    · have hflatten := flatten_wordsWithin (Nat.le_refl _) (Bool.eq_false_iff.mpr hblank)
      rw [foldl_add _ _ (by simpa [hflatten] using h), hflatten]
      rfl

theorem shorten_of_width_le (h : width line ≤ columns) : shorten columns overflow line = line := by
  unfold shorten
  rw [if_pos h]

/-- **A text whose lines fit is shown as it is**, with spaces in the place of tabs. -/
theorem fit_of_fits
    (h : ∀ line ∈ Text.splitWhere (· == '\n') cs, Fits columns (expandTabs 0 line)) :
    fit {} columns cs = (Text.splitWhere (· == '\n') cs).map (expandTabs 0) := by
  have hline : ∀ line ∈ Text.splitWhere (· == '\n') cs,
      (breakLine columns .fold (expandTabs 0 line)).map (fun line =>
        placed columns .fold .free (dropBlanksBeyond columns line)) = [expandTabs 0 line] := by
    intro line hline
    obtain ⟨hwidth, hwhole⟩ := h line hline
    rw [breakLine_of_width_le hwidth, List.map_singleton, hwhole]
    show [shorten columns .fold (expandTabs 0 line)] = [expandTabs 0 line]
    rw [shorten_of_width_le hwidth]
  unfold fit
  exact (List.flatMap_congr hline).trans (List.map_eq_flatMap).symm

/-! ## Cells -/

/-- The only blanks in a text are spaces. -/
def SpacesOnly (cs : List Char) : Prop :=
  ∀ c ∈ cs, Text.isBlank c = true → c = ' '

instance (cs : List Char) : Decidable (SpacesOnly cs) :=
  List.decidableBAll _ cs

theorem SpacesOnly.not_mem {c : Char} (h : SpacesOnly cs) (hblank : Text.isBlank c = true)
    (hc : c ≠ ' ') : c ∉ cs :=
  fun hmem => hc (h c hmem hblank)

theorem splitWhere_of_none {p : Char → Bool} (h : ∀ c ∈ cs, p c = false) :
    Text.splitWhere p cs = [cs] := by
  induction cs with
  | nil => rfl
  | cons c rest ih =>
    rw [Text.splitWhere, ih fun d hd => h d (List.mem_cons_of_mem _ hd)]
    simp [h c (by simp)]

theorem expandTabs_of_not_mem (column : Nat) (h : '\t' ∉ cs) : expandTabs column cs = cs := by
  induction cs generalizing column with
  | nil => rfl
  | cons c rest ih =>
    have hc : c ≠ '\t' := fun hc => h (by simp [hc])
    rw [expandTabs, ih _ fun hmem => h (List.mem_cons_of_mem _ hmem)]
    exact hc

theorem charWidth_space : charWidth ' ' = 1 := rfl

theorem width_spaces (n : Nat) : width (spaces n) = n := by
  induction n with
  | zero => rfl
  | succ n ih =>
    show charWidth ' ' + width (spaces n) = n + 1
    rw [charWidth_space, ih, Nat.add_comm]

/-- Some blanks at the end of a line are dropped, at most. -/
theorem exists_dropped (columns : Nat) (cs : List Char) :
    ∃ dropped, dropBlanksBeyond columns cs ++ dropped = cs ∧
      ∀ c ∈ dropped, Text.isBlank c = true := by
  have hblanks : cs = trimEnd cs ++ (cs.reverse.takeWhile Text.isBlank).reverse := by
    unfold trimEnd
    rw [← List.reverse_append, List.takeWhile_append_dropWhile, List.reverse_reverse]
  -- what is cut off lies behind the last character that is not blank
  have hcut : ∀ front later : List Char, cs = front ++ later → cs.drop front.length = later := by
    rintro front later rfl
    simp
  have hshort : (trimEnd cs).length ≤ cs.length
      - min (cs.length - (trimEnd cs).length) (cs.length - columns) := by
    have := (trimEnd_isPrefix cs).length_le
    omega
  refine ⟨_, List.take_append_drop _ cs, fun c hc => ?_⟩
  have hlater := List.drop_subset_drop_left cs hshort hc
  rw [hcut _ _ hblanks, List.mem_reverse] at hlater
  exact List.mem_takeWhile_imp hlater

/-- The text of a cell that is filled up to a width. -/
def padded (columns : Nat) (cs : List Char) : List Char :=
  cs ++ spaces (columns - width cs)

/-- What is dropped at the end of a line is made up for where it is filled up with spaces. -/
theorem padded_dropBlanksBeyond (h : SpacesOnly cs) (hwidth : width cs ≤ columns) :
    padded columns (dropBlanksBeyond columns cs) = padded columns cs := by
  obtain ⟨dropped, hparts, hblank⟩ := exists_dropped columns cs
  -- the blanks that are dropped are spaces, which padding puts back
  have hspaces : dropped = spaces dropped.length := by
    refine List.eq_replicate_iff.mpr ⟨rfl, fun c hc => ?_⟩
    exact h c (hparts ▸ List.mem_append_right _ hc) (hblank c hc)
  generalize dropBlanksBeyond columns cs = kept at hparts ⊢
  generalize dropped.length = n at hspaces
  subst hspaces hparts
  rw [width_append, width_spaces] at hwidth
  unfold padded spaces
  rw [List.append_assoc, List.replicate_append_replicate, width_append]
  have hn := width_spaces n
  unfold spaces at hn
  rw [hn]
  congr 2
  omega

/-- A cell that is not broken shows a text that is not too wide. -/
theorem cellLines_of_width_le {column : Column} (hside : column.side = .left)
    (hbreaks : column.breaks = false) (hcolumns : columns ≠ 0) (h : SpacesOnly cs)
    (hwidth : width cs ≤ columns) :
    Table.cellLines column (columns + Table.padding) cs = [' ' :: padded columns cs ++ [' ']] := by
  have hline : Text.splitWhere (· == '\n') cs = [cs] := by
    apply splitWhere_of_none
    intro c hc
    have hne : c ≠ '\n' := fun heq => h.not_mem (by decide) (by decide) (heq ▸ hc)
    simpa using hne
  have htabs : expandTabs 0 cs = cs :=
    expandTabs_of_not_mem 0 (h.not_mem (by decide) (by decide))
  -- what fits is not shortened, only padded
  have hkept : width (dropBlanksBeyond columns cs) ≤ columns := by
    obtain ⟨dropped, hparts, -⟩ := exists_dropped columns cs
    exact Nat.le_trans (width_le_of_isPrefix ⟨dropped, hparts⟩) hwidth
  unfold Table.cellLines fit
  rw [if_neg (by omega), hline, hside, hbreaks]
  simp only [Nat.add_sub_cancel, List.flatMap_singleton, htabs, Bool.false_eq_true, if_false,
    List.map_singleton]
  have hplaced : placed columns .ellipsis .left (dropBlanksBeyond columns cs)
      = padded columns cs := by
    unfold placed
    simp only [shorten_of_width_le hkept]
    exact padded_dropBlanksBeyond h hwidth
  rw [hplaced]

/-! ## Narrowing columns -/

namespace Table

theorem foldl_max_le {xs : List Nat} {a b : Nat} (ha : a ≤ b) (h : ∀ x ∈ xs, x ≤ b) :
    xs.foldl max a ≤ b := by
  induction xs generalizing a with
  | nil => exact ha
  | cons x xs ih =>
    exact ih (Nat.max_le.mpr ⟨ha, h x (by simp)⟩) fun y hy => h y (List.mem_cons_of_mem _ hy)

theorem le_foldl_max (xs : List Nat) (a : Nat) :
    a ≤ xs.foldl max a ∧ ∀ x ∈ xs, x ≤ xs.foldl max a := by
  induction xs generalizing a with
  | nil => simp
  | cons x xs ih =>
    obtain ⟨hmax, hlater⟩ := ih (max a x)
    refine ⟨Nat.le_trans (Nat.le_max_left a x) hmax, ?_⟩
    rintro y (_ | ⟨_, hy⟩)
    · exact Nat.le_trans (Nat.le_max_right a x) hmax
    · exact hlater y hy

theorem foldl_max_mem (xs : List Nat) (a : Nat) : xs.foldl max a = a ∨ xs.foldl max a ∈ xs := by
  induction xs generalizing a with
  | nil => exact .inl rfl
  | cons x xs ih =>
    rcases ih (max a x) with hmax | hmem
    · rw [List.foldl_cons, hmax]
      rcases Nat.le_total a x with hle | hle
      · exact .inr (by simp [Nat.max_eq_right hle])
      · exact .inl (Nat.max_eq_left hle)
    · exact .inr (List.mem_cons_of_mem _ hmem)

/-! ### Taking shares -/

theorem length_reduce (amount parts : Nat) (columns : List (Nat × Bool × Nat)) :
    (reduce amount parts columns).length = columns.length := by
  fun_induction reduce amount parts columns with
  | case1 => rfl
  | case2 _ _ _ _ _ _ _ _ ih => simp [ih]
  | case3 _ _ _ _ _ _ _ ih => simp [ih]

/-- Nothing is taken from what takes no part. -/
theorem getElem?_reduce {most columnWidth i : Nat} {columns : List (Nat × Bool × Nat)}
    (amount parts : Nat) (h : columns[i]? = some (most, false, columnWidth)) :
    (reduce amount parts columns)[i]? = some columnWidth := by
  induction columns generalizing amount parts i with
  | nil => simp at h
  | cons c columns ih =>
    obtain ⟨ownMost, takesPart, ownWidth⟩ := c
    rw [reduce]
    cases i with
    | zero =>
      simp only [List.getElem?_cons_zero, Option.some.injEq, Prod.mk.injEq] at h
      obtain ⟨-, rfl, rfl⟩ := h
      rfl
    | succ i =>
      rw [List.getElem?_cons_succ] at h
      split
      · exact ih _ _ h
      · exact ih _ _ h

theorem total_reduce_le (amount parts : Nat) (columns : List (Nat × Bool × Nat)) :
    total (reduce amount parts columns) ≤ total (columns.map fun c => c.2.2) := by
  fun_induction reduce amount parts columns with
  | case1 => exact Nat.le_refl _
  | case2 amount parts most takesPart columnWidth rest htakes share ih =>
    simp only [total, List.foldr_cons, List.map_cons] at ih ⊢
    omega
  | case3 amount parts most takesPart columnWidth rest htakes ih =>
    simp only [total, List.foldr_cons, List.map_cons] at ih ⊢
    omega

theorem roundedShare_one (amount : Nat) : roundedShare amount 1 = amount := by
  simp [roundedShare, Nat.mod_one]

/-- Something is taken if anything takes part, at the latest from the last that does. -/
theorem total_reduce_lt {amount : Nat} {columns : List (Nat × Bool × Nat)} (hamount : amount ≠ 0)
    (hparts : participants columns ≠ 0)
    (hmost : ∀ c ∈ columns, c.2.1 = true → c.1 ≤ c.2.2) :
    total (reduce amount (participants columns) columns)
      < total (columns.map fun c => c.2.2) := by
  induction columns generalizing amount with
  | nil => exact absurd rfl hparts
  | cons c columns ih =>
    obtain ⟨most, takesPart, columnWidth⟩ := c
    have hrest : ∀ c ∈ columns, c.2.1 = true → c.1 ≤ c.2.2 :=
      fun c hc => hmost c (List.mem_cons_of_mem _ hc)
    rw [reduce]
    by_cases htakes : (takesPart && decide (most > 0)) = true
    -- the column takes part, so it may give something
    · have hcount : participants ((most, takesPart, columnWidth) :: columns)
          = participants columns + 1 := by
        simp [participants, htakes]
      obtain ⟨htrue, hpositive⟩ : takesPart = true ∧ most > 0 := by simpa using htakes
      have hfits := hmost _ List.mem_cons_self htrue
      rw [if_pos htakes, hcount, Nat.add_sub_cancel]
      by_cases hshare : min most (roundedShare amount (participants columns + 1)) = 0
      · -- nothing is taken here, so there are others
        have hothers : participants columns ≠ 0 := by
          intro hnone
          rw [hnone, roundedShare_one] at hshare
          omega
        have hbelow := ih hamount hothers hrest
        simp only [hshare, Nat.sub_zero, total, List.foldr_cons, List.map_cons] at hbelow ⊢
        omega
      · have hbelow := total_reduce_le
          (amount - min most (roundedShare amount (participants columns + 1)))
          (participants columns) columns
        simp only [total, List.foldr_cons, List.map_cons] at hbelow hfits ⊢
        omega
    · have hcount : participants ((most, takesPart, columnWidth) :: columns)
          = participants columns := by
        simp only [participants, List.filter_cons, htakes]
        rfl
      rw [hcount] at hparts ⊢
      rw [if_neg htakes]
      have hbelow := ih hamount hparts hrest
      simp only [total, List.foldr_cons, List.map_cons] at hbelow ⊢
      omega

/-! ### Columns that keep their width -/

/-- The columns that must not be broken have the same width in both lists. -/
structure KeepsFixed (breaks : List Bool) (widths widths' : List Nat) : Prop where
  length : widths'.length = widths.length
  same : ∀ i : Nat, breaks[i]? = some false → widths'[i]? = widths[i]?

/-- The width of the columns that must not be broken. -/
def fixedWidth (breaks : List Bool) (widths : List Nat) : Nat :=
  total (List.zipWith (fun breaks columnWidth => if breaks then 0 else columnWidth) breaks widths)

variable {breaks : List Bool} {widths widths' widths'' : List Nat} {limit : Nat}

theorem KeepsFixed.refl (breaks : List Bool) (widths : List Nat) :
    KeepsFixed breaks widths widths :=
  ⟨rfl, fun _ _ => rfl⟩

theorem KeepsFixed.trans (h : KeepsFixed breaks widths widths')
    (h' : KeepsFixed breaks widths' widths'') : KeepsFixed breaks widths widths'' :=
  ⟨h'.length.trans h.length, fun i hi => (h'.same i hi).trans (h.same i hi)⟩

theorem KeepsFixed.fixedWidth_eq (h : KeepsFixed breaks widths widths') :
    fixedWidth breaks widths' = fixedWidth breaks widths := by
  unfold fixedWidth
  congr 1
  apply List.ext_getElem?
  intro i
  rw [List.getElem?_zipWith, List.getElem?_zipWith]
  cases hbreaks : breaks[i]? with
  | none => rfl
  | some b =>
    cases b with
    | false => rw [h.same i hbreaks]
    | true =>
      -- these do not count, but there is one in both lists or in none
      have hlength := h.length
      by_cases hi : i < widths.length
      · rw [List.getElem?_eq_getElem hi, List.getElem?_eq_getElem (hlength ▸ hi)]
        rfl
      · rw [List.getElem?_eq_none (by omega), List.getElem?_eq_none (by omega)]

/-- What is left when the others have no width. -/
theorem total_eq_fixedWidth (hlength : widths.length = breaks.length)
    (h : ∀ c ∈ widths.zip breaks, c.2 = true → c.1 = 0) :
    total widths = fixedWidth breaks widths := by
  induction widths generalizing breaks with
  | nil => cases breaks <;> rfl
  | cons columnWidth widths ih =>
    cases breaks with
    | nil => cases hlength
    | cons b breaks =>
      have hlater := ih (Nat.succ.inj hlength) fun c hc => h c (List.mem_cons_of_mem _ hc)
      have hfirst := h (columnWidth, b) List.mem_cons_self
      unfold fixedWidth at hlater ⊢
      -- a column that may be broken has no width
      cases b with
      | false => exact congrArg (columnWidth + ·) hlater
      | true =>
        obtain rfl : columnWidth = 0 := hfirst rfl
        exact congrArg (0 + ·) hlater

/-- Narrowing some of the columns that may be broken. -/
theorem keepsFixed_reduce (amount parts : Nat) (most : Nat → Nat) (takesPart : Nat → Bool)
    (hlength : widths.length = breaks.length) :
    KeepsFixed breaks widths (reduce amount parts
      ((widths.zip breaks).map fun (w, b) => (most w, b && takesPart w, w))) := by
  refine ⟨by simp [length_reduce, hlength], fun i hi => ?_⟩
  obtain ⟨hbound, -⟩ := List.getElem?_eq_some_iff.mp hi
  obtain ⟨own, hwidth⟩ : ∃ own, widths[i]? = some own :=
    ⟨_, List.getElem?_eq_getElem (hlength ▸ hbound)⟩
  have hpair : (widths.zip breaks)[i]? = some (own, false) :=
    List.getElem?_zip_eq_some.mpr ⟨hwidth, hi⟩
  rw [hwidth]
  exact getElem?_reduce amount parts (by rw [List.getElem?_map, hpair]; rfl)

theorem mem_breakable_iff {breakable : List Nat} {w : Nat}
    (h : (widths.zip breaks).filterMap (fun (w, b) => if b then some w else none) = breakable) :
    w ∈ breakable ↔ (w, true) ∈ widths.zip breaks := by
  rw [← h, List.mem_filterMap]
  constructor
  · rintro ⟨⟨w', b⟩, hpair, hsome⟩
    cases b with
    | false => cases hsome
    | true => exact Option.some.inj hsome ▸ hpair
  · exact fun hpair => ⟨(w, true), hpair, rfl⟩

/-- Narrowing the widest of the columns that may be broken makes the columns narrower. -/
theorem total_reduce_widest_lt {amount most widest : Nat} (hlength : widths.length = breaks.length)
    (hamount : amount ≠ 0) (hmost : most ≠ 0) (hle : most ≤ widest)
    (hwidest : (widest, true) ∈ widths.zip breaks) :
    total (reduce amount
        (participants ((widths.zip breaks).map fun (w, b) => (most, b && w == widest, w)))
        ((widths.zip breaks).map fun (w, b) => (most, b && w == widest, w)))
      < total widths := by
  have hwidths : ((widths.zip breaks).map fun (w, b) => (most, b && w == widest, w)).map
      (fun c => c.2.2) = widths := by
    rw [List.map_map]
    exact List.map_fst_zip (Nat.le_of_eq hlength)
  have hless := @total_reduce_lt amount
    ((widths.zip breaks).map fun (w, b) => (most, b && w == widest, w)) hamount ?_ ?_
  · rwa [hwidths] at hless
  -- the widest column is one of those that take part
  · apply Nat.pos_iff_ne_zero.mp
    apply List.length_pos_of_mem (a := (most, true, widest))
    apply List.mem_filter.mpr
    refine ⟨List.mem_map.mpr ⟨(widest, true), hwidest, by simp⟩, ?_⟩
    simpa using Nat.pos_of_ne_zero hmost
  · intro c hc htakes
    obtain ⟨⟨w, b⟩, -, rfl⟩ := List.mem_map.mp hc
    obtain rfl : w = widest := by
      have hboth : b = true ∧ w = widest := by simpa using htakes
      exact hboth.2
    exact hle

/-- The columns that may be broken are narrowed until all of them fit, if there is room for those
    that must not be broken. -/
theorem collapse_spec (hlength : widths.length = breaks.length)
    (hfixed : fixedWidth breaks widths ≤ limit) {fuel : Nat} (hfuel : total widths ≤ fuel) :
    KeepsFixed breaks widths (collapse breaks limit fuel widths) ∧
      total (collapse breaks limit fuel widths) ≤ limit := by
  induction fuel generalizing widths with
  | zero => exact ⟨.refl breaks widths, Nat.le_trans hfuel (Nat.zero_le limit)⟩
  | succ fuel ih =>
    rw [collapse]
    by_cases hexcess : total widths - limit = 0
    · simp only [hexcess, if_true]
      exact ⟨.refl breaks widths, by omega⟩
    · simp only [hexcess, if_false]
      generalize hbreakable : (widths.zip breaks).filterMap
        (fun (w, b) => if b then some w else none) = breakable
      generalize hwidest : breakable.foldl max 0 = widest
      generalize hnext : (breakable.filter (· != widest)).foldl max 0 = next
      have hmem := fun w => mem_breakable_iff (w := w) hbreakable
      have hle : ∀ w ∈ breakable, w ≤ widest := hwidest ▸ (le_foldl_max breakable 0).2
      by_cases hstop : (breakable.isEmpty || decide (widest = next)) = true
      · -- no column that may be broken has a width any more
        have hzero : ∀ c ∈ widths.zip breaks, c.2 = true → c.1 = 0 := by
          rintro ⟨w, b⟩ hc rfl
          have hw := (hmem w).mpr hc
          have hsame : widest = next := by
            rcases Bool.or_eq_true_iff.mp hstop with hempty | hsame
            · rw [List.isEmpty_iff.mp hempty] at hw
              cases hw
            · exact of_decide_eq_true hsame
          rcases foldl_max_mem (breakable.filter (· != widest)) 0 with hnone | hother
          · exact Nat.le_zero.mp (hnone ▸ hnext.symm ▸ hsame ▸ hle w hw)
          · rw [hnext, ← hsame] at hother
            simp at hother
        rw [if_pos hstop]
        exact ⟨.refl breaks widths, total_eq_fixedWidth hlength hzero ▸ hfixed⟩
      · rw [if_neg hstop]
        obtain ⟨hnonempty, hdiffer⟩ : breakable.isEmpty = false ∧ widest ≠ next := by
          simpa using hstop
        have hnextle : next ≤ widest := hnext ▸
          foldl_max_le (Nat.zero_le widest) fun w hw => hle w (List.mem_filter.mp hw).1
        have hwidestMem : widest ∈ breakable := by
          rcases foldl_max_mem breakable 0 with hzero | hwidestMem
          · omega
          · exact hwidest ▸ hwidestMem
        -- the widest columns give until they are as narrow as the next ones, or until all fits
        have hkeeps := keepsFixed_reduce (total widths - limit) (participants
          ((widths.zip breaks).map fun (w, b) =>
            (min (total widths - limit) (widest - next), b && w == widest, w)))
          (fun _ => min (total widths - limit) (widest - next)) (· == widest) hlength
        have hless := total_reduce_widest_lt hlength hexcess
          (show min (total widths - limit) (widest - next) ≠ 0 by omega)
          (show min (total widths - limit) (widest - next) ≤ widest by omega)
          ((hmem widest).mp hwidestMem)
        obtain ⟨hlater, htotal⟩ := ih (hkeeps.length.trans hlength)
          (hkeeps.fixedWidth_eq ▸ hfixed) (by omega)
        exact ⟨hkeeps.trans hlater, htotal⟩

/-- No other columns are narrowed. -/
theorem narrowed_spec (hlength : widths.length = breaks.length)
    (hfixed : fixedWidth breaks widths ≤ limit) :
    KeepsFixed breaks widths (narrowed breaks limit widths) := by
  obtain ⟨hkeeps, htotal⟩ := collapse_spec hlength hfixed (Nat.le_refl _)
  unfold narrowed
  simp only [Nat.sub_eq_zero_of_le htotal, if_true]
  exact hkeeps

variable {t : Table} {screen : Nat}

theorem length_cellsByColumn (t : Table) : t.cellsByColumn.length = t.columns.length := by
  simp [cellsByColumn]

/-- The width of the widest of some cells. -/
def widest (cells : List (List Char)) : Nat :=
  (cells.map textWidth).foldl max 0

theorem widest_le {cells : List (List Char)} {n : Nat} (h : ∀ cell ∈ cells, textWidth cell ≤ n) :
    widest cells ≤ n :=
  foldl_max_le (Nat.zero_le n) (by simpa using h)

theorem wanted_eq (limit : Nat) (cells : List (List Char)) :
    wanted limit cells = min limit (widest cells + padding) := rfl

theorem textWidth_le_widest {cells : List (List Char)} {cell : List Char} (h : cell ∈ cells) :
    textWidth cell ≤ widest cells :=
  (le_foldl_max _ 0).2 _ (List.mem_map_of_mem h)

/-- The width that the columns of a table ask for. -/
def wantedWidths (t : Table) (screen : Nat) : List Nat :=
  t.cellsByColumn.map (wanted (screen - (t.columns.length + 1)))

/-- **Columns that must not be broken are as wide as they ask for** if there is room for all of
    these columns on the screen. -/
theorem keepsFixed_columnWidths
    (hfixed : fixedWidth (t.columns.map Column.breaks) (t.wantedWidths screen)
      ≤ screen - (t.columns.length + 1)) :
    KeepsFixed (t.columns.map Column.breaks) (t.wantedWidths screen) (t.columnWidths screen) := by
  have heq : t.columnWidths screen
      = if total (t.wantedWidths screen) ≤ screen - (t.columns.length + 1) then
          t.wantedWidths screen
        else (narrowed (t.columns.map Column.breaks) (screen - (t.columns.length + 1))
          (t.wantedWidths screen)).zipWith wanted t.cellsByColumn := rfl
  rw [heq]
  split
  · exact .refl _ _
  · have hlength : (t.wantedWidths screen).length = (t.columns.map Column.breaks).length := by
      simp [wantedWidths, length_cellsByColumn]
    have hkeeps := narrowed_spec hlength hfixed
    refine ⟨?_, fun i hi => ?_⟩
    · rw [List.length_zipWith, hkeeps.length]
      simp [wantedWidths]
    · -- a column that got what it asked for cannot ask for less in it
      rw [List.getElem?_zipWith, hkeeps.same i hi]
      unfold wantedWidths
      rw [List.getElem?_map]
      cases t.cellsByColumn[i]? with
      | none => rfl
      | some cells => simp [wanted]

/-- The width of a text on one line. -/
theorem textWidth_of_spacesOnly (h : SpacesOnly cs) : textWidth cs = width cs := by
  have hends : ∀ code ∈ [0xa, 0x1c, 0x1d, 0x1e, 0x85, 0x2028, 0x2029],
      Text.isBlankCode code = true ∧ code ≠ ' '.toNat := by decide
  have hline : Text.splitWhere endsMeasuredLine cs = [cs] := by
    apply splitWhere_of_none
    intro c hc
    by_contra hend
    rw [Bool.not_eq_false] at hend
    obtain ⟨hblank, hspace⟩ := hends c.toNat (by simpa [endsMeasuredLine] using hend)
    exact hspace (h c hc hblank ▸ rfl)
  unfold textWidth
  rw [hline]
  simp

/-! ## Rows -/

/-- A line of a table with a text in the first of its columns. -/
def ShowsFirst (b : Border) (columns : Nat) (cs line : List Char) : Prop :=
  ∃ after, line = b.left :: ' ' :: padded columns cs ++ ' ' :: b.middle :: after

/-- The lines of a row with a text in the first of its columns: it stands in the first line, and
    the column is empty in the others. -/
def RowShows (b : Border) (columns : Nat) (cs : List Char) : List (List Char) → Prop
  | [] => False
  | first :: more => ShowsFirst b columns cs first ∧ ∀ line ∈ more, ShowsFirst b columns [] line

/-- The first cell of a line stands between the left border and the next one. -/
theorem exists_join_eq (b : Border) (cell next : List Char) (cells : List (List Char)) :
    ∃ after, b.join (cell :: next :: cells) = b.left :: cell ++ b.middle :: after := by
  refine ⟨[b.middle].intercalate (next :: cells) ++ [b.right], ?_⟩
  unfold Border.join
  rw [List.intercalate_cons_cons]
  simp

theorem spaces_add_padding (n : Nat) :
    spaces (n + padding) = ' ' :: padded n [] ++ [' '] := by
  show List.replicate (n + 1 + 1) ' ' = ' ' :: ([] ++ List.replicate (n - 0) ' ') ++ [' ']
  rw [List.replicate_succ, List.replicate_succ']
  rfl

/-- A row shows the text of its first cell in one line. -/
theorem rowShows_rowLines (b : Border) {column nextColumn : Column} {moreColumns : List Column}
    {columns nextWidth : Nat} {moreWidths : List Nat} {cs next : List Char}
    {more : List (List Char)} (hside : column.side = .left) (hbreaks : column.breaks = false)
    (hcolumns : columns ≠ 0) (h : SpacesOnly cs) (hwidth : width cs ≤ columns) :
    RowShows b columns cs (rowLines b (column :: nextColumn :: moreColumns)
      ((columns + padding) :: nextWidth :: moreWidths) (cs :: next :: more)) := by
  unfold rowLines
  simp only [List.zip_cons_cons, List.map_cons,
    cellLines_of_width_le hside hbreaks hcolumns h hwidth]
  -- a row is at least one line high, and its first line has the text
  generalize hheight : List.foldl max 1 _ = height
  obtain ⟨k, rfl⟩ : ∃ k, height = k + 1 := by
    rw [← hheight]
    exact ⟨_, (Nat.sub_add_cancel (le_foldl_max _ 1).1).symm⟩
  rw [List.range_succ_eq_map, List.map_cons]
  refine ⟨?_, fun line hline => ?_⟩
  · obtain ⟨after, heq⟩ := exists_join_eq b (' ' :: padded columns cs ++ [' '])
      ((cellLines nextColumn nextWidth next)[0]?.getD (spaces nextWidth)) _
    refine ⟨after, Eq.trans heq ?_⟩
    simp
  · rw [List.map_map] at hline
    obtain ⟨i, -, rfl⟩ := List.mem_map.mp hline
    obtain ⟨after, heq⟩ := exists_join_eq b (spaces (columns + padding))
      ((cellLines nextColumn nextWidth next)[i + 1]?.getD (spaces nextWidth)) _
    refine ⟨after, Eq.trans heq ?_⟩
    rw [spaces_add_padding]
    simp

/-! ## Tables -/

/-- The border of the rows below the head. -/
def bodyBorder : Border := ⟨'│', '│', '│'⟩

theorem head?_of_mem_rowLines {b : Border} {columns : List Column} {widths : List Nat}
    {row : List (List Char)} {line : List Char} (h : line ∈ rowLines b columns widths row) :
    line.head? = some b.left := by
  unfold rowLines at h
  obtain ⟨_, -, rfl⟩ := List.mem_map.mp h
  rfl

/-- The lines below the head are those that begin with its border. -/
theorem filter_lines (t : Table) (screen : Nat) :
    (t.lines screen).filter (·.head? == some bodyBorder.left)
      = t.rows.flatMap (rowLines bodyBorder t.columns (t.columnWidths screen)) := by
  -- the lines of the body are told from the headline and the rulers by their first character
  have hhead : (rowLines ⟨'┃', '┃', '┃'⟩ t.columns (t.columnWidths screen)
      (t.columns.map fun column => column.title.toList)).filter
        (·.head? == some bodyBorder.left) = [] := by
    apply List.filter_eq_nil_iff.mpr
    intro line hline
    rw [head?_of_mem_rowLines hline]
    decide
  have hbody : (t.rows.flatMap (rowLines bodyBorder t.columns (t.columnWidths screen))).filter
      (·.head? == some bodyBorder.left)
        = t.rows.flatMap (rowLines bodyBorder t.columns (t.columnWidths screen)) := by
    apply List.filter_eq_self.mpr
    intro line hline
    obtain ⟨row, -, hrow⟩ := List.mem_flatMap.mp hline
    rw [head?_of_mem_rowLines hrow]
    decide
  have hruler : ∀ (left middle right line : Char), left ≠ '│' →
      ((ruler ⟨left, middle, right⟩ line (t.columnWidths screen)).head?
        == some bodyBorder.left) = false := by
    intro left middle right line hleft
    simpa [ruler, Border.join, bodyBorder] using hleft
  unfold lines
  simp only [List.filter_append, List.filter_cons, List.cons_append, List.filter_nil,
    hruler '┏' _ _ _ (by decide), hruler '┡' _ _ _ (by decide), hruler '└' _ _ _ (by decide),
    Bool.false_eq_true, if_false, hhead, List.nil_append, List.append_nil]
  exact hbody

/-- Some lines show texts in the first column of a table: below the head, each text has the lines
    of a row. -/
def ShowsColumn (texts lines : List (List Char)) : Prop :=
  ∃ columns rows, lines.filter (·.head? == some bodyBorder.left) = rows.flatten ∧
    List.Forall₂ (RowShows bodyBorder columns) texts rows

/-- **A table shows the first cells of its rows** in its first column, if this must not be broken
    and has room for them. -/
theorem showsColumn_lines {column nextColumn : Column} {moreColumns : List Column}
    {columns nextWidth : Nat} {moreWidths : List Nat} {t : Table} {screen : Nat}
    {texts : List (List Char)} (hside : column.side = .left) (hbreaks : column.breaks = false)
    (hcolumns : t.columns = column :: nextColumn :: moreColumns)
    (hwidths : t.columnWidths screen = (columns + padding) :: nextWidth :: moreWidths)
    (hroom : columns ≠ 0)
    (hrows : List.Forall₂ (fun text row => ∃ next more, row = text :: next :: more) texts t.rows)
    (htexts : ∀ text ∈ texts, SpacesOnly text ∧ width text ≤ columns) :
    ShowsColumn texts (t.lines screen) := by
  refine ⟨columns, t.rows.map (rowLines bodyBorder t.columns (t.columnWidths screen)), ?_, ?_⟩
  · rw [filter_lines, List.flatMap_def]
  · rw [List.forall₂_map_right_iff]
    refine (List.forall₂_iff_zip.mpr ⟨hrows.length_eq, fun {text row} hpair => ?_⟩)
    obtain ⟨next, more, rfl⟩ := (List.forall₂_iff_zip.mp hrows).2 hpair
    obtain ⟨hspaces, hwidth⟩ := htexts text (List.of_mem_zip hpair).1
    rw [hcolumns, hwidths]
    exact rowShows_rowLines bodyBorder hside hbreaks hroom hspaces hwidth

end Table

end Waymark.Display

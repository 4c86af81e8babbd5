import Mathlib.Data.List.Basic
import Waymark.Client.Source

/-! # Reading by indentation

    Generated text is laid out by indentation. `Layout.read` reads such a text back into blocks,
    each of which is a line and what is indented below it. It looks at indentation and at
    closing brackets only:

    * empty lines are passed over;
    * a line that is indented below another belongs to it;
    * where the next line at the same level begins with a closing bracket, the indented lines
      before it are the items of an argument list, and the line goes on behind them.

    `Layout.ReadsAs` says that lines at some depth are read as some blocks, whatever stands
    behind them. Its rules follow the way in which such lines are put together, and both layouts
    of an argument list come under one rule (`ReadsAs.arguments`).
-/

namespace Waymark.Layout

open Waymark.Client

/-- A line of a text and what is indented below it. -/
structure Block where
  text : String
  inner : List Block := []

namespace Block

mutual
/-- The block and all blocks below it, each before what is below it. -/
def walk (b : Block) : List Block :=
  match b with
  | ⟨text, inner⟩ => ⟨text, inner⟩ :: walkAll inner

/-- The blocks of several trees in the same order. -/
def walkAll : List Block → List Block
  | [] => []
  | b :: rest => walk b ++ walkAll rest
end

theorem walkAll_eq_flatMap (bs : List Block) : walkAll bs = bs.flatMap walk := by
  induction bs with
  | nil => rfl
  | cons b rest ih => rw [walkAll, ih, List.flatMap_cons]

theorem walk_eq (b : Block) : b.walk = b :: b.inner.flatMap walk := by
  obtain ⟨text, inner⟩ := b
  rw [walk, walkAll_eq_flatMap]

/-- Does the line begin with the word? -/
def begins (word : String) (b : Block) : Bool :=
  word.toList.isPrefixOf b.text.toList

end Block

/-! ## The reader -/

/-- The line without one step of indentation, if it has one. -/
def deeper? : List Char → Option (List Char)
  | ' ' :: ' ' :: ' ' :: ' ' :: rest => some rest
  | _ => none

/-- The lines in front that are indented, without one step, and the lines behind them. -/
def takeDeeper : List (List Char) → List (List Char) × List (List Char)
  | [] => ([], [])
  | line :: rest =>
    match deeper? line with
    | some inner => (inner :: (takeDeeper rest).1, (takeDeeper rest).2)
    | none => ([], line :: rest)

theorem length_takeDeeper (lines : List (List Char)) :
    (takeDeeper lines).1.length + (takeDeeper lines).2.length = lines.length := by
  induction lines with
  | nil => rfl
  | cons line rest ih =>
    unfold takeDeeper
    split
    · simp only [List.length_cons]
      omega
    · simp

/-- Items that stand on lines of their own, each with a comma behind it, side by side. -/
def joinItems (lines : List (List Char)) : List Char :=
  [',', ' '].intercalate (lines.map List.dropLast)

/-- A line with what is below it, and the lines behind. -/
structure Piece where
  text : List Char
  inner : List (List Char)
  after : List (List Char)

/-- The piece that begins with a line. -/
def takePiece (line : List Char) (rest : List (List Char)) : Piece :=
  match takeDeeper rest with
  | (items, (')' :: closing) :: later) =>
    { text := line ++ joinItems items ++ ')' :: closing
      inner := (takeDeeper later).1
      after := (takeDeeper later).2 }
  | (inner, after) => { text := line, inner, after }

theorem length_takePiece (line : List Char) (rest : List (List Char)) :
    (takePiece line rest).inner.length + (takePiece line rest).after.length ≤ rest.length := by
  have hrest := length_takeDeeper rest
  unfold takePiece
  split
  · next items closing later heq =>
    have hlater := length_takeDeeper later
    rw [heq, List.length_cons] at hrest
    dsimp only
    omega
  · next inner after _ heq =>
    rw [heq] at hrest
    exact Nat.le_of_eq hrest

/-- Reads lines into blocks. -/
def readBlocks : List (List Char) → List Block
  | [] => []
  | line :: rest =>
    have := length_takePiece line rest
    { text := String.ofList (takePiece line rest).text
      inner := readBlocks (takePiece line rest).inner } :: readBlocks (takePiece line rest).after
termination_by lines => lines.length

/-- Reads a text into blocks. -/
def read (text : String) : List Block :=
  readBlocks ((Text.splitWhere (· == '\n') text.toList).filter (!·.isEmpty))

/-! ## Lines that stand for themselves -/

/-- The line begins a block: it is not indented, and it closes no bracket. -/
def Opening (line : List Char) : Prop :=
  ∃ c rest, line = c :: rest ∧ c ≠ ' ' ∧ c ≠ ')'

/-- The first of the lines begins a block. -/
def Fresh (lines : List (List Char)) : Prop :=
  ∀ line ∈ lines.head?, Opening line

theorem deeper?_of_opening {line : List Char} (h : Opening line) : deeper? line = none := by
  obtain ⟨c, rest, rfl, hblank, -⟩ := h
  unfold deeper?
  split
  · next heq => exact absurd (List.cons.inj heq).1 hblank
  · rfl

theorem Opening.append {line : List Char} (h : Opening line) (more : List Char) :
    Opening (line ++ more) := by
  obtain ⟨c, rest, rfl, hblank, hclose⟩ := h
  exact ⟨c, rest ++ more, rfl, hblank, hclose⟩

theorem Fresh.append {xs ys : List (List Char)} (hx : Fresh xs) (hy : Fresh ys) :
    Fresh (xs ++ ys) := by
  cases xs with
  | nil => exact hy
  | cons line rest => exact hx

/-- One step of indentation. -/
def deepen (line : List Char) : List Char :=
  indent.toList ++ line

theorem deeper?_deepen (line : List Char) : deeper? (deepen line) = some line := rfl

theorem takeDeeper_of_none {lines : List (List Char)}
    (h : ∀ line ∈ lines.head?, deeper? line = none) : takeDeeper lines = ([], lines) := by
  cases lines with
  | nil => rfl
  | cons line rest =>
    unfold takeDeeper
    rw [h line rfl]

/-- What is indented is taken off and nothing else. -/
theorem takeDeeper_append (inner : List (List Char)) {after : List (List Char)}
    (h : ∀ line ∈ after.head?, deeper? line = none) :
    takeDeeper (inner.map deepen ++ after) = (inner, after) := by
  induction inner with
  | nil => exact takeDeeper_of_none h
  | cons line rest ih =>
    rw [List.map_cons, List.cons_append, takeDeeper, deeper?_deepen, ih]

theorem takeDeeper_fresh (inner : List (List Char)) {after : List (List Char)} (h : Fresh after) :
    takeDeeper (inner.map deepen ++ after) = (inner, after) :=
  takeDeeper_append inner fun line hline => deeper?_of_opening (h line hline)

/-- A line and what is indented below it are one block. -/
theorem readBlocks_block (line : List Char) (inner : List (List Char))
    {after : List (List Char)} (h : Fresh after) :
    readBlocks (line :: (inner.map deepen ++ after))
      = { text := String.ofList line, inner := readBlocks inner } :: readBlocks after := by
  have hpiece : takePiece line (inner.map deepen ++ after) = { text := line, inner, after } := by
    unfold takePiece
    rw [takeDeeper_fresh inner h]
    split
    · next heq =>
      -- the line would go on only if what comes next closed a bracket
      cases heq
      obtain ⟨c, rest, hline, -, hclose⟩ := h _ rfl
      exact absurd (List.cons.inj hline).1.symm hclose
    · next heq =>
      cases heq
      rfl
  rw [readBlocks, hpiece]

/-- A line that goes on behind its items is one block with what is indented below that. -/
theorem readBlocks_items (line closing : List Char) (items inner : List (List Char))
    {after : List (List Char)} (h : Fresh after) :
    readBlocks (line :: (items.map deepen ++ (')' :: closing) :: (inner.map deepen ++ after)))
      = { text := String.ofList (line ++ joinItems items ++ ')' :: closing)
          inner := readBlocks inner } :: readBlocks after := by
  have hitems : takeDeeper (items.map deepen ++ (')' :: closing) :: (inner.map deepen ++ after))
      = (items, (')' :: closing) :: (inner.map deepen ++ after)) := by
    apply takeDeeper_append
    intro other hother
    cases hother
    rfl
  rw [readBlocks]
  unfold takePiece
  simp only [hitems, takeDeeper_fresh inner h]

/-! ## Lines at a depth -/

/-- The text is on one line. -/
def Unbroken (s : String) : Prop :=
  '\n' ∉ s.toList

instance (s : String) : Decidable (Unbroken s) :=
  inferInstanceAs (Decidable (¬ _))

@[simp] theorem unbroken_append {s t : String} :
    Unbroken (s ++ t) ↔ Unbroken s ∧ Unbroken t := by
  unfold Unbroken
  rw [String.toList_append, List.mem_append, not_or]

theorem Unbroken.append {s t : String} (hs : Unbroken s) (ht : Unbroken t) : Unbroken (s ++ t) :=
  unbroken_append.mpr ⟨hs, ht⟩

theorem Unbroken.intercalate {separator : String} {parts : List String}
    (hseparator : Unbroken separator) (h : ∀ part ∈ parts, Unbroken part) :
    Unbroken (separator.intercalate parts) := by
  induction parts with
  | nil => exact List.not_mem_nil
  | cons part rest ih =>
    have hpart := h part List.mem_cons_self
    have hrest := ih fun other hother => h other (List.mem_cons_of_mem _ hother)
    cases rest with
    | nil => rwa [String.intercalate_singleton]
    | cons next more =>
      rw [String.intercalate_cons_cons]
      exact (hpart.append hseparator).append hrest

theorem padding_succ (depth : Nat) : padding (depth + 1) = padding depth ++ indent := by
  unfold padding
  rw [List.replicate_succ', String.join_append]
  simp

theorem unbroken_padding (depth : Nat) : Unbroken (padding depth) := by
  induction depth with
  | zero => exact List.not_mem_nil
  | succ depth ih =>
    rw [padding_succ]
    exact ih.append (by decide)

/-- The lines that are not empty. -/
def filled (lines : List String) : List (List Char) :=
  (lines.map String.toList).filter (!·.isEmpty)

theorem filled_append (xs ys : List String) : filled (xs ++ ys) = filled xs ++ filled ys := by
  unfold filled
  rw [List.map_append, List.filter_append]

theorem filled_cons {line : String} (h : line.toList ≠ []) (rest : List String) :
    filled (line :: rest) = line.toList :: filled rest := by
  unfold filled
  rw [List.map_cons, List.filter_cons_of_pos]
  simpa using h

/-- Lines at a depth are read as blocks, whatever block comes next. -/
structure ReadsAs (depth : Nat) (lines : List String) (blocks : List Block) : Prop where
  unbroken : ∀ line ∈ lines, Unbroken line
  exists_raw : ∃ raw, filled lines = raw.map ((padding depth).toList ++ ·) ∧ Fresh raw ∧
    ∀ after, Fresh after → readBlocks (raw ++ after) = blocks ++ readBlocks after

theorem readBlocks_nil : readBlocks [] = [] := by
  rw [readBlocks]

namespace ReadsAs

variable {depth : Nat} {lines inner : List String} {blocks : List Block} {text : String}

/-- Nothing is read from no lines. -/
theorem nil (depth : Nat) : ReadsAs depth [] [] := by
  refine ⟨fun line hline => absurd hline List.not_mem_nil, [], rfl, ?_, fun after _ => rfl⟩
  intro line hline
  cases hline

/-- What stands one after the other is read one after the other. -/
theorem append {more : List String} {others : List Block} (hlines : ReadsAs depth lines blocks)
    (hmore : ReadsAs depth more others) : ReadsAs depth (lines ++ more) (blocks ++ others) := by
  obtain ⟨hunbroken, raw, hraw, hfresh, hread⟩ := hlines
  obtain ⟨hunbroken', raw', hraw', hfresh', hread'⟩ := hmore
  refine ⟨?_, raw ++ raw', ?_, hfresh.append hfresh', fun after hafter => ?_⟩
  · intro line hline
    rcases List.mem_append.mp hline with hline | hline
    · exact hunbroken line hline
    · exact hunbroken' line hline
  · rw [filled_append, hraw, hraw', List.map_append]
  · rw [List.append_assoc, hread _ (hfresh'.append hafter), hread' _ hafter, List.append_assoc]

/-- Empty lines are passed over. -/
theorem blank (h : ReadsAs depth lines blocks) : ReadsAs depth ("" :: lines) blocks := by
  obtain ⟨hunbroken, hraw⟩ := h
  refine ⟨?_, hraw⟩
  intro line hline
  rcases List.mem_cons.mp hline with rfl | hline
  · exact List.not_mem_nil
  · exact hunbroken line hline

theorem flatMap {α : Type} {xs : List α} {linesOf : α → List String} {blockOf : α → Block}
    (h : ∀ x ∈ xs, ReadsAs depth (linesOf x) [blockOf x]) :
    ReadsAs depth (xs.flatMap linesOf) (xs.map blockOf) := by
  induction xs with
  | nil => exact nil depth
  | cons x rest ih =>
    have hrest := ih fun other hother => h other (List.mem_cons_of_mem _ hother)
    exact (h x List.mem_cons_self).append hrest

/-- The lines below a line, as they are seen from it. -/
theorem exists_deepened (h : ReadsAs (depth + 1) inner blocks) :
    ∃ raw, filled inner = (raw.map deepen).map ((padding depth).toList ++ ·)
      ∧ readBlocks raw = blocks := by
  obtain ⟨-, raw, hraw, -, hread⟩ := h
  refine ⟨raw, ?_, ?_⟩
  · rw [hraw, padding_succ, String.toList_append, List.map_map]
    exact List.map_congr_left fun line _ => List.append_assoc _ _ _
  · have halone := hread [] (fun line hline => by cases hline)
    rwa [List.append_nil, readBlocks_nil, List.append_nil] at halone

/-- A line with what is indented below it. -/
theorem block (hopening : Opening text.toList) (hunbroken : Unbroken text)
    (hinner : ReadsAs (depth + 1) inner blocks) :
    ReadsAs depth ((padding depth ++ text) :: inner) [{ text, inner := blocks }] := by
  obtain ⟨raw, hraw, hread⟩ := hinner.exists_deepened
  refine ⟨?_, text.toList :: raw.map deepen, ?_, ?_, fun after hafter => ?_⟩
  · intro line hline
    rcases List.mem_cons.mp hline with rfl | hline
    · exact (unbroken_padding depth).append hunbroken
    · exact hinner.unbroken line hline
  · have hne : (padding depth ++ text).toList ≠ [] := by
      obtain ⟨c, rest, htext, -, -⟩ := hopening
      rw [String.toList_append, htext]
      exact List.append_ne_nil_of_right_ne_nil _ (List.cons_ne_nil _ _)
    rw [filled_cons hne, hraw, String.toList_append, List.map_cons]
  · intro line hline
    cases hline
    exact hopening
  · rw [List.cons_append, readBlocks_block _ _ hafter, hread, String.ofList_toList]
    rfl

/-- The items of an argument list that has one item on each line. -/
theorem filled_items (depth : Nat) (items : List String) :
    filled (items.map fun item => padding depth ++ indent ++ item ++ ",")
      = ((items.map fun item => item.toList ++ [',']).map deepen).map
          ((padding depth).toList ++ ·) := by
  induction items with
  | nil => rfl
  | cons item rest ih =>
    have hne : (padding depth ++ indent ++ item ++ ",").toList ≠ [] := by
      rw [String.toList_append]
      exact List.append_ne_nil_of_right_ne_nil _ (List.cons_ne_nil _ _)
    rw [List.map_cons, filled_cons hne, ih, String.toList_append, String.toList_append,
      String.toList_append]
    simp only [List.map_cons, deepen, List.append_assoc]
    rfl

theorem joinItems_commas (items : List String) :
    joinItems (items.map fun item => item.toList ++ [',']) = (", ".intercalate items).toList := by
  unfold joinItems
  rw [List.map_map, String.toList_intercalate]
  congr 1
  exact List.map_congr_left fun item _ => List.dropLast_concat

section Arguments

variable {head tail : String} {items : List String}

theorem unbroken_open (h : Unbroken head) : Unbroken (head ++ "(") :=
  h.append (by decide)

theorem unbroken_close (h : Unbroken tail) : Unbroken (")" ++ tail) :=
  Unbroken.append (by decide) h

theorem opening_open (h : Opening head.toList) : Opening (head ++ "(").toList := by
  rw [String.toList_append]
  exact h.append _

/-- An argument list on one line. -/
theorem sideBySide (hopening : Opening head.toList) (hhead : Unbroken head)
    (hitems : ∀ item ∈ items, Unbroken item) (htail : Unbroken tail)
    (hinner : ReadsAs (depth + 1) inner blocks) :
    ReadsAs depth ((padding depth ++ head ++ "(" ++ ", ".intercalate items ++ ")" ++ tail) :: inner)
      [{ text := head ++ "(" ++ ", ".intercalate items ++ ")" ++ tail, inner := blocks }] := by
  have hjoined : Unbroken (", ".intercalate items) :=
    Unbroken.intercalate (by decide) hitems
  have htext : head ++ "(" ++ ", ".intercalate items ++ ")" ++ tail
      = head ++ "(" ++ (", ".intercalate items ++ (")" ++ tail)) := by
    simp only [String.append_assoc]
  have hopened : Opening (head ++ "(" ++ ", ".intercalate items ++ ")" ++ tail).toList := by
    rw [htext, String.toList_append]
    exact (opening_open hopening).append _
  have hunbroken : Unbroken (head ++ "(" ++ ", ".intercalate items ++ ")" ++ tail) := by
    rw [htext]
    exact (unbroken_open hhead).append (hjoined.append (unbroken_close htail))
  simpa only [String.append_assoc] using block hopened hunbroken hinner

/-- An argument list with one item on each line. -/
theorem oneBelowTheOther (hopening : Opening head.toList) (hhead : Unbroken head)
    (hitems : ∀ item ∈ items, Unbroken item) (htail : Unbroken tail)
    (hinner : ReadsAs (depth + 1) inner blocks) :
    ReadsAs depth
      ((padding depth ++ head ++ "(")
        :: (items.map (fun item => padding depth ++ indent ++ item ++ ",")
          ++ (padding depth ++ ")" ++ tail) :: inner))
      [{ text := head ++ "(" ++ ", ".intercalate items ++ ")" ++ tail, inner := blocks }] := by
  obtain ⟨raw, hraw, hread⟩ := hinner.exists_deepened
  have hpadding := unbroken_padding depth
  -- the lines as they are seen at this depth: the items and what is below are one step deeper
  refine ⟨?_, (head ++ "(").toList :: ((items.map fun item => item.toList ++ [',']).map deepen
    ++ (')' :: tail.toList) :: raw.map deepen), ?_, ?_, fun after hafter => ?_⟩
  · intro line hline
    simp only [List.mem_cons, List.mem_append, List.mem_map] at hline
    rcases hline with rfl | ⟨item, hitem, rfl⟩ | rfl | hline
    · rw [String.append_assoc]
      exact hpadding.append (unbroken_open hhead)
    · exact ((hpadding.append (by decide)).append
        (hitems item hitem)).append (by decide)
    · rw [String.append_assoc]
      exact hpadding.append (unbroken_close htail)
    · exact hinner.unbroken line hline
  · have hfirst : (padding depth ++ head ++ "(").toList ≠ [] := by
      rw [String.toList_append]
      exact List.append_ne_nil_of_right_ne_nil _ (List.cons_ne_nil _ _)
    have hlast : (padding depth ++ ")" ++ tail).toList ≠ [] := by
      rw [String.append_assoc, String.toList_append, String.toList_append]
      exact List.append_ne_nil_of_right_ne_nil _ (List.cons_ne_nil _ _)
    rw [filled_cons hfirst, filled_append, filled_cons hlast, filled_items, hraw]
    simp only [String.toList_append, List.map_cons, List.map_append, List.append_assoc]
    rfl
  · intro line hline
    cases hline
    exact opening_open hopening
  · rw [List.cons_append, List.append_assoc, List.cons_append,
      readBlocks_items _ _ _ _ hafter, hread, joinItems_commas]
    simp only [List.singleton_append, List.cons.injEq, Block.mk.injEq, and_true]
    rw [← String.toList_inj]
    simp only [String.toList_ofList, String.toList_append, List.append_assoc]
    rfl

/-- **Both layouts of an argument list are read alike**, with what is indented below it. -/
theorem arguments (hopening : Opening head.toList) (hhead : Unbroken head)
    (hitems : ∀ item ∈ items, Unbroken item) (htail : Unbroken tail)
    (hinner : ReadsAs (depth + 1) inner blocks) :
    ReadsAs depth (argumentLines (padding depth) head items tail ++ inner)
      [{ text := head ++ "(" ++ ", ".intercalate items ++ ")" ++ tail, inner := blocks }] := by
  unfold argumentLines
  dsimp only
  split
  · exact sideBySide hopening hhead hitems htail hinner
  · simpa only [List.cons_append, List.append_assoc, List.nil_append] using
      oneBelowTheOther hopening hhead hitems htail hinner

end Arguments

end ReadsAs

/-! ## Texts -/

/-- Lines that are put together into a text are the lines of that text. -/
theorem splitWhere_textOfLines {lines : List String} (hne : lines ≠ [])
    (h : ∀ line ∈ lines, Unbroken line) :
    Text.splitWhere (· == '\n') (textOfLines lines).toList = lines.map String.toList ++ [[]] := by
  rw [toList_textOfLines hne]
  clear hne
  induction lines with
  | nil => rfl
  | cons line rest ih =>
    obtain ⟨hline, hrest⟩ := List.forall_mem_cons.mp h
    -- no line has a line end inside
    have hplain : ∀ c ∈ line.toList, (c == '\n') = false := by
      intro c hc
      rw [beq_eq_false_iff_ne]
      rintro rfl
      exact hline hc
    rw [List.flatMap_cons, List.append_assoc, List.singleton_append,
      Text.splitWhere_append_cons hplain rfl, ih hrest]
    rfl

/-- A text is read as its lines are. -/
theorem read_textOfLines {lines : List String} {blocks : List Block} (hne : lines ≠ [])
    (h : ReadsAs 0 lines blocks) : read (textOfLines lines) = blocks := by
  obtain ⟨hunbroken, raw, hraw, -, hread⟩ := h
  have halone := hread [] (fun line hline => by cases hline)
  rw [List.append_nil, readBlocks_nil, List.append_nil] at halone
  unfold read
  rw [splitWhere_textOfLines hne hunbroken, List.filter_append]
  have hlines : (lines.map String.toList).filter (!·.isEmpty) = raw := by
    rw [← filled, hraw]
    exact List.map_id raw
  rw [hlines, ← halone]
  congr 1
  exact List.append_nil raw

end Waymark.Layout

import Waymark.CommandLine.Screen
import Waymark.Proofs.Layout
import Waymark.Proofs.MarkupReading
import Waymark.Proofs.Names
import Waymark.Proofs.RootAccounting

/-! # The table of roots

    Labels stand in the first column of the table of roots. A label that was read has no markup in
    it, so it is shown as it is; a text that is no label is shown as markup has it.

    * The other cells of a row can always be shown (`exists_plain_moduleName`).
    * There is a table exactly if all texts that failed are well marked up
      (`exists_rootTable_iff`), and it shows how these and the labels are read
      (`showsColumn_rootTable`).
-/

namespace Waymark

/-! ## Labels -/

namespace Text

theorem mem_splitWhere {p : Char → Bool} {c : Char} {cs : List Char} (h : c ∈ cs) :
    p c = true ∨ ∃ part ∈ splitWhere p cs, c ∈ part := by
  induction cs with
  | nil => cases h
  | cons d rest ih =>
    obtain ⟨part, parts, hsplit⟩ := List.exists_cons_of_ne_nil (splitWhere_ne_nil p rest)
    rw [splitWhere, hsplit]
    -- the first character separates, or it is put in front of the first part
    by_cases hd : p d = true
    · simp only [hd, if_true]
      rcases List.mem_cons.mp h with rfl | hrest
      · exact .inl hd
      · refine (ih hrest).imp_right ?_
        rintro ⟨found, hfound, hc⟩
        exact ⟨found, List.mem_cons_of_mem _ (hsplit ▸ hfound), hc⟩
    · simp only [hd]
      rcases List.mem_cons.mp h with rfl | hrest
      · exact .inr ⟨c :: part, List.mem_cons_self, List.mem_cons_self⟩
      · refine (ih hrest).imp_right ?_
        rintro ⟨found, hfound, hc⟩
        rw [hsplit] at hfound
        rcases List.mem_cons.mp hfound with rfl | hlater
        · exact ⟨d :: found, List.mem_cons_self, List.mem_cons_of_mem _ hc⟩
        · exact ⟨found, List.mem_cons_of_mem _ hlater, hc⟩

/-- A dotted name has no character in it but dots and what identifiers have. -/
theorem not_mem_of_isDottedName {s : String} (h : isDottedName s = true) {c : Char}
    (hstart : isIdentifierStart c = false) (hpart : isIdentifierPart c = false) (hdot : c ≠ '.') :
    c ∉ s.toList := by
  intro hc
  rcases mem_splitWhere (p := (· == '.')) hc with hsep | ⟨part, hmem, hin⟩
  · exact hdot (by simpa using hsep)
  · have hall := List.all_eq_true.mp h (String.ofList part) (List.mem_map_of_mem hmem)
    exact not_mem_of_isIdentifier hall hstart hpart (by simpa using hin)

end Text

namespace RootLabel

variable {given : String} {r : RootLabel}

theorem named_of_parse? (h : parse? given = some r) :
    Text.isDottedName r.module = true ∧ Text.isIdentifier r.name = true := by
  unfold parse? at h
  obtain ⟨⟨before, after⟩, -, hread⟩ := Option.bind_eq_some_iff.mp h
  rw [Option.ite_none_right_eq_some] at hread
  obtain ⟨hnamed, hread⟩ := hread
  obtain rfl := Option.some.inj hread
  simpa using hnamed

/-- The characters of a label that was read. -/
theorem not_mem_text (h : parse? given = some r) {c : Char}
    (hstart : Text.isIdentifierStart c = false) (hpart : Text.isIdentifierPart c = false)
    (hdot : c ≠ '.') (hcolon : c ≠ ':') : c ∉ r.text.toList := by
  obtain ⟨hmodule, hname⟩ := named_of_parse? h
  have hfirst := Text.not_mem_of_isDottedName hmodule hstart hpart hdot
  have hsecond := Text.not_mem_of_isIdentifier hname hstart hpart
  simp [text, hfirst, hsecond, hcolon]

/-- **A label that was read is shown as it is.** -/
theorem unmarked_text (h : parse? given = some r) : Display.Unmarked r.text.toList := by
  obtain ⟨hmodule, hname⟩ := named_of_parse? h
  apply Display.unmarked_of_not_mem (not_mem_text h rfl rfl (by decide) (by decide))
  · -- the colon is the only one
    have hfirst : ':' ∉ r.module.toList :=
      Text.not_mem_of_isDottedName hmodule rfl rfl (by decide)
    have hsecond : ':' ∉ r.name.toList := Text.not_mem_of_isIdentifier hname rfl rfl
    apply Display.emojiFree_of_count_le
    simp [text, List.count_eq_zero_of_not_mem hfirst, List.count_eq_zero_of_not_mem hsecond]
  · intro c hc
    by_contra hdropped
    rw [Bool.not_eq_false] at hdropped
    have hcode : c.toNat ∈ [7, 8, 11, 12, 13] := by simpa [Display.isDropped] using hdropped
    have hother : ∀ code ∈ [7, 8, 11, 12, 13], Text.isIdentifierStartCode code = false ∧
        Text.isIdentifierPartCode code = false ∧ code ≠ '.'.toNat ∧ code ≠ ':'.toNat := by decide
    obtain ⟨hstart, hpart, hdot, hcolon⟩ := hother _ hcode
    exact not_mem_text h hstart hpart (fun heq => hdot (heq ▸ rfl)) (fun heq => hcolon (heq ▸ rfl)) hc

end RootLabel

/-! ## The other cells -/

namespace Text

/-- No capital is a bracket in lower case. -/
theorem lowerCode_ne {code : Nat} (h : code ≠ 91) : lowerCode code ≠ 91 := by
  -- each run of the table ends up behind the bracket
  have hruns : ∀ run ∈ lowerRuns, (91 : Int) < (run.1 : Int) + run.2.2.2 := by decide +kernel
  unfold lowerCode
  split
  · split
    · next hcapital =>
      simp only [Bool.and_eq_true, decide_eq_true_eq] at hcapital
      omega
    · exact h
  · split
    · next first last step distance hfound =>
      have hrange := List.find?_some hfound
      have hfirst := hruns _ (List.mem_of_find?_eq_some hfound)
      simp only [Bool.and_eq_true, decide_eq_true_eq] at hrange hfirst
      omega
    · exact h

theorem not_mem_lowerFrom {codes : List Nat} (before : List Nat) (h : 91 ∉ codes) :
    91 ∉ lowerFrom before codes := by
  induction codes generalizing before with
  | nil => exact h
  | cons code rest ih =>
    obtain ⟨hcode, hrest⟩ := List.ne_and_not_mem_of_not_mem_cons h
    have hsmall := lowerCode_ne fun heq => hcode heq.symm
    rw [lowerFrom]
    simp only [List.mem_append, not_or]
    refine ⟨?_, ih _ hrest⟩
    -- one character is spelled out, another depends on those around it
    split
    · decide
    · split
      · split <;> decide
      · simpa using hsmall.symm

theorem bracket_not_mem_lower {s : String} (h : '[' ∉ s.toList) : '[' ∉ (lower s).toList := by
  have hcodes : 91 ∉ s.toList.map Char.toNat := by
    intro hmem
    obtain ⟨c, hc, hcode⟩ := List.mem_map.mp hmem
    obtain rfl : c = '[' := Char.toNat_inj.mp hcode
    exact h hc
  unfold lower
  rw [String.toList_ofList]
  intro hmem
  obtain ⟨code, hcode, hchar⟩ := List.mem_map.mp hmem
  obtain rfl : code = 91 := by
    have heq := congrArg Char.toNat hchar
    rw [Char.toNat_ofNat] at heq
    split at heq
    · exact heq
    · cases heq
  exact not_mem_lowerFrom [] hcodes hcode

end Text

namespace CommandLine

theorem bracket_not_mem_underscore {cs : List Char} (h : '[' ∉ cs) :
    '[' ∉ Client.underscore cs := by
  have hfrom : ∀ (before : Char) (cs : List Char), '[' ∉ cs →
      '[' ∉ Client.underscoreFrom before cs := by
    intro before cs
    induction cs generalizing before with
    | nil => exact id
    | cons c rest ih =>
      intro hmem
      obtain ⟨hc, hrest⟩ := List.ne_and_not_mem_of_not_mem_cons hmem
      rw [Client.underscoreFrom]
      split <;> simp [hc, ih c hrest]
  cases cs with
  | nil => exact h
  | cons c rest =>
    obtain ⟨hc, hrest⟩ := List.ne_and_not_mem_of_not_mem_cons h
    exact List.not_mem_cons_of_ne_of_not_mem hc (hfrom c rest hrest)

/-- The name of a module can be shown if that of its root has no bracket in it. -/
theorem exists_plain_moduleName {name : String} (h : '[' ∉ name.toList) :
    ∃ text, Display.plain (Client.moduleName name) = .ok text := by
  apply Display.exists_plain_of_not_mem
  have hlower : '[' ∉ (Text.lower (String.ofList (Client.underscore name.toList))).toList :=
    Text.bracket_not_mem_lower (by simpa using bracket_not_mem_underscore h)
  simp [Client.moduleName, Client.moduleSuffix, hlower]

theorem bracket_not_mem_toString (n : Nat) : '[' ∉ (toString n).toList := by
  rw [Nat.toString_eq_ofList_toDigits, String.toList_ofList]
  intro hmem
  exact absurd (Nat.isDigit_of_mem_toDigits (by decide) (Nat.le_refl 10) hmem) (by decide)

theorem exists_plain_toString (n : Nat) : ∃ text, Display.plain (toString n) = .ok text :=
  Display.exists_plain_of_not_mem (bracket_not_mem_toString n)

theorem plain_checked : Display.plain "checked" = .ok "checked".toList :=
  Display.plain_of_unmarked (by decide)

theorem plain_dash : Display.plain "-" = .ok ['-'] :=
  Display.plain_of_unmarked (s := "-") (by decide)

/-! ## Styles -/

/-- The styles of what a `check` shows by itself. -/
def shownStyles : List String :=
  ["red", "yellow", "bold", "bold green"]

/-- They are their own normal forms, and can be looked up. -/
theorem compared_of_mem_shownStyles : ∀ style ∈ shownStyles,
    Display.comparedName style.toList = .ok style ∧
      (Display.lookUp style.toList).isOk = true := by
  decide +kernel

theorem isStyle_of_mem {style : String} (h : style ∈ shownStyles) :
    Display.IsStyle style.toList style := by
  have hname : ∀ style ∈ shownStyles, Display.IsTag style.toList ∧ '=' ∉ style.toList ∧
      style.toList.head? ≠ some '/' ∧ style.toList.head? ≠ some '@' := by
    decide
  obtain ⟨htag, hequals, hopens, haction⟩ := hname style h
  obtain ⟨hcompared, hfound⟩ := compared_of_mem_shownStyles style h
  refine ⟨htag, hequals, hopens, hcompared, haction, ?_⟩
  cases hlookUp : Display.lookUp style.toList with
  | ok found => exact ⟨found, rfl⟩
  | error fault => simp [hlookUp, Except.isOk, Except.toBool] at hfound

theorem plain_failed : Display.plain "[red]failed[/red]" = .ok "failed".toList := by
  have hstyle : Display.IsStyle "red".toList "red" := isStyle_of_mem (by decide)
  have htext : "[red]failed[/red]" = Display.coloured [] "red".toList [] "failed" := by
    decide
  rw [htext]
  exact Display.plain_coloured (by decide) (by decide) hstyle (by decide) (by decide)

/-! ## Rows -/

open Generation (Checked)

open Client (ClientModule)
open Display (Table SpacesOnly)
open Files (Path Workspace)

variable {w : Workspace} {search : List Path} {transport : String} {texts : List String}
  {g : Generation} {width : Nat}

/-- The row of an output can be shown, and its label stands for itself. -/
theorem exists_plain_outputRow (h : Checked w search transport texts g) (hout : g.out = none)
    {m : ClientModule} (hm : m ∈ g.outputs) :
    ∃ module units operations, (outputRow g m).mapM Display.plain
      = .ok [(RootLabel.ofModule m).toList, module, units, operations, "checked".toList] := by
  obtain ⟨label, hlabel, htext⟩ :=
    List.mem_map.mp (h.ofModule_sublist.subset (List.mem_map_of_mem hm))
  rw [h.roots] at hlabel
  obtain ⟨given, -, hread⟩ := Gathering.mem_labelsOf_iff.mp hlabel
  have hlabelText : Display.plain (m.module ++ ":" ++ m.root)
      = .ok (RootLabel.ofModule m).toList := by
    have hunmarked := RootLabel.unmarked_text hread
    rw [htext] at hunmarked
    exact Display.plain_of_unmarked hunmarked
  -- the module is called after its root, so a root without brackets makes a name without brackets
  have hname : m.moduleName = Client.moduleName m.root := by
    obtain ⟨client, -, hgenerate⟩ := exists_left_of_forall₂ h.outputs hm
    obtain ⟨-, hroot, hfile⟩ := Client.filename_of_generate hgenerate
    rw [hroot]
    exact String.append_left_inj ".py" |>.mp hfile
  have hroot : '[' ∉ m.root.toList := by
    have hlabelBracket := RootLabel.not_mem_text hread (c := '[') rfl rfl (by decide) (by decide)
    rw [htext] at hlabelBracket
    intro hmem
    exact hlabelBracket (by simp [RootLabel.ofModule, hmem])
  have hstatus : status g m = "checked" := by
    unfold status
    rw [hout]
    rfl
  obtain ⟨module, hmodule⟩ := exists_plain_moduleName hroot
  obtain ⟨units, hunits⟩ := exists_plain_toString m.unitCount
  obtain ⟨operations, hoperations⟩ := exists_plain_toString m.operationCount
  refine ⟨module, units, operations, mapM_of_forall₂ _ ?_⟩
  rw [← hname] at hmodule
  unfold outputRow
  rw [hstatus]
  exact .cons hlabelText (.cons hmodule (.cons hunits (.cons hoperations (.cons plain_checked .nil))))

/-- The row of a failure can be shown if its text can. -/
theorem plain_failedRow {label : String} {text : List Char} (h : Display.plain label = .ok text) :
    (failedRow label).mapM Display.plain
      = .ok [text, ['-'], ['-'], ['-'], "failed".toList] :=
  mapM_of_forall₂ _
    (.cons h (.cons plain_dash (.cons plain_dash (.cons plain_dash (.cons plain_failed .nil)))))

/-- What is in the rows of the table, where some texts stand in the first column. -/
def RowOf (text : List Char) (row : List (List Char)) : Prop :=
  ∃ module units operations status,
    row = [text, module, units, operations, status] ∧ Table.textWidth status ≤ "checked".length

/-- The rows of the table. -/
def rootRows (g : Generation) : List (List String) :=
  g.outputs.map (outputRow g) ++ g.failed.map failedRow

/-- The rows can be shown exactly if the texts that failed can, and the labels of the outputs stand
    for themselves. -/
theorem exists_rootRows (h : Checked w search transport texts g) (hout : g.out = none)
    {reads : List (List Char)} (hreads : g.failed.mapM Display.plain = .ok reads) :
    ∃ rows, (rootRows g).mapM (fun row => row.mapM Display.plain) = .ok rows ∧
      List.Forall₂ RowOf (g.outputs.map (fun m => (RootLabel.ofModule m).toList) ++ reads) rows := by
  have houtputs : ∀ m ∈ g.outputs, ∃ row, (outputRow g m).mapM Display.plain = .ok row ∧
      RowOf (RootLabel.ofModule m).toList row := by
    intro m hm
    obtain ⟨module, units, operations, hrow⟩ := exists_plain_outputRow h hout hm
    exact ⟨_, hrow, module, units, operations, _, rfl, by decide⟩
  obtain ⟨firstRows, hfirst⟩ := exists_forall₂ houtputs
  -- the rows of the texts that failed have the text and dashes
  have hlater := forall₂_of_mapM hreads
  refine ⟨firstRows ++ reads.map fun text => [text, ['-'], ['-'], ['-'], "failed".toList],
    mapM_of_forall₂ _ (List.rel_append ?_ ?_), List.rel_append ?_ ?_⟩
  · exact List.forall₂_map_left_iff.mpr (hfirst.imp fun _ _ hrow => hrow.1)
  · rw [List.forall₂_map_left_iff, List.forall₂_map_right_iff]
    exact hlater.imp fun _ _ htext => plain_failedRow htext
  · exact List.forall₂_map_left_iff.mpr (hfirst.imp fun _ _ hrow => hrow.2)
  · rw [List.forall₂_map_right_iff]
    exact List.forall₂_same.mpr fun text _ => ⟨_, _, _, _, rfl, by decide⟩

/-! ## The table -/

/-- **There is a table exactly if the texts that failed are well marked up.** -/
theorem exists_rootTable_iff (h : Checked w search transport texts g) (hout : g.out = none) :
    (∃ lines, rootTable width g = .ok lines) ↔
      ∀ text ∈ g.failed, ∃ read, Display.plain text = .ok read := by
  -- only reading the cells can fail
  have htable : (∃ lines, rootTable width g = .ok lines) ↔
      ∃ rows, (rootRows g).mapM (fun row => row.mapM Display.plain) = .ok rows := by
    unfold rootTable
    change (∃ lines, ((rootRows g).mapM fun row => row.mapM Display.plain) >>= _ = .ok lines) ↔ _
    cases (rootRows g).mapM fun row => row.mapM Display.plain with
    | error fault => simp [bind, Except.bind]
    | ok rows => simp [bind, Except.bind, pure, Except.pure]
  rw [htable]
  constructor
  · rw [exists_mapM_iff]
    intro hrows text htext
    obtain ⟨row, hrow⟩ := hrows (failedRow text)
      (List.mem_append_right _ (List.mem_map_of_mem htext))
    exact exists_mapM_iff.mp ⟨row, hrow⟩ text List.mem_cons_self
  · intro hreads
    obtain ⟨reads, hreads⟩ := exists_mapM_iff.mpr hreads
    obtain ⟨rows, hrows, -⟩ := exists_rootRows h hout hreads
    exact ⟨rows, hrows⟩

/-- What the borders leave of the screen. -/
def tableRoom (width : Nat) : Nat :=
  width - (rootColumns.length + 1)

/-- The room for labels: what is left by the column of the results and the spaces beside a
    label. -/
def labelRoom (width : Nat) : Nat :=
  tableRoom width - ("checked".length + Table.padding) - Table.padding

/-- A text fits into the column of labels. -/
structure FitsLabel (width : Nat) (text : List Char) : Prop where
  spaces : SpacesOnly text
  room : Display.width text ≤ labelRoom width

instance (width : Nat) (text : List Char) : Decidable (FitsLabel width text) :=
  decidable_of_iff (SpacesOnly text ∧ Display.width text ≤ labelRoom width)
    ⟨fun h => ⟨h.1, h.2⟩, fun h => ⟨h.spaces, h.room⟩⟩

/-- Some texts fit into the column of labels, and so does its title. -/
structure FitsColumn (width : Nat) (shown : List (List Char)) : Prop where
  title : "ROOT".length ≤ labelRoom width
  each : ∀ text ∈ shown, FitsLabel width text

instance (width : Nat) (shown : List (List Char)) : Decidable (FitsColumn width shown) :=
  decidable_of_iff ("ROOT".length ≤ labelRoom width ∧ ∀ text ∈ shown, FitsLabel width text)
    ⟨fun h => ⟨h.1, h.2⟩, fun h => ⟨h.title, h.each⟩⟩

/-- The cells of a column with its title first. -/
def columnCells (rows : List (List (List Char))) (title : String) (i : Nat) : List (List Char) :=
  title.toList :: rows.filterMap fun row => row[i]?

section

variable {shown : List (List Char)} {rows : List (List (List Char))}

theorem widest_labels_le (hshapes : List.Forall₂ RowOf shown rows)
    (hfit : FitsColumn width shown) :
    Table.widest (columnCells rows "ROOT" 0) ≤ labelRoom width := by
  apply Table.widest_le
  rintro cell (_ | ⟨_, hcell⟩)
  · exact hfit.title
  · obtain ⟨row, hrow, hfirst⟩ := List.mem_filterMap.mp hcell
    obtain ⟨text, htext, module, units, operations, status, rfl, -⟩ :=
      exists_left_of_forall₂ hshapes hrow
    obtain rfl : text = cell := Option.some.inj hfirst
    rw [Table.textWidth_of_spacesOnly (hfit.each text htext).spaces]
    exact (hfit.each text htext).room

theorem widest_results_le (hshapes : List.Forall₂ RowOf shown rows) :
    Table.widest (columnCells rows "STATUS" 4) ≤ "checked".length := by
  apply Table.widest_le
  rintro cell (_ | ⟨_, hcell⟩)
  · decide
  · obtain ⟨row, hrow, hlast⟩ := List.mem_filterMap.mp hcell
    obtain ⟨text, -, module, units, operations, status, rfl, hstatus⟩ :=
      exists_left_of_forall₂ hshapes hrow
    exact Option.some.inj hlast ▸ hstatus

/-- The columns of the labels and of the results fit on the screen side by side, if there is
    any room for labels. -/
theorem labelRoom_add (h : 0 < labelRoom width) :
    labelRoom width + Table.padding + ("checked".length + Table.padding) = tableRoom width := by
  unfold labelRoom at h ⊢
  omega

/-- There is room for the title of the labels. -/
theorem labelRoom_pos (hroom : Table.widest (columnCells rows "ROOT" 0) ≤ labelRoom width) :
    0 < labelRoom width := by
  have htitle : Table.textWidth "ROOT".toList ≤ Table.widest (columnCells rows "ROOT" 0) :=
    Table.textWidth_le_widest List.mem_cons_self
  have hfour : Table.textWidth "ROOT".toList = 4 := by decide
  omega

/-- The first column and the last one ask for what their cells take. -/
theorem wantedWidths_rootTable (hroom : Table.widest (columnCells rows "ROOT" 0) ≤ labelRoom width)
    (hresults : Table.widest (columnCells rows "STATUS" 4) ≤ "checked".length) :
    Table.wantedWidths { columns := rootColumns, rows } width
      = [Table.widest (columnCells rows "ROOT" 0) + Table.padding,
        Table.wanted (tableRoom width) (columnCells rows "MODULE" 1),
        Table.wanted (tableRoom width) (columnCells rows "UNITS" 2),
        Table.wanted (tableRoom width) (columnCells rows "OPS" 3),
        Table.widest (columnCells rows "STATUS" 4) + Table.padding] := by
  have hbound := labelRoom_add (labelRoom_pos hroom)
  have hfirst : Table.wanted (tableRoom width) (columnCells rows "ROOT" 0)
      = Table.widest (columnCells rows "ROOT" 0) + Table.padding := by
    rw [Table.wanted_eq]
    omega
  have hlast : Table.wanted (tableRoom width) (columnCells rows "STATUS" 4)
      = Table.widest (columnCells rows "STATUS" 4) + Table.padding := by
    rw [Table.wanted_eq]
    omega
  rw [← hfirst, ← hlast]
  rfl

theorem keepsFixed_rootTable (hroom : Table.widest (columnCells rows "ROOT" 0) ≤ labelRoom width)
    (hresults : Table.widest (columnCells rows "STATUS" 4) ≤ "checked".length) :
    Table.KeepsFixed (rootColumns.map Display.Column.breaks)
      (Table.wantedWidths { columns := rootColumns, rows } width)
      (Table.columnWidths { columns := rootColumns, rows } width) := by
  refine @Table.keepsFixed_columnWidths { columns := rootColumns, rows } width ?_
  rw [wantedWidths_rootTable hroom hresults]
  have hbound := labelRoom_add (labelRoom_pos hroom)
  -- only the first and the last column count
  show Table.widest (columnCells rows "ROOT" 0) + Table.padding
    + (0 + (0 + (0 + (Table.widest (columnCells rows "STATUS" 4) + Table.padding + 0))))
      ≤ tableRoom width
  omega

/-- The first column is as wide as the widest text in it if all of them fit. -/
theorem columnWidths_rootTable (hshapes : List.Forall₂ RowOf shown rows)
    (hfit : FitsColumn width shown) :
    ∃ columns nextWidth moreWidths,
      Table.columnWidths { columns := rootColumns, rows } width
        = (columns + Table.padding) :: nextWidth :: moreWidths ∧
      columns ≠ 0 ∧ ∀ text ∈ shown, Display.width text ≤ columns := by
  have hroom := widest_labels_le hshapes hfit
  have hresults := widest_results_le hshapes
  -- the columns that may not be broken keep the width that they ask for
  have hkeeps := keepsFixed_rootTable hroom hresults
  have hlength := hkeeps.length
  have hwidth := hkeeps.same 0 rfl
  rw [wantedWidths_rootTable hroom hresults] at hlength hwidth
  obtain ⟨first, rest, hwidths⟩ := List.exists_cons_of_length_eq_add_one hlength
  rw [hwidths] at hlength hwidth
  obtain ⟨nextWidth, moreWidths, rfl⟩ :=
    List.exists_cons_of_length_eq_add_one (Nat.succ.inj hlength)
  obtain rfl := Option.some.inj hwidth
  refine ⟨_, nextWidth, moreWidths, hwidths, ?_, fun text htext => ?_⟩
  · have htitle : Table.textWidth "ROOT".toList ≤ Table.widest (columnCells rows "ROOT" 0) :=
      Table.textWidth_le_widest List.mem_cons_self
    have hfour : Table.textWidth "ROOT".toList = 4 := by decide
    omega
  · obtain ⟨row, hrow, module, units, operations, status, rfl, -⟩ :=
      exists_left_of_forall₂ hshapes.flip htext
    rw [← Table.textWidth_of_spacesOnly (hfit.each text htext).spaces]
    exact Table.textWidth_le_widest
      (List.mem_cons_of_mem _ (List.mem_filterMap.mpr ⟨_, hrow, rfl⟩))

end

/-- **The table shows the labels of the outputs, and what is read of the texts that failed.** -/
theorem showsColumn_rootTable (h : Checked w search transport texts g) (hout : g.out = none)
    {reads : List (List Char)} (hreads : g.failed.mapM Display.plain = .ok reads)
    (hfit : FitsColumn width (g.outputs.map (fun m => (RootLabel.ofModule m).toList) ++ reads)) :
    ∃ lines, rootTable width g = .ok lines ∧ Table.ShowsColumn
      (g.outputs.map (fun m => (RootLabel.ofModule m).toList) ++ reads)
      (lines.map String.toList) := by
  obtain ⟨rows, hrows, hshapes⟩ := exists_rootRows h hout hreads
  -- from here on only the shown texts and the shape of the rows matter
  generalize g.outputs.map (fun m => (RootLabel.ofModule m).toList) ++ reads = shown
    at hfit hshapes ⊢
  refine ⟨_, by unfold rootTable; exact congrArg (· >>= _) hrows, ?_⟩
  obtain ⟨columns, nextWidth, moreWidths, hwidths, hroom, htexts⟩ := columnWidths_rootTable hshapes hfit
  have hlines : ∀ lines : List (List Char), (lines.map String.ofList).map String.toList = lines := by
    intro lines
    simp
  rw [hlines]
  refine Table.showsColumn_lines rfl rfl rfl hwidths hroom (hshapes.imp ?_) fun text htext =>
    ⟨(hfit.each text htext).spaces, htexts text htext⟩
  rintro text row ⟨module, units, operations, status, rfl, -⟩
  exact ⟨module, _, rfl⟩

end CommandLine

end Waymark

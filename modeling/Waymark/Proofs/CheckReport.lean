import Waymark.CommandLine.Execution
import Waymark.Proofs.RootTable

/-! # What `check` reports

    The texts in the table of roots are markup, while diagnostics are escaped before they are
    shown. So `check` may break off at a text that is no label, and its diagnostics are lost.

    * A command line of `check` with some source roots and texts is read as that
      (`run_checkWords`).
    * Diagnostics can always be shown (`exists_diagnosticLines`), each on its own lines, as far as
      they fit (`diagnosticLines_of_fits`).
    * `check` ends as it should exactly if the texts that failed are well marked up
      (`ending_showCheck_iff`), and then shows what is read of them (`shows_of_fits`). This is the
      texts themselves if there is nothing in them that stands for something else
      (`shows_verbatim`).

    The main result is `check_reports`.
-/

namespace Waymark.CommandLine

open Display (Table Unmarked Escapable SpacesOnly Fits)
open Files (Path Tree Workspace)

/-! ## The command line -/

/-- The words of a `check`. -/
def checkWords (roots sources : List String) : List String :=
  "check" :: ((sources.flatMap fun s => ["--src", s]) ++ roots)

theorem ofText_of_head?_ne {known : List OptionNames} {s : String}
    (h : s.toList.head? ≠ some '-') : Word.ofText known s = .operand := by
  unfold Word.ofText
  split
  · next heq => simp [heq] at h
  · next heq => simp [heq] at h
  · rfl

theorem ofWords?_operands {known : List OptionNames} {words : List String}
    (h : ∀ word ∈ words, word.toList.head? ≠ some '-') :
    Sorted.ofWords? known false words = some { operands := words } := by
  induction words with
  | nil => rfl
  | cons word rest ih =>
    rw [Sorted.ofWords?, ofText_of_head?_ne (h word List.mem_cons_self)]
    simp only [Bool.false_eq_true, if_false]
    rw [ih fun other hother => h other (List.mem_cons_of_mem _ hother)]
    rfl

theorem ofText_source : Word.ofText [Command.sourceOption] "--src"
    = .option Command.sourceOption none := by
  decide

/-- Source roots are read as such. -/
theorem ofWords?_sources {roots : List String} (sources : List String)
    (h : ∀ root ∈ roots, root.toList.head? ≠ some '-') :
    Sorted.ofWords? [Command.sourceOption] false
        ((sources.flatMap fun s => ["--src", s]) ++ roots)
      = some { values := sources.map fun s => (Command.sourceOption.key, s), operands := roots } := by
  induction sources with
  | nil => exact ofWords?_operands h
  | cons source rest ih =>
    show Sorted.ofWords? [Command.sourceOption] false
      ("--src" :: source :: ((rest.flatMap fun s => ["--src", s]) ++ roots)) = _
    rw [Sorted.ofWords?, ofText_source]
    simp only
    rw [ih]
    rfl

/-- The words of a `check` are read as that. -/
theorem run_checkWords {w : Workspace} {settings : Settings} {level : LogLevel}
    {roots : List String} (sources : List String) (hroots : roots ≠ [])
    (hoperands : ∀ root ∈ roots, root.toList.head? ≠ some '-')
    (hlevel : LogLevel.ofWord settings.logLevel = .ok level) :
    runWords w settings (checkWords roots sources)
      = match check w settings roots sources with
        | .error ending => { files := w.files, ending }
        | .ok effect => effect := by
  -- the words are sorted once for the program and once for the command
  have hinvocation : Invocation.ofWords? (checkWords roots sources)
      = some { level := none, read := Command.check?,
               words := (sources.flatMap fun s => ["--src", s]) ++ roots } := by
    unfold Invocation.ofWords? checkWords
    rw [Sorted.ofWords?, ofText_of_head?_ne (by decide)]
    rfl
  have hcommand : Command.check? ((sources.flatMap fun s => ["--src", s]) ++ roots)
      = some (.check roots sources) := by
    unfold Command.check?
    rw [ofWords?_sources sources hoperands]
    have hsources : (sources.map fun s => (Command.sourceOption.key, s)).filter
        (fun v => v.1 == Command.sourceOption.key)
          = sources.map fun s => (Command.sourceOption.key, s) := by
      simp
    simp [hroots, Sorted.all, hsources]
  have hchosen : chosenLevel settings none = .ok level := hlevel
  unfold runWords
  rw [hinvocation]
  simp only [hchosen, hcommand]
  rfl

/-! ## Diagnostics -/

/-- A diagnostic stands between tags for its colour. -/
theorem diagnosticText_eq (d : Diagnostic) :
    diagnosticText d = Display.coloured [' ', ' '] (colour d).toList [] d.render := by
  apply String.toList_inj.mp
  simp [diagnosticText, Display.coloured]

theorem isStyle_colour (d : Diagnostic) : Display.IsStyle (colour d).toList (colour d) := by
  apply isStyle_of_mem
  unfold colour
  split <;> decide

/-- **A diagnostic can always be shown.** -/
theorem exists_plain_diagnosticText (d : Diagnostic) :
    ∃ text, Display.plain (diagnosticText d) = .ok text := by
  rw [diagnosticText_eq]
  exact Display.exists_plain_coloured (by decide) (by decide) (isStyle_colour d) (by decide)
    d.render

/-- It is shown as it is if it stands for itself when it is escaped. -/
theorem plain_diagnosticText {d : Diagnostic} (h : Escapable d.render.toList) :
    Display.plain (diagnosticText d) = .ok (' ' :: ' ' :: d.render.toList) := by
  rw [diagnosticText_eq]
  exact Display.plain_coloured (by decide) (by decide) (isStyle_colour d)
    (Display.unmarked_of_not_mem (by decide) (Display.emojiFree_of_not_mem (by decide))
      (by simp [Display.isDropped])) h

/-- The lines of a text fit on the screen, with spaces in the place of tabs. -/
def FitsScreen (width : Nat) (text : List Char) : Prop :=
  ∀ line ∈ Text.splitWhere (· == '\n') text, Fits width (Display.expandTabs 0 line)

/-- The lines of a text as they are. -/
def screenLines (text : List Char) : List String :=
  ((Text.splitWhere (· == '\n') text).map (Display.expandTabs 0)).map String.ofList

theorem shownLines_of_fits {width : Nat} {s : String} {text : List Char}
    (h : Display.plain s = .ok text) (hfit : FitsScreen width text) :
    shownLines width s = .ok (screenLines text) := by
  unfold shownLines screenLines
  rw [h, ← Display.fit_of_fits hfit]
  rfl

theorem exists_shownLines (width : Nat) {s : String} (h : ∃ text, Display.plain s = .ok text) :
    ∃ lines, shownLines width s = .ok lines := by
  obtain ⟨text, htext⟩ := h
  unfold shownLines
  rw [htext]
  exact ⟨_, rfl⟩

/-- The title of some diagnostics. -/
def diagnosticsTitle (ds : List Diagnostic) : String :=
  "[bold]Diagnostics:[/bold] " ++ toString ds.length

theorem exists_diagnosticsTitle (width : Nat) (ds : List Diagnostic) :
    ∃ lines, shownLines width (diagnosticsTitle ds) = .ok lines := by
  -- the number behind the word has no brackets
  have hafter : '[' ∉ ' ' :: (toString ds.length).toList :=
    List.not_mem_cons_of_ne_of_not_mem (by decide) (bracket_not_mem_toString ds.length)
  have hword : Display.escape "Diagnostics:" = "Diagnostics:" := by decide
  have htitle : diagnosticsTitle ds = Display.coloured [] "bold".toList
      (' ' :: (toString ds.length).toList) "Diagnostics:" := by
    have hfront : "[bold]Diagnostics:[/bold] ".toList = '[' :: ("bold".toList
        ++ ']' :: ("Diagnostics:".toList ++ '[' :: ('/' :: "bold".toList ++ [']', ' ']))) := by
      decide
    unfold diagnosticsTitle Display.coloured
    apply String.toList_inj.mp
    rw [hword, String.toList_ofList, String.toList_append, hfront]
    simp only [List.cons_append, List.append_assoc, List.nil_append]
  rw [htitle]
  exact exists_shownLines width
    (Display.exists_plain_coloured (by decide) (by decide) (isStyle_of_mem (by decide)) hafter _)

/-- The headline of a `check`. -/
def checkHeadline (g : Generation) : String :=
  "[bold green]shapi[/bold green] " ++ ("check: " ++ toString g.roots.length ++ " root(s)")

theorem exists_checkHeadline (width : Nat) (g : Generation) :
    ∃ lines, shownLines width (checkHeadline g) = .ok lines := by
  have hafter : '[' ∉ " check: ".toList ++ (toString g.roots.length).toList
      ++ " root(s)".toList := by
    have hfirst : '[' ∉ " check: ".toList := by decide
    have hlast : '[' ∉ " root(s)".toList := by decide
    simp only [List.mem_append, hfirst, hlast, bracket_not_mem_toString, or_self, not_false_eq_true]
  have hword : Display.escape "shapi" = "shapi" := by decide
  -- the headline is a coloured word and text without brackets, which always reads
  have hheadline : checkHeadline g = Display.coloured [] "bold green".toList
      (" check: ".toList ++ (toString g.roots.length).toList ++ " root(s)".toList) "shapi" := by
    have hfront : "[bold green]shapi[/bold green] ".toList ++ "check: ".toList
        = '[' :: ("bold green".toList ++ ']' :: ("shapi".toList
          ++ '[' :: ('/' :: "bold green".toList ++ ']' :: " check: ".toList))) := by
      decide
    unfold checkHeadline Display.coloured
    apply String.toList_inj.mp
    rw [hword, String.toList_ofList, String.toList_append, String.toList_append,
      String.toList_append, ← List.append_assoc, ← List.append_assoc, hfront]
    simp only [List.cons_append, List.append_assoc, List.nil_append]
  rw [hheadline]
  exact exists_shownLines width
    (Display.exists_plain_coloured (by decide) (by decide) (isStyle_of_mem (by decide)) hafter _)

/-- The lines on the error output: a title, and behind it the given lines. -/
def ReportLines (width : Nat) (ds : List Diagnostic) (lines errors : List String) : Prop :=
  if ds = [] then errors = []
  else ∃ title, shownLines width (diagnosticsTitle ds) = .ok title ∧ errors = "" :: title ++ lines

/-- Diagnostics can always be shown together. -/
theorem exists_diagnosticLines (width : Nat) (ds : List Diagnostic) :
    ∃ errors, diagnosticLines width ds = .ok errors := by
  obtain ⟨title, htitle⟩ := exists_diagnosticsTitle width ds
  obtain ⟨lines, hlines⟩ := exists_mapM_iff.mpr fun d (_ : d ∈ ds) =>
    exists_shownLines width (exists_plain_diagnosticText d)
  unfold diagnosticsTitle at htitle
  unfold diagnosticLines
  rw [htitle, hlines]
  cases ds <;> exact ⟨_, rfl⟩

/-- **Each diagnostic is shown as it is read**, in order, if all of them fit. -/
theorem diagnosticLines_of_fits {width : Nat} {ds : List Diagnostic}
    {reports : List (List Char)}
    (hreports : ds.mapM (fun d => Display.plain (diagnosticText d)) = .ok reports)
    (hfit : ∀ report ∈ reports, FitsScreen width report) :
    ∃ errors, diagnosticLines width ds = .ok errors ∧
      ReportLines width ds (reports.flatMap screenLines) errors := by
  obtain ⟨title, htitle⟩ := exists_diagnosticsTitle width ds
  -- each report fits, so its lines are those of its text
  have hlines : ds.mapM (fun d => shownLines width (diagnosticText d))
      = .ok (reports.map screenLines) := by
    apply mapM_of_forall₂
    rw [List.forall₂_map_right_iff]
    apply forall₂_imp_of_mem (forall₂_of_mapM hreports)
    exact fun d _ report hreport hread => shownLines_of_fits hread (hfit report hreport)
  have htitle' := htitle
  unfold diagnosticsTitle at htitle
  unfold diagnosticLines ReportLines
  rw [htitle, hlines]
  cases ds with
  | nil => exact ⟨_, rfl, rfl⟩
  | cons d ds => exact ⟨_, rfl, title, htitle', rfl⟩

/-! ## What is shown of a result -/

open Generation (Checked)
open Gathering (labelsOf invalidTexts)

variable {w : Workspace} {settings : Settings} {search : List Path} {transport : String}
  {texts : List String} {g : Generation} {files : Tree} {width : Nat}

/-- The labels of the outputs of a result. -/
def outputLabels (g : Generation) : List (List Char) :=
  g.outputs.map fun m => (RootLabel.ofModule m).toList

/-- What is shown of the result of a `check`: the headline and the table on the output, with some
    texts in the first column, and some lines on the error output, on a screen of some width. The
    lines of the log are apart. -/
structure Shows (width : Nat) (g : Generation) (labels : List (List Char)) (lines : List String)
    (e : Effect) : Prop where
  ending : e.ending = .done g.isOk
  output : ∃ headline table, shownLines width (checkHeadline g) = .ok headline ∧
    e.output = headline ++ table ∧ Table.ShowsColumn labels (table.map String.toList)
  errors : ReportLines width g.diagnostics lines e.errors

/-- Shows the result of a `check`. -/
def showCheck (width : Nat) (files : Tree) (g : Generation) : Effect :=
  showGeneration width files ("check: " ++ toString g.roots.length ++ " root(s)") g

/-- A `check` with a result shows that. -/
theorem runWords_check {level : LogLevel} {roots sources : List String} (hroots : roots ≠ [])
    (hoperands : ∀ root ∈ roots, root.toList.head? ≠ some '-')
    (hlevel : LogLevel.ofWord settings.logLevel = .ok level)
    (hsources : sourcePaths w settings sources = .ok search)
    (hrun : Generation.run w settings { roots, search := some search, writes := false }
      = (.ok g, files)) :
    runWords w settings (checkWords roots sources) = showCheck w.width files g := by
  rw [run_checkWords sources hroots hoperands hlevel]
  unfold check
  simp only [hsources, hrun, bind, Except.bind, pure, Except.pure]
  rfl

/-- All of it is shown if there is a table. -/
theorem exists_showCheck (files : Tree) {table : List String}
    (htable : rootTable width g = .ok table) :
    ∃ headline errors, shownLines width (checkHeadline g) = .ok headline ∧
      diagnosticLines width g.diagnostics = .ok errors ∧
      showCheck width files g
        = { files, output := headline ++ table, errors, ending := .done g.isOk } := by
  obtain ⟨headline, hheadline⟩ := exists_checkHeadline width g
  obtain ⟨errors, herrors⟩ := exists_diagnosticLines width g.diagnostics
  refine ⟨headline, errors, hheadline, herrors, ?_⟩
  unfold checkHeadline at hheadline
  unfold showCheck showGeneration Effect.report
  simp only [hheadline, htable, herrors, Effect.showing, Effect.print, List.nil_append]
  rfl

/-- Otherwise the `check` breaks off behind the headline. -/
theorem showCheck_broken (files : Tree) {fault : Display.MarkupFault}
    (htable : rootTable width g = .error fault) :
    (showCheck width files g).ending = .broken (.markup fault) ∧
      (showCheck width files g).errors = [] := by
  obtain ⟨headline, hheadline⟩ := exists_checkHeadline width g
  unfold checkHeadline at hheadline
  unfold showCheck showGeneration
  simp only [hheadline, htable, Effect.showing, Effect.print, and_self]

/-- **A `check` ends as it should exactly if the texts that failed are well marked up.** -/
theorem ending_showCheck_iff (h : Checked w search transport texts g) (hout : g.out = none) :
    (showCheck width files g).ending = .done g.isOk ↔
      ∀ text ∈ g.failed, ∃ read, Display.plain text = .ok read := by
  rw [← @exists_rootTable_iff w search transport texts g width h hout]
  constructor
  · intro hending
    cases htable : rootTable width g with
    | ok table => exact ⟨table, rfl⟩
    | error fault => cases (showCheck_broken files htable).1.symm.trans hending
  · rintro ⟨table, htable⟩
    obtain ⟨headline, errors, -, -, heq⟩ := exists_showCheck files htable
    rw [heq]

theorem showCheck_of_ending_ne (hending : (showCheck width files g).ending ≠ .done g.isOk) :
    (∃ fault, (showCheck width files g).ending = .broken (.markup fault)) ∧
      (showCheck width files g).errors = [] := by
  cases htable : rootTable width g with
  | ok table =>
    obtain ⟨headline, errors, -, -, heq⟩ := exists_showCheck files htable
    exact absurd (congrArg Effect.ending heq) hending
  | error fault =>
    obtain ⟨hbroken, herrors⟩ := showCheck_broken files htable
    exact ⟨⟨fault, hbroken⟩, herrors⟩

/-- A result is shown as it is read, as far as all of it fits. -/
theorem shows_of_fits (h : Checked w search transport texts g) (hout : g.out = none)
    {reads reports : List (List Char)} (hreads : g.failed.mapM Display.plain = .ok reads)
    (hlabels : FitsColumn width (outputLabels g ++ reads))
    (hreports : g.diagnostics.mapM (fun d => Display.plain (diagnosticText d)) = .ok reports)
    (hfit : ∀ report ∈ reports, FitsScreen width report) :
    Shows width g (outputLabels g ++ reads) (reports.flatMap screenLines)
      (showCheck width files g) := by
  obtain ⟨table, htable, hcolumn⟩ := showsColumn_rootTable h hout hreads hlabels
  obtain ⟨headline, errors, hheadline, herrors, heq⟩ := exists_showCheck files htable
  obtain ⟨errors', herrors', hlines⟩ := diagnosticLines_of_fits hreports hfit
  obtain rfl : errors = errors' := Except.ok.inj (herrors.symm.trans herrors')
  rw [heq]
  exact ⟨rfl, ⟨headline, table, hheadline, rfl, hcolumn⟩, hlines⟩

/-! ## Which texts stand for themselves -/

/-- A label that is asked for stands for itself. -/
theorem unmarked_of_mem_roots (h : Checked w search transport texts g) {text : String}
    (htext : text ∈ g.roots.map RootLabel.text) : Unmarked text.toList := by
  obtain ⟨label, hlabel, rfl⟩ := List.mem_map.mp htext
  rw [h.roots] at hlabel
  obtain ⟨given, -, hread⟩ := Gathering.mem_labelsOf_iff.mp hlabel
  exact RootLabel.unmarked_text hread

/-- Of the texts that failed, those count that are no labels. -/
theorem forall_failed_iff {p : String → Prop} (h : Checked w search transport texts g)
    (hp : ∀ text, Unmarked text.toList → p text) :
    (∀ text ∈ g.failed, p text) ↔ ∀ given ∈ texts, RootLabel.parse? given = none → p given := by
  constructor
  · intro hfailed given hgiven hnone
    apply hfailed
    rw [← List.count_pos_iff, h.count_invalid hnone]
    exact List.count_pos_iff.mpr hgiven
  · intro hgiven text htext
    rcases h.mem_of_failed htext with hinvalid | hroot
    · obtain ⟨hmem, hnone⟩ := List.mem_filter.mp hinvalid
      exact hgiven text hmem (Option.isNone_iff_eq_none.mp hnone)
    · exact hp text (unmarked_of_mem_roots h hroot)

/-- A text that is no label is reported as an error. -/
theorem hasErrors_of_invalid (h : Checked w search transport texts g) {given : String}
    (hgiven : given ∈ texts) (hnone : RootLabel.parse? given = none) :
    hasErrors g.diagnostics = true := by
  have hinvalid : given ∈ invalidTexts texts := List.mem_filter.mpr ⟨hgiven, by simp [hnone]⟩
  refine List.any_eq_true.mpr ⟨RootLabel.invalid given, ?_, rfl⟩
  rw [h.diagnostics]
  exact List.mem_append_left _ (List.mem_append_left _ (List.mem_map_of_mem hinvalid))

/-- The exit code says whether there are errors, also where the `check` breaks off. -/
theorem exitCode_showCheck (h : Checked w search transport texts g) (hout : g.out = none) :
    (showCheck width files g).ending.exitCode = if hasErrors g.diagnostics then 1 else 0 := by
  by_cases hending : (showCheck width files g).ending = .done g.isOk
  · rw [hending]
    unfold Ending.exitCode Generation.isOk
    cases hasErrors g.diagnostics <;> rfl
  · -- it breaks off at a text that is no label, and this is an error
    obtain ⟨⟨fault, hbroken⟩, -⟩ := showCheck_of_ending_ne hending
    rw [ending_showCheck_iff h hout, forall_failed_iff h fun text hunmarked =>
      ⟨text.toList, Display.plain_of_unmarked hunmarked⟩] at hending
    push Not at hending
    obtain ⟨given, hgiven, hnone, -⟩ := hending
    rw [hbroken, hasErrors_of_invalid h hgiven hnone]
    rfl

/-! ## Lines that stand for themselves -/

/-- A text that stands for itself in a line of the error output. -/
structure FitsReport (width : Nat) (s : String) : Prop where
  escapable : Escapable s.toList
  spaces : SpacesOnly s.toList
  fits : Fits width (' ' :: ' ' :: s.toList)

instance (width : Nat) (s : String) : Decidable (FitsReport width s) :=
  decidable_of_iff (Escapable s.toList ∧ SpacesOnly s.toList ∧
      Fits width (' ' :: ' ' :: s.toList))
    ⟨fun h => ⟨h.1, h.2.1, h.2.2⟩, fun h => ⟨h.escapable, h.spaces, h.fits⟩⟩

namespace FitsReport

variable {width : Nat} {s : String}

theorem splitWhere_eq (h : FitsReport width s) :
    Text.splitWhere (· == '\n') (' ' :: ' ' :: s.toList) = [' ' :: ' ' :: s.toList] := by
  apply Display.splitWhere_of_none
  rintro c (_ | ⟨_, _ | ⟨_, hc⟩⟩)
  · rfl
  · rfl
  · rw [beq_eq_false_iff_ne]
    rintro rfl
    exact h.spaces.not_mem rfl (by decide) hc

theorem expandTabs_eq (h : FitsReport width s) :
    Display.expandTabs 0 (' ' :: ' ' :: s.toList) = ' ' :: ' ' :: s.toList := by
  have htab : '\t' ∉ s.toList := h.spaces.not_mem rfl (by decide)
  exact Display.expandTabs_of_not_mem 0 (by simpa using htab)

theorem fitsScreen (h : FitsReport width s) : FitsScreen width (' ' :: ' ' :: s.toList) := by
  unfold FitsScreen
  rw [h.splitWhere_eq]
  rintro line (_ | ⟨_, ⟨⟩⟩)
  rw [h.expandTabs_eq]
  exact h.fits

theorem screenLines_eq (h : FitsReport width s) :
    screenLines (' ' :: ' ' :: s.toList) = ["  " ++ s] := by
  have htext : String.ofList (' ' :: ' ' :: s.toList) = "  " ++ s :=
    String.toList_inj.mp (by simp)
  unfold screenLines
  rw [h.splitWhere_eq, List.map_singleton, List.map_singleton, h.expandTabs_eq, htext]

end FitsReport

/-- **A result is shown as it is** if the texts that failed and the diagnostics stand for
    themselves. -/
theorem shows_verbatim (h : Checked w search transport texts g) (hout : g.out = none)
    (hfailed : ∀ text ∈ g.failed, Unmarked text.toList)
    (hlabels : FitsColumn width (outputLabels g ++ g.failed.map String.toList))
    (hreports : ∀ d ∈ g.diagnostics, FitsReport width d.render) :
    Shows width g (outputLabels g ++ g.failed.map String.toList)
      (g.diagnostics.map fun d => "  " ++ d.render) (showCheck width files g) := by
  -- unmarked texts read as themselves, and so do escaped diagnostics
  have hreads : g.failed.mapM Display.plain = .ok (g.failed.map String.toList) := by
    apply mapM_of_forall₂
    rw [List.forall₂_map_right_iff, List.forall₂_same]
    exact fun text htext => Display.plain_of_unmarked (hfailed text htext)
  have hread : g.diagnostics.mapM (fun d => Display.plain (diagnosticText d))
      = .ok (g.diagnostics.map fun d => ' ' :: ' ' :: d.render.toList) := by
    apply mapM_of_forall₂
    rw [List.forall₂_map_right_iff, List.forall₂_same]
    exact fun d hd => plain_diagnosticText (hreports d hd).escapable
  have hlines : (g.diagnostics.map fun d => ' ' :: ' ' :: d.render.toList).flatMap screenLines
      = g.diagnostics.map fun d => "  " ++ d.render := by
    rw [List.flatMap_map, List.map_eq_flatMap]
    exact List.flatMap_congr fun d hd => (hreports d hd).screenLines_eq
  rw [← hlines]
  apply shows_of_fits h hout hreads hlabels hread
  rintro report hreport
  obtain ⟨d, hd, rfl⟩ := List.mem_map.mp hreport
  exact (hreports d hd).fitsScreen

/-! ## A short result -/

namespace Sample

/-- What comes of a label whose module is nowhere, and of a text that is no label. -/
def nothingFound (text : String) : Generation where
  roots := [⟨"gone", "C"⟩]
  outputs := []
  failed := [text, "gone:C"]
  diagnostics := [RootLabel.invalid text, Descriptor.notFound "gone" [.ofPlace []]]
  writes := false

theorem sourcePaths_workspace : sourcePaths Sample.workspace {} [] = .ok [.ofPlace []] := rfl

theorem load_gone : Descriptor.load Sample.workspace [.ofPlace []] "gone"
    = .ok { value := none, diagnostics := [Descriptor.notFound "gone" [.ofPlace []]] } := rfl

theorem run_nothingFound {text : String} (h : RootLabel.parse? text = none) :
    Generation.run Sample.workspace {}
        { roots := ["gone:C", text], search := some [.ofPlace []], writes := false }
      = (.ok (nothingFound text), Sample.workspace.files) := by
  have hgone : RootLabel.parse? "gone:C" = some ⟨"gone", "C"⟩ := by cbv
  have hlabels : Gathering.labels ["gone:C", text] = ([⟨"gone", "C"⟩], [text]) := by
    simp [Gathering.labels, hgone, h]
  -- no module of that name is found, whatever the transport
  have hcheck : ∀ transport,
      Generation.check Sample.workspace ["gone:C", text] [.ofPlace []] transport
        = .ok (nothingFound text) := by
    intro transport
    unfold Generation.check
    rw [hlabels]
    simp only [Gathering.ofLabels, List.foldlM, Gathering.add, Gathering.reading, List.lookup,
      load_gone, bind, Except.bind, pure, Except.pure]
    rfl
  apply Generation.run_of_not_writes _ rfl
  unfold Generation.ofRequest
  simp only [Generation.searchOf, Option.getD_some, hcheck]
  rfl

end Sample

/-! ## Main result -/

/-- What can be read of the texts that failed fits into their column. Of a text that does not fit
    only the styles of what is shown are looked up. -/
def FailedFit (width : Nat) (g : Generation) : Prop :=
  ∀ text ∈ g.failed, ∀ m, Display.read text = .ok m →
    FitsLabel width (m.text.filter (!Display.isDropped ·))

/-- **What a `check` reports.** The exit code tells whether the result has errors. If the texts
    that failed fit, the `check` ends as it should exactly if all texts that are no labels are
    well marked up; otherwise it breaks off at the table, and no diagnostic is shown. Diagnostics
    can always be read. If all fits, the table has the labels of the outputs and below them what
    is read of the texts that failed, and what is read of the diagnostics stands on the error
    output, in order, apart from the lines of the log. Both are the texts themselves if the texts
    that are no labels have no markup or emoji in them, and the diagnostics none that escaping
    leaves. -/
theorem check_reports {level : LogLevel} {roots sources : List String} (hroots : roots ≠ [])
    (hoperands : ∀ root ∈ roots, root.toList.head? ≠ some '-')
    (hlevel : LogLevel.ofWord settings.logLevel = .ok level)
    (hsources : sourcePaths w settings sources = .ok search)
    (hrun : Generation.run w settings { roots, search := some search, writes := false }
      = (.ok g, files)) :
    let e := runWords w settings (checkWords roots sources)
    e.ending.exitCode = (if hasErrors g.diagnostics then 1 else 0) ∧
    (FailedFit w.width g →
      (e.ending = .done g.isOk ↔ ∀ given ∈ roots, RootLabel.parse? given = none →
        ∃ read, Display.plain given = .ok read) ∧
      (e.ending ≠ .done g.isOk →
        (∃ fault, e.ending = .broken (.markup fault)) ∧ e.errors = [])) ∧
    (∃ reports, g.diagnostics.mapM (fun d => Display.plain (diagnosticText d)) = .ok reports ∧
      ∀ reads, g.failed.mapM Display.plain = .ok reads →
        FitsColumn w.width (outputLabels g ++ reads) →
        (∀ report ∈ reports, FitsScreen w.width report) →
        Shows w.width g (outputLabels g ++ reads) (reports.flatMap screenLines) e) ∧
    ((∀ given ∈ roots, RootLabel.parse? given = none → Unmarked given.toList) →
      FitsColumn w.width (outputLabels g ++ g.failed.map String.toList) →
      (∀ d ∈ g.diagnostics, FitsReport w.width d.render) →
      Shows w.width g (outputLabels g ++ g.failed.map String.toList)
        (g.diagnostics.map fun d => "  " ++ d.render) e) := by
  obtain ⟨plan, hplan, -⟩ := Generation.exists_plan_of_run (congrArg Prod.fst hrun)
  have hplanned := Generation.plannedFor_of_ofRequest hplan
  obtain rfl : plan = g :=
    Except.ok.inj (congrArg Prod.fst ((Generation.run_of_not_writes hplan rfl).symm.trans hrun))
  have hchecked := hplanned.checked
  have hout : plan.out = none := (Except.ok.inj hplanned.out).symm
  obtain ⟨reports, hreports⟩ := exists_mapM_iff.mpr fun d (_ : d ∈ plan.diagnostics) =>
    exists_plain_diagnosticText d
  -- the run comes first, so all that is left is to show its result
  rw [runWords_check hroots hoperands hlevel hsources hrun]
  refine ⟨exitCode_showCheck hchecked hout, fun _ => ⟨?_, showCheck_of_ending_ne⟩,
    ⟨reports, hreports, ?_⟩, ?_⟩
  · rw [ending_showCheck_iff hchecked hout]
    exact forall_failed_iff hchecked fun text hunmarked =>
      ⟨text.toList, Display.plain_of_unmarked hunmarked⟩
  · intro reads hreads hlabels hfit
    exact shows_of_fits hchecked hout hreads hlabels hreports hfit
  · intro hgiven
    exact shows_verbatim hchecked hout ((forall_failed_iff hchecked fun _ => id).mpr hgiven)

theorem check_reports_sample :
    Shows 240 (Sample.nothingFound "nope") ["nope".toList, "gone:C".toList]
      ["  error: configuration: nope: root must look like 'package.module:RootClass', got 'nope'",
        "  error: configuration: gone: module not found in source roots: /"]
      (runWords Sample.workspace {} (checkWords ["gone:C", "nope"] [])) := by
  have hrun := @Sample.run_nothingFound "nope" (by cbv)
  obtain ⟨-, -, -, hverbatim⟩ :=
    check_reports (by decide) (by decide) rfl Sample.sourcePaths_workspace hrun
  have hgiven : ∀ given ∈ ["gone:C", "nope"], RootLabel.parse? given = none →
      Unmarked given.toList := by
    rintro given hgiven -
    fin_cases hgiven <;> decide
  have hlabels : FitsColumn 240 (outputLabels (Sample.nothingFound "nope")
      ++ (Sample.nothingFound "nope").failed.map String.toList) := by
    decide
  have hreports : ∀ d ∈ (Sample.nothingFound "nope").diagnostics, FitsReport 240 d.render := by
    decide
  exact hverbatim hgiven hlabels hreports

/-- **A `check` may break off at a text that is no label**: there is a result with an error for
    the text, and it is not shown. -/
theorem check_breaks_off :
    ∃ g, Generation.run Sample.workspace {}
        { roots := ["gone:C", "[/red]"], search := some [.ofPlace []], writes := false }
          = (.ok g, Sample.workspace.files) ∧
      g.failed = ["[/red]", "gone:C"] ∧ RootLabel.invalid "[/red]" ∈ g.diagnostics ∧
      (runWords Sample.workspace {} (checkWords ["gone:C", "[/red]"] [])).ending
        = .broken (.markup (.notOpen "red")) ∧
      (runWords Sample.workspace {} (checkWords ["gone:C", "[/red]"] [])).errors = [] := by
  have hrun := @Sample.run_nothingFound "[/red]" (by cbv)
  have hplain : Display.plain "[/red]" = .error (.notOpen "red") := by decide +kernel
  have htable : ∀ width,
      rootTable width (Sample.nothingFound "[/red]") = .error (.notOpen "red") := by
    intro width
    have hrow : (failedRow "[/red]").mapM Display.plain = .error (.notOpen "red") := by
      unfold failedRow
      rw [List.mapM_cons, hplain]
      rfl
    show ((failedRow "[/red]" :: [failedRow "gone:C"]).mapM fun row => row.mapM Display.plain)
      >>= _ = _
    rw [List.mapM_cons, hrow]
    rfl
  rw [runWords_check (by decide) (by decide) rfl Sample.sourcePaths_workspace hrun]
  exact ⟨_, hrun, rfl, List.mem_cons_self, showCheck_broken _ (htable _)⟩

end Waymark.CommandLine

import Waymark.Generation
import Waymark.Proofs.CompiledTree

/-! # What a run knows of its roots

    A run goes through the labels of its roots, reads each module when it is first named and
    keeps what it read. What it knows at the end can be said without the state that it went
    through:

    * a module gives one report (`Descriptor.loaded`), and a label is found in it or not
      (`RootLabel.request?`);
    * what is reported are the reports of the modules, each where the module is first named,
      with what each label adds (`Gathering.news`).

    The state is tied to this by one invariant (`Gathering.Knows`): the modules at hand are
    those that were named, with what they gave. From it comes what a check hands back
    (`Generation.Checked`), and that it hands back something exactly if each module could be
    read (`Generation.check_eq` and `Generation.loads_of_check`).
-/

namespace Waymark

open Waymark.Files (Path Tree Workspace)

/-! ## Labels -/

namespace Gathering

/-- The texts that are no labels. -/
def invalidTexts (texts : List String) : List String :=
  texts.filter fun given => (RootLabel.parse? given).isNone

/-- The labels that are asked for, each where it first occurs. -/
def labelsOf (texts : List String) : List RootLabel :=
  (texts.filterMap RootLabel.parse?).eraseDups

/-- Filtering and listing each item once can be done in any order. -/
theorem eraseDups_filter {α : Type} [BEq α] [LawfulBEq α] (p : α → Bool) (xs : List α) :
    (xs.filter p).eraseDups = xs.eraseDups.filter p := by
  induction hlength : xs.length using Nat.strong_induction_on generalizing xs with
  | _ n ih =>
    cases xs with
    | nil => rfl
    | cons x rest =>
      have hshort : (rest.filter fun y => !y == x).length < n := by
        have := List.length_filter_le (fun y => !y == x) rest
        simp only [List.length_cons] at hlength
        omega
      have hrest := ih _ hshort (rest.filter fun y => !y == x) rfl
      by_cases hx : p x = true
      · rw [List.filter_cons_of_pos hx, List.eraseDups_cons, List.eraseDups_cons,
          List.filter_cons_of_pos hx, ← hrest, List.filter_filter, List.filter_filter]
        simp only [Bool.and_comm]
      · -- the items that equal one that is filtered out are filtered out themselves
        have hsame : (rest.filter fun y => !y == x).filter p = rest.filter p := by
          rw [List.filter_filter]
          apply List.filter_congr
          intro y _
          by_cases hy : y = x
          · simp [hy, hx]
          · simp [hy]
        rw [List.filter_cons_of_neg hx, List.eraseDups_cons, List.filter_cons_of_neg hx, ← hrest,
          hsame]

theorem nodup_eraseDups {α : Type} [BEq α] [LawfulBEq α] (xs : List α) : xs.eraseDups.Nodup := by
  induction hlength : xs.length using Nat.strong_induction_on generalizing xs with
  | _ n ih =>
    cases xs with
    | nil => exact List.nodup_nil
    | cons x rest =>
      have hshort : (rest.filter fun y => !y == x).length < n := by
        have := List.length_filter_le (fun y => !y == x) rest
        simp only [List.length_cons] at hlength
        omega
      rw [List.eraseDups_cons, List.nodup_cons]
      refine ⟨?_, ih _ hshort _ rfl⟩
      rw [List.mem_eraseDups, List.mem_filter]
      simp

/-- The labels among some texts and the texts that are none. -/
theorem labels_eq (texts : List String) : labels texts = (labelsOf texts, invalidTexts texts) := by
  induction texts with
  | nil => rfl
  | cons given rest ih =>
    unfold labels
    rw [ih]
    cases hparse : RootLabel.parse? given with
    | none =>
      have hlabels : labelsOf (given :: rest) = labelsOf rest := by
        unfold labelsOf
        rw [List.filterMap_cons_none hparse]
      have hinvalid : invalidTexts (given :: rest) = given :: invalidTexts rest := by
        unfold invalidTexts
        rw [List.filter_cons_of_pos (by simp [hparse])]
      rw [hlabels, hinvalid]
    | some label =>
      -- the label is not given again later on
      have hlabels : labelsOf (given :: rest) = label :: (labelsOf rest).filter (· != label) := by
        unfold labelsOf
        rw [List.filterMap_cons_some hparse, List.eraseDups_cons, eraseDups_filter]
        rfl
      have hinvalid : invalidTexts (given :: rest) = invalidTexts rest := by
        unfold invalidTexts
        rw [List.filter_cons_of_neg (by simp [hparse])]
      rw [hlabels, hinvalid]

/-- A label that is asked for was read from one of the texts. -/
theorem mem_labelsOf_iff {texts : List String} {label : RootLabel} :
    label ∈ labelsOf texts ↔ ∃ given ∈ texts, RootLabel.parse? given = some label := by
  unfold labelsOf
  rw [List.mem_eraseDups, List.mem_filterMap]

/-- The labels that are asked for are written differently. -/
theorem nodup_text_labelsOf (texts : List String) : ((labelsOf texts).map RootLabel.text).Nodup := by
  apply List.Nodup.map_on ?_ (nodup_eraseDups _)
  intro label hlabel other hother htext
  obtain ⟨given, -, hgiven⟩ := mem_labelsOf_iff.mp hlabel
  obtain ⟨given', -, hgiven'⟩ := mem_labelsOf_iff.mp hother
  exact RootLabel.eq_of_text_eq hgiven hgiven' htext

/-- A text that is no label is not the text of one that is asked for. -/
theorem text_not_mem_invalidTexts {texts : List String} {label : RootLabel}
    (h : label ∈ labelsOf texts) : label.text ∉ invalidTexts texts := by
  intro hinvalid
  obtain ⟨given, -, hgiven⟩ := mem_labelsOf_iff.mp h
  have hnone := (List.mem_filter.mp hinvalid).2
  rw [RootLabel.parse?_text_of_parse? hgiven] at hnone
  cases hnone

end Gathering

/-! ## Modules -/

namespace Descriptor

variable {w : Workspace} {search : List Path} {module : String}

/-- Reading the module does not end the run. -/
def Loads (w : Workspace) (search : List Path) (module : String) : Prop :=
  ∃ report, load w search module = .ok report

/-- What reading a module gives, if it gives anything. -/
def loaded (w : Workspace) (search : List Path) (module : String) : Report (Option Descriptor) :=
  match load w search module with
  | .ok report => report
  | .error _ => { value := none }

theorem Loads.load_eq (h : Loads w search module) :
    load w search module = .ok (loaded w search module) := by
  obtain ⟨report, hreport⟩ := h
  unfold loaded
  rw [hreport]

/-- A source that something can be said about: it holds no null character, and if it parses then
    its statements have no fault. -/
structure Acceptable (module : String) (isPackage : Bool) (source : String) : Prop where
  noNull : '\x00' ∉ source.toList
  faultless : ∀ body, Grammar.parseModule source.toList = .ok body →
    moduleFault? (Scope.ofStatements module isPackage body) body = none

theorem exists_report_iff {isPackage : Bool} {source complaint : String} :
    (∃ report, ofSource module isPackage source complaint = .ok report) ↔
      Acceptable module isPackage source := by
  unfold ofSource
  by_cases hnull : '\x00' ∈ source.toList
  · rw [if_pos (List.contains_iff_mem.mpr hnull)]
    constructor
    · rintro ⟨report, hreport⟩
      cases hreport
    · intro h
      exact absurd hnull h.noNull
  · rw [if_neg (by simpa using hnull)]
    cases hparsed : Grammar.parseModule source.toList with
    -- a text that does not parse has a report too
    | error m =>
      refine ⟨fun _ => ⟨hnull, ?_⟩, fun _ => ⟨_, rfl⟩⟩
      intro body hbody
      rw [hparsed] at hbody
      cases hbody
    | ok body =>
      dsimp only
      cases hfault : moduleFault? (Scope.ofStatements module isPackage body) body with
      | none =>
        refine ⟨fun _ => ⟨hnull, ?_⟩, fun _ => ⟨_, rfl⟩⟩
        intro body' hbody
        rw [hparsed] at hbody
        cases hbody
        exact hfault
      | some fault =>
        constructor
        · rintro ⟨report, hreport⟩
          cases hreport
        · intro h
          rw [h.faultless body hparsed] at hfault
          cases hfault

/-- The file of a module can be looked for, and if it is found and can be read, then it is an
    acceptable text. -/
def Digestible (w : Workspace) (search : List Path) (module : String) : Prop :=
  ∃ found, w.findModule module search = .ok found ∧
    ∀ file ∈ found, ∀ octets, w.files.read w.current file.path = .ok octets →
      ∃ source, Tree.textOf? octets = some source ∧ Acceptable module file.isPackage source

/-- These are the modules that do not end a run. -/
theorem loads_iff : Loads w search module ↔ Digestible w search module := by
  unfold Loads Digestible load
  -- the three steps of loading fail for one reason each
  cases w.findModule module search with
  | error fault => simp [Except.mapError, bind, Except.bind]
  | ok found =>
    simp only [Except.mapError, bind, Except.bind, Except.ok.injEq, exists_eq_left']
    cases found with
    | none => simp [pure, Except.pure]
    | some file =>
      simp only [Option.mem_some_iff, forall_eq', ofFile]
      cases w.files.read w.current file.path with
      | error fault => simp
      | ok octets =>
        simp only [Except.ok.injEq, forall_eq', ofOctets]
        cases Tree.textOf? octets with
        | none => simp
        | some source =>
          simp only [Option.some.injEq, exists_eq_left',
            ← @exists_report_iff module file.isPackage source (w.complaint source)]
          cases ofSource module file.isPackage source (w.complaint source) <;>
            simp [Except.mapError]

/-- A module that is nowhere, cannot be read or does not parse has an error at its name. -/
theorem ofSource_spec {isPackage : Bool} {source complaint : String}
    {report : Report (Option Descriptor)}
    (h : ofSource module isPackage source complaint = .ok report) :
    (report.value = none → ∃ d ∈ report.diagnostics, d.isError = true ∧ d.location = module) ∧
      ∀ d, report.value = some d → d.scope.module = module := by
  unfold ofSource at h
  split at h
  · cases h
  · split at h
    · cases h
      refine ⟨fun _ => ⟨_, List.mem_cons_self, rfl, rfl⟩, fun d hd => ?_⟩
      cases hd
    · split at h
      · cases h
      · cases h
        refine ⟨fun hnone => ?_, fun d hd => ?_⟩
        · cases hnone
        · cases hd
          exact Scope.module_ofStatements _ _ _

/-- What a module can give: it is not found, or its file cannot be read, or it is read from
    its source. -/
theorem load_cases {report : Report (Option Descriptor)} (h : load w search module = .ok report) :
    report = { value := none, diagnostics := [notFound module search] } ∨
      (∃ p fault, report = { value := none, diagnostics := [unreadable module p fault] }) ∨
      ∃ isPackage source,
        ofSource module isPackage source (w.complaint source) = .ok report := by
  unfold load at h
  -- nothing is found, or a file that cannot be read, or a text
  cases hfound : w.findModule module search with
  | error fault => simp [hfound, Except.mapError, bind, Except.bind] at h
  | ok found =>
    simp only [hfound, Except.mapError, bind, Except.bind] at h
    cases found with
    | none =>
      left
      simpa [pure, Except.pure] using h.symm
    | some file =>
      right
      simp only [ofFile] at h
      split at h
      · next fault hread => exact .inl ⟨_, fault, (Except.ok.inj h).symm⟩
      · next octets hread =>
        right
        unfold ofOctets at h
        split at h
        · cases h
        · next source hsource =>
          refine ⟨file.isPackage, source, ?_⟩
          cases hof : ofSource module file.isPackage source (w.complaint source) with
          | error fault => simp [hof, Except.mapError] at h
          | ok report' => simpa [hof, Except.mapError] using h

/-- A module that gives no descriptor is reported as an error at its name. -/
theorem Loads.exists_error (h : Loads w search module)
    (hnone : (loaded w search module).value = none) :
    ∃ d ∈ (loaded w search module).diagnostics, d.isError = true ∧ d.location = module := by
  rcases load_cases h.load_eq with hreport | ⟨p, fault, hreport⟩ | ⟨isPackage, source, hsource⟩
  · rw [hreport]
    exact ⟨_, List.mem_cons_self, rfl, rfl⟩
  · rw [hreport]
    exact ⟨_, List.mem_cons_self, rfl, rfl⟩
  · exact (ofSource_spec hsource).1 hnone

/-- A descriptor that a module gives is read from a source of that module. -/
theorem exists_source {d : Descriptor} (h : (loaded w search module).value = some d) :
    ∃ isPackage source,
      ofSource module isPackage source (w.complaint source) = .ok (loaded w search module) := by
  have hloads : Loads w search module := by
    unfold loaded at h
    split at h
    · next report hreport => exact ⟨report, hreport⟩
    · cases h
  rcases load_cases hloads.load_eq with hreport | ⟨p, fault, hreport⟩ | hsource
  · rw [hreport] at h
    cases h
  · rw [hreport] at h
    cases h
  · exact hsource

end Descriptor

/-! ## Labels in their modules -/

namespace RootLabel

variable {w : Workspace} {search : List Path} {label : RootLabel}

/-- The request for the root of a label, if its module gives a descriptor with that root. -/
def request? (w : Workspace) (search : List Path) (label : RootLabel) : Option RootRequest :=
  (Descriptor.loaded w search label.module).value.bind fun d =>
    (d.root? label.name).map fun e => { endpoint := e, scope := d.scope }

/-- What is reported for a label whose module gives a descriptor without that root. -/
def complaints (w : Workspace) (search : List Path) (label : RootLabel) : List Diagnostic :=
  match (Descriptor.loaded w search label.module).value with
  | none => []
  | some d => if (d.root? label.name).isNone then [label.noRoot] else []

/-- The request for a label has the module and the name of the label. -/
theorem names_of_request? {r : RootRequest} (h : label.request? w search = some r) :
    r.scope.module = label.module ∧ r.endpoint.name = label.name := by
  obtain ⟨d, hd, hroot⟩ := Option.bind_eq_some_iff.mp h
  obtain ⟨e, he, rfl⟩ := Option.map_eq_some_iff.mp hroot
  obtain ⟨isPackage, source, hsource⟩ := Descriptor.exists_source hd
  exact ⟨(Descriptor.ofSource_spec hsource).2 d hd, by simpa using List.find?_some he⟩

/-- The request for a label goes by that label. -/
theorem ofRequest_of_request? {r : RootRequest} (h : label.request? w search = some r) :
    ofRequest r = label.text := by
  obtain ⟨hmodule, hname⟩ := names_of_request? h
  unfold ofRequest text
  rw [hmodule, hname]

/-- The request for a label asks for a root that is read from a source. -/
theorem readFrom_of_request? {r : RootRequest} (h : label.request? w search = some r) :
    ∃ isPackage source, r.ReadFrom label.module isPackage source := by
  obtain ⟨d, hd, hroot⟩ := Option.bind_eq_some_iff.mp h
  obtain ⟨e, he, rfl⟩ := Option.map_eq_some_iff.mp hroot
  obtain ⟨isPackage, source, hsource⟩ := Descriptor.exists_source hd
  exact ⟨isPackage, source, .intro hsource hd (List.mem_of_find?_eq_some he) rfl⟩

end RootLabel

namespace Gathering

variable {w : Workspace} {search : List Path} {seen : List String} {g : Gathering}

/-- The requests for the roots of some labels. -/
def requestsOf (w : Workspace) (search : List Path) (labels : List RootLabel) : List RootRequest :=
  labels.filterMap (RootLabel.request? w search)

/-- The labels without a request. -/
def lost (w : Workspace) (search : List Path) (labels : List RootLabel) : List RootLabel :=
  labels.filter fun label => (label.request? w search).isNone

/-- What is reported for some labels after the modules in `seen` were read. -/
def news (w : Workspace) (search : List Path) : List String → List RootLabel → List Diagnostic
  | _, [] => []
  | seen, label :: rest =>
    (if label.module ∈ seen then [] else (Descriptor.loaded w search label.module).diagnostics)
      ++ label.complaints w search ++ news w search (label.module :: seen) rest

/-- What a module gives is reported with the first of its labels. -/
theorem loaded_subset_news {labels : List RootLabel} {label : RootLabel} (h : label ∈ labels)
    (hnew : label.module ∉ seen) :
    (Descriptor.loaded w search label.module).diagnostics ⊆ news w search seen labels := by
  induction labels generalizing seen with
  | nil => cases h
  | cons first rest ih =>
    intro d hd
    simp only [news, List.mem_append]
    by_cases hfirst : label.module = first.module
    · rw [hfirst] at hd hnew
      rw [if_neg hnew]
      exact .inl (.inl hd)
    · -- the label is a later one, and its module is still new there
      have hlater : label ∈ rest := by
        rcases List.mem_cons.mp h with rfl | hlater
        · exact absurd rfl hfirst
        · exact hlater
      have hstill : label.module ∉ first.module :: seen := by
        rw [List.mem_cons, not_or]
        exact ⟨hfirst, hnew⟩
      exact .inr (ih hlater hstill hd)

/-- What a label adds is reported. -/
theorem complaints_subset_news {labels : List RootLabel} {label : RootLabel} (h : label ∈ labels) :
    label.complaints w search ⊆ news w search seen labels := by
  induction labels generalizing seen with
  | nil => cases h
  | cons first rest ih =>
    intro d hd
    simp only [news, List.mem_append]
    rcases List.mem_cons.mp h with rfl | hlater
    · exact .inl (.inr hd)
    · exact .inr (ih hlater hd)

/-- Where a label is lost there is an error. -/
theorem hasErrors_news {labels : List RootLabel} {label : RootLabel}
    (hlabel : label ∈ lost w search labels)
    (hloads : Descriptor.Loads w search label.module) :
    hasErrors (news w search [] labels) = true := by
  obtain ⟨hmem, hnone⟩ := List.mem_filter.mp hlabel
  apply List.any_eq_true.mpr
  cases hvalue : (Descriptor.loaded w search label.module).value with
  | none =>
    obtain ⟨d, hd, herror, -⟩ := hloads.exists_error hvalue
    exact ⟨d, loaded_subset_news hmem List.not_mem_nil hd, herror⟩
  | some descriptor =>
    have hroot : descriptor.root? label.name = none := by
      simpa [RootLabel.request?, hvalue] using hnone
    have hcomplaint : label.noRoot ∈ label.complaints w search := by
      simp [RootLabel.complaints, hvalue, hroot]
    exact ⟨label.noRoot, complaints_subset_news hmem hcomplaint, rfl⟩

/-- The modules at hand are those that were named, with what they gave. -/
structure Knows (w : Workspace) (search : List Path) (seen : List String) (g : Gathering) : Prop where
  loads : ∀ module ∈ seen, Descriptor.Loads w search module
  modules : ∀ module, g.modules.lookup module =
    if module ∈ seen then some (Descriptor.loaded w search module).value else none

/-- What was found and reported since an earlier state. -/
structure Since (g g' : Gathering) (requests : List RootRequest) (failed : List String)
    (diagnostics : List Diagnostic) : Prop where
  requests : g'.requests = g.requests ++ requests
  failed : g'.failed = g.failed ++ failed
  diagnostics : g'.diagnostics = g.diagnostics ++ diagnostics

/-! ## One label -/

/-- A module that was not named before is read; all others are at hand. -/
theorem reading_eq (h : g.Knows w search seen) {module : String}
    (hloads : Descriptor.Loads w search module) :
    ∃ g', g.reading w search module = .ok ((Descriptor.loaded w search module).value, g') ∧
      g'.Knows w search (module :: seen) ∧
      Since g g' [] [] (if module ∈ seen then [] else (Descriptor.loaded w search module).diagnostics) := by
  unfold reading
  rw [h.modules]
  -- a module that was read is looked up, and nothing new is said of it
  by_cases hseen : module ∈ seen
  · rw [if_pos hseen, if_pos hseen]
    refine ⟨g, rfl, ⟨?_, ?_⟩, by simp, by simp, by simp⟩
    · intro other hother
      rcases List.mem_cons.mp hother with rfl | hother
      · exact hloads
      · exact h.loads other hother
    · intro other
      have hsame : other ∈ module :: seen ↔ other ∈ seen := by
        rw [List.mem_cons]
        constructor
        · rintro (rfl | hother)
          · exact hseen
          · exact hother
        · exact .inr
      simp only [h.modules, hsame]
  · rw [if_neg hseen, if_neg hseen]
    simp only [hloads.load_eq, bind, Except.bind, pure, Except.pure]
    refine ⟨_, rfl, ⟨?_, ?_⟩, by simp, by simp, rfl⟩
    · intro other hother
      rcases List.mem_cons.mp hother with rfl | hother
      · exact hloads
      · exact h.loads other hother
    · intro other
      by_cases hother : other = module
      · simp [hother]
      · simp [List.lookup_cons, beq_eq_false_iff_ne.mpr hother, hother, h.modules]

/-- One step: a label whose module can be read. -/
theorem add_eq (h : g.Knows w search seen) {label : RootLabel}
    (hloads : Descriptor.Loads w search label.module) :
    ∃ g', g.add w search label = .ok g' ∧ g'.Knows w search (label.module :: seen) ∧
      Since g g' (requestsOf w search [label]) ((lost w search [label]).map RootLabel.text)
        (news w search seen [label]) := by
  obtain ⟨g', hreading, hknows, hsince⟩ := reading_eq h hloads
  unfold add
  rw [hreading]
  simp only [bind, Except.bind, pure, Except.pure, requestsOf, lost, news, RootLabel.complaints]
  cases hvalue : (Descriptor.loaded w search label.module).value with
  | none =>
    have hrequest : label.request? w search = none := by simp [RootLabel.request?, hvalue]
    refine ⟨_, rfl, ⟨hknows.loads, hknows.modules⟩, ?_, ?_, ?_⟩
    · simp [hrequest, hsince.requests]
    · simp [hrequest, hsince.failed]
    · simp [hsince.diagnostics]
  | some d =>
    dsimp only
    -- the module is read, but the root may not be in it
    cases hroot : d.root? label.name with
    | none =>
      have hrequest : label.request? w search = none := by simp [RootLabel.request?, hvalue, hroot]
      refine ⟨_, rfl, ⟨hknows.loads, hknows.modules⟩, ?_, ?_, ?_⟩
      · simp [hrequest, hsince.requests]
      · simp [hrequest, hsince.failed]
      · simp [hsince.diagnostics]
    | some e =>
      have hrequest : label.request? w search = some { endpoint := e, scope := d.scope } := by
        simp [RootLabel.request?, hvalue, hroot]
      refine ⟨_, rfl, ⟨hknows.loads, hknows.modules⟩, ?_, ?_, ?_⟩
      · simp [hrequest, hsince.requests]
      · simp [hrequest, hsince.failed]
      · simp [hsince.diagnostics]

/-- A label whose module cannot be read ends the run. -/
theorem add_of_not_loads (h : g.Knows w search seen) {label : RootLabel}
    (hloads : ¬ Descriptor.Loads w search label.module) :
    ∃ fault, g.add w search label = .error fault := by
  have hnew : label.module ∉ seen := fun hseen => hloads (h.loads _ hseen)
  cases hload : Descriptor.load w search label.module with
  | ok report => exact absurd ⟨report, hload⟩ hloads
  | error fault =>
    refine ⟨fault, ?_⟩
    unfold add reading
    rw [h.modules, if_neg hnew]
    simp [hload, bind, Except.bind]

/-! ## All labels -/

/-- What all labels bring, by induction on the labels: the invariant carries over each step. -/
theorem foldlM_add (h : g.Knows w search seen) {labels : List RootLabel}
    (hloads : ∀ label ∈ labels, Descriptor.Loads w search label.module) :
    ∃ g', labels.foldlM (add w search) g = .ok g' ∧
      Since g g' (requestsOf w search labels) ((lost w search labels).map RootLabel.text)
        (news w search seen labels) := by
  induction labels generalizing g seen with
  | nil => exact ⟨g, rfl, by simp [requestsOf], by simp [lost], by simp [news]⟩
  | cons label rest ih =>
    -- one label, then the rest from what is known by then
    obtain ⟨g₁, hadd, hknows, hfirst⟩ := add_eq h (hloads label List.mem_cons_self)
    obtain ⟨g₂, hfold, hrest⟩ := ih hknows fun other hother =>
      hloads other (List.mem_cons_of_mem _ hother)
    refine ⟨g₂, ?_, ?_, ?_, ?_⟩
    · rw [List.foldlM_cons, hadd]
      exact hfold
    · have hrequests : requestsOf w search (label :: rest)
          = requestsOf w search [label] ++ requestsOf w search rest := by
        unfold requestsOf
        rw [← List.filterMap_append, List.singleton_append]
      rw [hrest.requests, hfirst.requests, hrequests, List.append_assoc]
    · have hlost : lost w search (label :: rest) = lost w search [label] ++ lost w search rest :=
        List.filter_append [label] rest
      rw [hrest.failed, hfirst.failed, hlost, List.map_append, List.append_assoc]
    · rw [hrest.diagnostics, hfirst.diagnostics]
      simp [news]

/-- If all labels could be gone through, each module could be read. -/
theorem loads_of_foldlM (h : g.Knows w search seen) {labels : List RootLabel} {g' : Gathering}
    (hfold : labels.foldlM (add w search) g = .ok g') :
    ∀ label ∈ labels, Descriptor.Loads w search label.module := by
  induction labels generalizing g seen with
  | nil => simp
  | cons label rest ih =>
    rw [List.foldlM_cons] at hfold
    by_cases hloads : Descriptor.Loads w search label.module
    · obtain ⟨g₁, hadd, hknows, -⟩ := add_eq h hloads
      rw [hadd] at hfold
      intro other hother
      rcases List.mem_cons.mp hother with rfl | hother
      · exact hloads
      · exact ih hknows hfold other hother
    -- the fold would have ended here
    · obtain ⟨fault, hadd⟩ := add_of_not_loads h hloads
      rw [hadd] at hfold
      cases hfold

theorem knows_nothing (failed : List String) (diagnostics : List Diagnostic) :
    Knows w search [] { failed, diagnostics } where
  loads := by simp
  modules := by simp

/-- What is known of some labels, if each module can be read. -/
theorem ofLabels_eq {labels : List RootLabel} (invalid : List String)
    (hloads : ∀ label ∈ labels, Descriptor.Loads w search label.module) :
    ∃ g, ofLabels w search labels invalid = .ok g ∧
      g.requests = requestsOf w search labels ∧
      g.failed = invalid ++ (lost w search labels).map RootLabel.text ∧
      g.diagnostics = invalid.map RootLabel.invalid ++ news w search [] labels := by
  obtain ⟨g, hfold, hsince⟩ :=
    foldlM_add (knows_nothing invalid (invalid.map RootLabel.invalid)) hloads
  exact ⟨g, hfold, hsince.requests, hsince.failed, hsince.diagnostics⟩

end Gathering

/-! ## Checks -/

namespace Generation

open Gathering (labelsOf invalidTexts requestsOf lost news)

/-- What a check of some texts hands back. -/
structure Checked (w : Workspace) (search : List Path) (transport : String) (texts : List String)
    (g : Generation) : Prop where
  roots : g.roots = labelsOf texts
  outputs : List.Forall₂ (fun c m => Client.generate c transport = .ok m)
    (compileAll (requestsOf w search g.roots)).value g.outputs
  failed : g.failed = invalidTexts texts ++ (lost w search g.roots).map RootLabel.text
    ++ uncompiled (requestsOf w search g.roots) (compileAll (requestsOf w search g.roots)).value
  diagnostics : g.diagnostics = (invalidTexts texts).map RootLabel.invalid
    ++ news w search [] g.roots ++ (compileAll (requestsOf w search g.roots)).diagnostics
  written : g.written = []
  unchanged : g.unchanged = []
  writes : g.writes = false

/-- A module is made of each client of requests that were read from modules. -/
theorem exists_outputs (w : Workspace) (search : List Path) (transport : String)
    (labels : List RootLabel) :
    ∃ ms, List.Forall₂ (fun c m => Client.generate c transport = .ok m)
      (compileAll (requestsOf w search labels)).value ms := by
  apply exists_forall₂
  intro client hclient
  obtain ⟨r, hr, hcompiled⟩ := exists_request hclient
  obtain ⟨label, -, hlabel⟩ := List.mem_filterMap.mp hr
  obtain ⟨isPackage, source, hsource⟩ := RootLabel.readFrom_of_request? hlabel
  obtain ⟨_, _, htraced⟩ := (hsource.compiledFrom hcompiled).traced
  obtain ⟨m, hgenerate, -⟩ := Client.generate_eq htraced transport
  exact ⟨m, hgenerate⟩

variable {w : Workspace} {search : List Path} {transport : String} {texts : List String}

/-- A check of texts whose modules can all be read hands back what it should. -/
theorem check_eq (hloads : ∀ label ∈ labelsOf texts, Descriptor.Loads w search label.module) :
    ∃ g, check w texts search transport = .ok g ∧ Checked w search transport texts g := by
  obtain ⟨known, hknown, hrequests, hfailed, hdiagnostics⟩ :=
    Gathering.ofLabels_eq (invalidTexts texts) hloads
  -- printing never fails, so each client has an output
  obtain ⟨ms, hms⟩ := exists_outputs w search transport (labelsOf texts)
  have houtputs : (compileAll known.requests).value.mapM (fun c => Client.generate c transport)
      = .ok ms := by
    rw [hrequests]
    exact mapM_of_forall₂ ms hms
  unfold check
  simp only [Gathering.labels_eq, hknown, bind, Except.bind, houtputs, Except.mapError, pure,
    Except.pure]
  refine ⟨_, rfl, rfl, ?_, ?_, ?_, rfl, rfl, rfl⟩
  · exact hms
  · simp only [hrequests, hfailed]
  · simp only [hrequests, hdiagnostics]

/-- If a check hands back anything, each module could be read. -/
theorem loads_of_check {g : Generation} (h : check w texts search transport = .ok g) :
    ∀ label ∈ labelsOf texts, Descriptor.Loads w search label.module := by
  unfold check at h
  simp only [Gathering.labels_eq] at h
  cases hknown : Gathering.ofLabels w search (labelsOf texts) (invalidTexts texts) with
  | error fault => simp [hknown, bind, Except.bind] at h
  | ok known => exact Gathering.loads_of_foldlM (Gathering.knows_nothing _ _) hknown

/-- What a check hands back, if it hands back anything. -/
theorem checked_of_check {g : Generation} (h : check w texts search transport = .ok g) :
    Checked w search transport texts g := by
  obtain ⟨g', hcheck, hchecked⟩ : ∃ g', check w texts search transport = .ok g' ∧
      Checked w search transport texts g' := check_eq (loads_of_check h)
  rw [h] at hcheck
  cases hcheck
  exact hchecked

end Generation

end Waymark

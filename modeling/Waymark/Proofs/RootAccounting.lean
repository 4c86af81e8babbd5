import Waymark.Proofs.RunOutcome

/-! # Every root is accounted for

    Each text that a run is given comes out once: as a failure if it is no label, and
    otherwise, with all texts of the same label, as the label of an output or as a failure.

    * Labels are lost in two places: a module that does not give their root, and the
      compilation. Each time the labels are divided in two (`Generation.perm_requestsOf`,
      `Generation.perm_uncompiled`).
    * Put together, the outputs and the failures are the labels and the texts that are none,
      in another order (`Generation.Checked.perm`). All counts follow from that.
    * Each failure comes with an error (`Generation.Checked.hasErrors`).
-/

namespace Waymark

open Waymark.Client (ClientModule)
open Waymark.Files (Path Workspace)

/-- The label of a generated module. -/
def RootLabel.ofModule (m : ClientModule) : String :=
  m.module ++ ":" ++ m.root

namespace Generation

open Gathering (labelsOf invalidTexts requestsOf lost news)

variable {w : Workspace} {search : List Path} {transport : String} {texts : List String}
  {settings : Settings} {r : Request} {g : Generation}

/-! ## Dividing labels -/

/-- A list without repetition is divided by what occurs in a part of it. -/
theorem perm_filter_append {part whole : List String} (hpart : part.Sublist whole)
    (hwhole : whole.Nodup) :
    ((whole.filter fun x => !part.contains x) ++ part).Perm whole := by
  have hkept : (whole.filter fun x => part.contains x).Perm part := by
    apply (List.perm_ext_iff_of_nodup (hwhole.filter _) (hwhole.sublist hpart)).mpr
    intro x
    simp only [List.mem_filter, List.contains_iff_mem]
    exact ⟨fun h => h.2, fun h => ⟨hpart.subset h, h⟩⟩
  have hparts := List.filter_append_perm (fun x => part.contains x) whole
  exact (List.perm_append_comm.trans (hkept.symm.append_right _)).trans hparts

/-- The requests go by the labels that they are for. -/
theorem map_ofRequest_requestsOf (w : Workspace) (search : List Path) (labels : List RootLabel) :
    (requestsOf w search labels).map RootLabel.ofRequest
      = (labels.filter fun label => (label.request? w search).isSome).map RootLabel.text := by
  induction labels with
  | nil => rfl
  | cons label rest ih =>
    unfold requestsOf at ih ⊢
    cases hrequest : label.request? w search with
    | none => simp [hrequest, ih]
    | some request => simp [hrequest, ih, RootLabel.ofRequest_of_request? hrequest]

/-- The requests go by labels that are asked for, in order. -/
theorem map_ofRequest_sublist (w : Workspace) (search : List Path) (labels : List RootLabel) :
    ((requestsOf w search labels).map RootLabel.ofRequest).Sublist
      (labels.map RootLabel.text) := by
  rw [map_ofRequest_requestsOf]
  exact List.filter_sublist.map RootLabel.text

/-- The labels are those that are lost and those of the requests. -/
theorem perm_requestsOf (w : Workspace) (search : List Path) (labels : List RootLabel) :
    ((lost w search labels).map RootLabel.text
      ++ (requestsOf w search labels).map RootLabel.ofRequest).Perm
      (labels.map RootLabel.text) := by
  have hlost : lost w search labels
      = labels.filter fun label => !(label.request? w search).isSome := by
    unfold lost
    simp
  rw [map_ofRequest_requestsOf, hlost, ← List.map_append]
  apply List.Perm.map
  exact List.perm_append_comm.trans
    (List.filter_append_perm (fun label => (label.request? w search).isSome) labels)

/-- What is made of some requests goes by labels of theirs, in order, if each client goes by
    the label of its request. -/
theorem map_filterMap_sublist {f : RootRequest → Option ClientRoot}
    (hf : ∀ r client, f r = some client → RootLabel.ofClient client = RootLabel.ofRequest r)
    (requests : List RootRequest) :
    ((requests.filterMap f).map RootLabel.ofClient).Sublist
      (requests.map RootLabel.ofRequest) := by
  induction requests with
  | nil => exact List.Sublist.refl _
  | cons r rest ih =>
    cases hclient : f r with
    | none =>
      rw [List.filterMap_cons_none hclient, List.map_cons]
      exact ih.cons _
    | some client =>
      rw [List.filterMap_cons_some hclient, List.map_cons, List.map_cons, hf r client hclient]
      exact ih.cons_cons _

/-- The clients go by labels of their requests, in order. -/
theorem map_ofClient_sublist (requests : List RootRequest) :
    ((compileAll requests).value.map RootLabel.ofClient).Sublist
      (requests.map RootLabel.ofRequest) := by
  obtain ⟨shares, h⟩ := Account.exists_account requests
  rw [h.compileAll_eq.1, h.filterMap_client]
  apply map_filterMap_sublist
  intro r client hclient
  have hcompiled := (Option.ite_none_right_eq_some.mp hclient).2
  obtain ⟨hmodule, hname⟩ := RootRequest.names_of_compile_eq_some hcompiled
  unfold RootLabel.ofClient RootLabel.ofRequest
  rw [hmodule, hname]

/-- The requests are those without a client and those of the clients. -/
theorem perm_uncompiled {requests : List RootRequest}
    (hnames : (requests.map RootLabel.ofRequest).Nodup) :
    (uncompiled requests (compileAll requests).value
      ++ (compileAll requests).value.map RootLabel.ofClient).Perm
      (requests.map RootLabel.ofRequest) :=
  perm_filter_append (map_ofClient_sublist requests) hnames

/-- Where a request has no client there is an error. -/
theorem hasErrors_of_uncompiled {requests : List RootRequest} {text : String}
    (h : text ∈ uncompiled requests (compileAll requests).value) :
    hasErrors (compileAll requests).diagnostics = true := by
  obtain ⟨shares, haccount⟩ := Account.exists_account requests
  obtain ⟨hvalue, hdiagnostics⟩ := haccount.compileAll_eq
  obtain ⟨hmem, hlost⟩ := List.mem_filter.mp h
  obtain ⟨r, hr, rfl⟩ := List.mem_map.mp hmem
  rw [← haccount.requests] at hr
  obtain ⟨s, hs, rfl⟩ := List.mem_map.mp hr
  obtain ⟨others, -, hdue⟩ := haccount.exists_others hs
  -- if the share had a client, the request would be among the compiled ones
  have hclient : s.client = none := by
    cases hclient : s.client with
    | none => rfl
    | some client =>
      obtain ⟨-, hcompiled⟩ := hdue.of_client hclient
      obtain ⟨hmodule, hname⟩ := RootRequest.names_of_compile_eq_some hcompiled
      have hfound : RootLabel.ofRequest s.request
          ∈ (compileAll requests).value.map RootLabel.ofClient := by
        rw [hvalue]
        refine List.mem_map.mpr ⟨client, List.mem_filterMap.mpr ⟨s, hs, hclient⟩, ?_⟩
        unfold RootLabel.ofClient RootLabel.ofRequest
        rw [hmodule, hname]
      rw [List.contains_iff_mem.mpr hfound] at hlost
      cases hlost
  obtain ⟨d, hd, herror⟩ := List.any_eq_true.mp (hdue.hasErrors_of_client_eq_none hclient)
  rw [hdiagnostics]
  exact List.any_eq_true.mpr ⟨d, List.mem_flatMap.mpr ⟨s, hs, hd⟩, herror⟩

/-! ## What a check accounts for -/

/-- The modules go by the labels of their clients. -/
theorem map_ofModule {clients : List ClientRoot} {ms : List ClientModule}
    (h : List.Forall₂ (fun c m => Client.generate c transport = .ok m) clients ms) :
    ms.map RootLabel.ofModule = clients.map RootLabel.ofClient := by
  induction h with
  | nil => rfl
  | cons hfirst _ ih =>
    obtain ⟨hmodule, hroot, -⟩ := Client.filename_of_generate hfirst
    rw [List.map_cons, List.map_cons, ih]
    unfold RootLabel.ofModule RootLabel.ofClient
    rw [hmodule, hroot]

namespace Checked

/-- The labels that are asked for are written differently. -/
theorem nodup_roots (h : Checked w search transport texts g) :
    (g.roots.map RootLabel.text).Nodup := by
  rw [h.roots]
  exact Gathering.nodup_text_labelsOf texts

/-- The outputs go by labels that are asked for, in order. -/
theorem ofModule_sublist (h : Checked w search transport texts g) :
    (g.outputs.map RootLabel.ofModule).Sublist (g.roots.map RootLabel.text) := by
  rw [map_ofModule h.outputs]
  exact (map_ofClient_sublist _).trans (map_ofRequest_sublist w search g.roots)

/-- The outputs and the failures are what was asked for, in another order. -/
theorem perm (h : Checked w search transport texts g) :
    (g.outputs.map RootLabel.ofModule ++ g.failed).Perm
      (invalidTexts texts ++ g.roots.map RootLabel.text) := by
  have hnames : ((requestsOf w search g.roots).map RootLabel.ofRequest).Nodup :=
    h.nodup_roots.sublist (map_ofRequest_sublist w search g.roots)
  have hlost := perm_requestsOf w search g.roots
  have hcompiled := perm_uncompiled hnames
  rw [h.failed, map_ofModule h.outputs]
  refine List.perm_append_comm.trans ?_
  simp only [List.append_assoc]
  -- first the requests are put together, then the labels
  exact ((hcompiled.append_left _).trans hlost).append_left _

/-- A label that is asked for comes out once: as an output or as a failure. -/
theorem count_label (h : Checked w search transport texts g) {label : RootLabel}
    (hlabel : label ∈ g.roots) :
    (g.outputs.map RootLabel.ofModule).count label.text + g.failed.count label.text = 1 := by
  have hinvalid : label.text ∉ invalidTexts texts :=
    Gathering.text_not_mem_invalidTexts (h.roots ▸ hlabel)
  have hroots : (g.roots.map RootLabel.text).count label.text = 1 :=
    List.count_eq_one_of_mem h.nodup_roots (List.mem_map_of_mem hlabel)
  rw [← List.count_append, h.perm.count_eq, List.count_append, hroots,
    List.count_eq_zero_of_not_mem hinvalid]

/-- A text that is no label fails as often as it is given. -/
theorem count_invalid (h : Checked w search transport texts g) {given : String}
    (hgiven : RootLabel.parse? given = none) : g.failed.count given = texts.count given := by
  -- a text that is no label is not the text of one
  have hroots : given ∉ g.roots.map RootLabel.text := by
    intro hmem
    obtain ⟨label, hlabel, rfl⟩ := List.mem_map.mp hmem
    rw [h.roots] at hlabel
    obtain ⟨text, -, hread⟩ := Gathering.mem_labelsOf_iff.mp hlabel
    rw [RootLabel.parse?_text_of_parse? hread] at hgiven
    cases hgiven
  have houtputs : given ∉ g.outputs.map RootLabel.ofModule := fun hmem =>
    hroots (h.ofModule_sublist.subset hmem)
  have hcount := h.perm.count_eq given
  rw [List.count_append, List.count_append, List.count_eq_zero_of_not_mem hroots,
    List.count_eq_zero_of_not_mem houtputs, Nat.zero_add, Nat.add_zero] at hcount
  rw [hcount]
  unfold invalidTexts
  rw [List.count_filter (by simp [hgiven])]

/-- What fails was asked for. -/
theorem mem_of_failed (h : Checked w search transport texts g) {text : String}
    (htext : text ∈ g.failed) :
    text ∈ invalidTexts texts ∨ text ∈ g.roots.map RootLabel.text := by
  have hmem := h.perm.subset (List.mem_append_right _ htext)
  exact List.mem_append.mp hmem

/-- Where something fails there is an error: each of the three kinds of failures is reported. -/
theorem hasErrors (h : Checked w search transport texts g)
    (hloads : ∀ label ∈ labelsOf texts, Descriptor.Loads w search label.module)
    (hfailed : g.failed ≠ []) : hasErrors g.diagnostics = true := by
  obtain ⟨text, htext⟩ := List.exists_mem_of_ne_nil _ hfailed
  rw [h.failed, List.mem_append, List.mem_append] at htext
  rw [h.diagnostics]
  unfold Waymark.hasErrors
  rw [List.any_append, List.any_append]
  -- no text fails without a report: it was no label, its root was lost, or it was not compiled
  rcases htext with (hinvalid | hlost) | huncompiled
  · have herror : ((invalidTexts texts).map RootLabel.invalid).any Diagnostic.isError = true :=
      List.any_eq_true.mpr ⟨_, List.mem_map_of_mem hinvalid, rfl⟩
    rw [herror, Bool.true_or, Bool.true_or]
  · obtain ⟨label, hlabel, -⟩ := List.mem_map.mp hlost
    have hmem : label ∈ labelsOf texts := h.roots ▸ (List.mem_filter.mp hlabel).1
    have herror := Gathering.hasErrors_news hlabel (hloads label hmem)
    unfold Waymark.hasErrors at herror
    rw [herror, Bool.or_true, Bool.true_or]
  · have herror := hasErrors_of_uncompiled huncompiled
    unfold Waymark.hasErrors at herror
    rw [herror, Bool.or_true]

end Checked

/-! ## Main result -/

/-- **Every root is accounted for once.** Of the texts that a run with a result was given, one
    that is no label fails as often as it was given, and of the labels among the others, in
    order of first occurrence, each is that of one output or fails once, not both. The outputs
    are in the order of their labels, each has a file of its own, and when a run writes, each
    of these files is written or left alone, once. Nothing fails without an error. To check
    only gives the same outputs, failures and diagnostics and leaves all files as they are. -/
theorem run_accounts_for_all (h : (run w settings r).1 = .ok g) :
    (∀ given, RootLabel.parse? given = none → g.failed.count given = r.roots.count given) ∧
    g.roots = (r.roots.filterMap RootLabel.parse?).eraseDups ∧
    (∀ label ∈ g.roots,
      (g.outputs.map RootLabel.ofModule).count label.text + g.failed.count label.text = 1) ∧
    (∀ text ∈ g.failed, RootLabel.parse? text = none ∨ text ∈ g.roots.map RootLabel.text) ∧
    (g.outputs.map RootLabel.ofModule).Sublist (g.roots.map RootLabel.text) ∧
    (g.outputs.map ClientModule.filename).Nodup ∧
    (r.writes = true → ∃ out, g.out = some out ∧
      (g.written ++ g.unchanged).Perm (g.outputs.map fun m => out.child m.filename) ∧
      (g.written ++ g.unchanged).Nodup) ∧
    (g.failed ≠ [] → g.isOk = false) ∧
    ∃ g', run w settings { r with writes := false } = (.ok g', w.files) ∧
      g'.roots = g.roots ∧ g'.outputs = g.outputs ∧ g'.failed = g.failed ∧
      g'.diagnostics = g.diagnostics ∧ g'.written = [] ∧ g'.unchanged = [] := by
  obtain ⟨plan, hplan, hcarries, hwrite⟩ := exists_plan_of_run h
  have hplanned := plannedFor_of_ofRequest hplan
  have hchecked := hplanned.checked
  rw [hcarries.roots, hcarries.outputs, hcarries.failed]
  refine ⟨fun given => hchecked.count_invalid, hchecked.roots, fun label => hchecked.count_label,
    ?_, hchecked.ofModule_sublist, hchecked.nodup_filename, ?_, ?_, ?_⟩
  · intro text htext
    apply (hchecked.mem_of_failed htext).imp_left
    intro hinvalid
    exact Option.isNone_iff_eq_none.mp (List.mem_filter.mp hinvalid).2
  · intro hwrites
    obtain ⟨out, -, hwritten⟩ := hwrite hwrites
    obtain ⟨-, hout, -, hpaths⟩ := carries_of_writeTo hwritten
    refine ⟨out, hout, hpaths, hpaths.nodup_iff.mpr ?_⟩
    -- different file names make different paths
    have hapart := hchecked.nodup_filename.map (f := out.child) (fun name name' hsame => by
      simpa [Path.child] using hsame)
    rwa [List.map_map] at hapart
  · intro hfailed
    unfold isOk
    rw [hcarries.diagnostics, hchecked.hasErrors hplanned.loads hfailed]
    rfl
  · have hcheckOnly : ofRequest w settings { r with writes := false } = .ok plan := by
      have hout : outOf w { r with writes := false } = .ok plan.out := by
        have hknown := hplanned.out
        unfold outOf at hknown ⊢
        cases hgiven : r.out with
        | some given => simpa [hgiven] using hknown
        | none =>
          by_cases hwrites : r.writes = true
          · simp [hgiven, hwrites] at hknown
          · simpa [hgiven, hwrites] using hknown
      rw [← hplan]
      unfold ofRequest
      rw [hout, hplanned.out]
    exact ⟨plan, run_of_not_writes hcheckOnly rfl, rfl, rfl, rfl, hcarries.diagnostics.symm,
      hchecked.written, hchecked.unchanged⟩

theorem run_accounts_for_all_sample :
    ∃ g, (run Sample.workspace {} Sample.asked).1 = .ok g ∧
      g.failed.count "nope" = 1 ∧
      g.roots = [⟨"app.api", "A"⟩, ⟨"app.api", "B"⟩, ⟨"gone", "C"⟩] ∧
      (∀ label ∈ g.roots,
        (g.outputs.map RootLabel.ofModule).count label.text + g.failed.count label.text = 1) ∧
      (g.outputs.map RootLabel.ofModule).Sublist (g.roots.map RootLabel.text) ∧
      (∃ out, g.out = some out ∧
        (g.written ++ g.unchanged).Perm (g.outputs.map fun m => out.child m.filename)) ∧
      g.isOk = false ∧
      ∃ g', run Sample.workspace {} { Sample.asked with writes := false }
          = (.ok g', Sample.workspace.files) ∧ g'.outputs = g.outputs := by
  obtain ⟨g, hg⟩ := Sample.exists_run_asked
  obtain ⟨hinvalid, hroots, honce, -, horder, -, hpaths, hfailed, g', hcheck, -, houtputs, -⟩ :=
    run_accounts_for_all hg
  have hnope : g.failed.count "nope" = 1 := by
    rw [hinvalid "nope" (by cbv)]
    decide
  obtain ⟨out, hout, hlisted, -⟩ := hpaths rfl
  have hnonempty : g.failed ≠ [] := by
    intro hnil
    rw [hnil] at hnope
    cases hnope
  exact ⟨g, hg, hnope, hroots.trans Sample.labelsOf_asked, honce, horder, ⟨out, hout, hlisted⟩,
    hfailed hnonempty, g', hcheck, houtputs⟩

end Generation

end Waymark

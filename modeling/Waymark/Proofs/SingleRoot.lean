import Waymark.Proofs.RunOutcome

/-! # A single root

    The root of one text can be asked for in two ways: it is compiled alone
    (`ClientRoot.ofText`), or a run checks a list that holds only that text. The first goes
    straight through the stages. The second gathers labels and modules and divides the roots
    into outputs and failures.

    Whatever the files are, both come to the same (`Concur`): at each stage where the first
    ends without a client, the list has one failure and the same diagnostics. A client that the
    first hands back is the one that the only output is printed from.
-/

namespace Waymark

open Waymark.Client (ClientModule)
open Waymark.Files (Path Workspace)

/-- Two ways to ask for a root come to the same. -/
inductive Concur (transport : String) : Run (Report (Option ClientRoot)) → Run Generation → Prop where
  /-- Both end without a result, for the same reason. -/
  | broken (fault : RunFault) : Concur transport (.error fault) (.error fault)
  /-- There is no client, and the root is the only failure. -/
  | refused {report : Report (Option ClientRoot)} {g : Generation} (failure : String)
      (value : report.value = none) (outputs : g.outputs = []) (failed : g.failed = [failure])
      (diagnostics : g.diagnostics = report.diagnostics) : Concur transport (.ok report) (.ok g)
  /-- The client is printed to the only output, and there is no failure. -/
  | compiled {report : Report (Option ClientRoot)} {g : Generation} (client : ClientRoot)
      (m : ClientModule) (value : report.value = some client)
      (printed : Client.generate client transport = .ok m) (outputs : g.outputs = [m])
      (failed : g.failed = []) (diagnostics : g.diagnostics = report.diagnostics) :
      Concur transport (.ok report) (.ok g)

/-! ## One text -/

namespace Gathering

variable {given : String} {label : RootLabel}

theorem labelsOf_of_invalid (h : RootLabel.parse? given = none) :
    labelsOf [given] = [] ∧ invalidTexts [given] = [given] := by
  simp [labelsOf, invalidTexts, h]

theorem labelsOf_of_valid (h : RootLabel.parse? given = some label) :
    labelsOf [given] = [label] ∧ invalidTexts [given] = [] := by
  simp [labelsOf, invalidTexts, h, List.eraseDups_cons]

end Gathering

/-- A root on its own has no rivals. -/
theorem compileAll_singleton (r : RootRequest) :
    (compileAll [r]).value = r.compile.value.toList ∧
      (compileAll [r]).diagnostics = r.compile.diagnostics := by
  have hrivals : r.rivals [] [] = [] := rfl
  simp [compileAll, compileAllFrom, RootRequest.compileAmong, hrivals]

namespace Generation

open Gathering (labelsOf invalidTexts requestsOf lost news)

variable {w : Workspace} {search : List Path} {transport given : String} {label : RootLabel}
  {g : Generation} {fault : RunFault}

/-- The module of the only label ends the check. -/
theorem check_of_load_error (hparse : RootLabel.parse? given = some label)
    (hload : Descriptor.load w search label.module = .error fault) :
    check w [given] search transport = .error fault := by
  obtain ⟨hlabels, -⟩ := Gathering.labelsOf_of_valid hparse
  unfold check
  simp only [Gathering.labels_eq, hlabels, Gathering.ofLabels, List.foldlM_cons, Gathering.add,
    Gathering.reading, List.lookup_nil, hload, bind, Except.bind]

/-! ## Stage by stage -/

/-- A text that is no label. -/
theorem Checked.of_invalid (h : Checked w search transport [given] g)
    (hparse : RootLabel.parse? given = none) :
    g.outputs = [] ∧ g.failed = [given] ∧ g.diagnostics = [RootLabel.invalid given] := by
  obtain ⟨hlabels, hinvalid⟩ := Gathering.labelsOf_of_invalid hparse
  have hroots : g.roots = [] := h.roots.trans hlabels
  have houtputs := h.outputs
  have hfailed := h.failed
  have hdiagnostics := h.diagnostics
  rw [hroots] at houtputs hfailed hdiagnostics
  refine ⟨List.forall₂_nil_left_iff.mp houtputs, ?_, ?_⟩
  · rw [hfailed, hinvalid]
    rfl
  · rw [hdiagnostics, hinvalid]
    rfl

/-- A label whose root is not found. -/
theorem Checked.of_lost (h : Checked w search transport [given] g)
    (hparse : RootLabel.parse? given = some label)
    (hrequest : label.request? w search = none) :
    g.outputs = [] ∧ g.failed = [label.text] ∧
      g.diagnostics = (Descriptor.loaded w search label.module).diagnostics
        ++ label.complaints w search := by
  obtain ⟨hlabels, hinvalid⟩ := Gathering.labelsOf_of_valid hparse
  have hroots : g.roots = [label] := h.roots.trans hlabels
  have hrequests : requestsOf w search [label] = [] := by simp [requestsOf, hrequest]
  have houtputs := h.outputs
  have hfailed := h.failed
  have hdiagnostics := h.diagnostics
  rw [hroots, hrequests] at houtputs hfailed hdiagnostics
  refine ⟨List.forall₂_nil_left_iff.mp houtputs, ?_, ?_⟩
  · rw [hfailed, hinvalid]
    simp [lost, hrequest, uncompiled]
  · rw [hdiagnostics, hinvalid]
    simp [news, compileAll, compileAllFrom]

/-- A label whose root is found and compiled alone. -/
theorem Checked.of_request (h : Checked w search transport [given] g)
    (hparse : RootLabel.parse? given = some label) {r : RootRequest}
    (hrequest : label.request? w search = some r) :
    List.Forall₂ (fun c m => Client.generate c transport = .ok m) r.compile.value.toList
        g.outputs ∧
      g.failed = (if r.compile.value.isSome then [] else [label.text]) ∧
      g.diagnostics = (Descriptor.loaded w search label.module).diagnostics
        ++ label.complaints w search ++ r.compile.diagnostics := by
  obtain ⟨hlabels, hinvalid⟩ := Gathering.labelsOf_of_valid hparse
  have hroots : g.roots = [label] := h.roots.trans hlabels
  have hrequests : requestsOf w search [label] = [r] := by simp [requestsOf, hrequest]
  obtain ⟨hvalue, hreported⟩ := compileAll_singleton r
  have houtputs := h.outputs
  have hfailed := h.failed
  have hdiagnostics := h.diagnostics
  rw [hroots, hrequests, hvalue] at houtputs hfailed
  rw [hroots, hrequests, hreported] at hdiagnostics
  refine ⟨houtputs, ?_, ?_⟩
  · -- the request goes by the label, and so does its client
    have hname := RootLabel.ofRequest_of_request? hrequest
    rw [hfailed, hinvalid]
    cases hcompiled : r.compile.value with
    | none => simp [lost, hrequest, uncompiled, hname]
    | some client =>
      obtain ⟨hmodule, hroot⟩ := RootRequest.names_of_compile_eq_some hcompiled
      have hclient : RootLabel.ofClient client = RootLabel.ofRequest r := by
        unfold RootLabel.ofClient RootLabel.ofRequest
        rw [hmodule, hroot]
      simp [lost, hrequest, uncompiled, hclient]
  · rw [hdiagnostics, hinvalid]
    simp [news]

/-! ## Both ways -/

/-- A root whose module can be read, compiled alone and in a list of its own. -/
theorem Checked.concur (h : Checked w search transport [given] g)
    (hloads : ∀ label, RootLabel.parse? given = some label →
      Descriptor.Loads w search label.module) :
    Concur transport (ClientRoot.ofText w search given) (.ok g) := by
  unfold ClientRoot.ofText
  -- one case for each stage at which the root can be given up
  cases hparse : RootLabel.parse? given with
  | none =>
    obtain ⟨houtputs, hfailed, hdiagnostics⟩ := h.of_invalid hparse
    exact .refused given rfl houtputs hfailed hdiagnostics
  | some label =>
    simp only [(hloads label hparse).load_eq, bind, Except.bind]
    cases hvalue : (Descriptor.loaded w search label.module).value with
    | none =>
      have hrequest : label.request? w search = none := by simp [RootLabel.request?, hvalue]
      obtain ⟨houtputs, hfailed, hdiagnostics⟩ := h.of_lost hparse hrequest
      refine .refused label.text rfl houtputs hfailed ?_
      simp [hdiagnostics, RootLabel.complaints, hvalue]
    | some d =>
      dsimp only
      cases hroot : d.root? label.name with
      | none =>
        have hrequest : label.request? w search = none := by
          simp [RootLabel.request?, hvalue, hroot]
        obtain ⟨houtputs, hfailed, hdiagnostics⟩ := h.of_lost hparse hrequest
        refine .refused label.text rfl houtputs hfailed ?_
        simp [hdiagnostics, RootLabel.complaints, hvalue, hroot]
      | some e =>
        have hrequest : label.request? w search = some { endpoint := e, scope := d.scope } := by
          simp [RootLabel.request?, hvalue, hroot]
        have hcomplaints : label.complaints w search = [] := by
          simp [RootLabel.complaints, hvalue, hroot]
        obtain ⟨houtputs, hfailed, hdiagnostics⟩ := h.of_request hparse hrequest
        obtain ⟨hcompiled, hreported⟩ := compileAll_singleton { endpoint := e, scope := d.scope }
        rw [hcomplaints, List.append_nil, ← hreported] at hdiagnostics
        cases hclient : (RootRequest.compile { endpoint := e, scope := d.scope }).value with
        | none =>
          rw [hclient] at houtputs hfailed hcompiled
          refine .refused label.text ?_ (List.forall₂_nil_left_iff.mp houtputs) hfailed
            hdiagnostics
          simp [hcompiled]
        | some client =>
          rw [hclient] at houtputs hfailed hcompiled
          obtain ⟨m, ms, hprinted, hnone, hms⟩ := List.forall₂_cons_left_iff.mp houtputs
          obtain rfl := List.forall₂_nil_left_iff.mp hnone
          refine .compiled client m ?_ hprinted hms hfailed hdiagnostics
          simp [hcompiled]

/-- **A single root comes to the same alone and in a list.** For all files, settings, source
    directories and texts, compiling the root of a text and checking a list with only that text
    either both end for the same reason, or report the same in the same order. There is a client
    exactly if the check has an output and no failure, and then the only output is what is
    printed from that client. The check leaves the files alone. -/
theorem ofText_concurs_with_check (w : Workspace) (settings : Settings)
    (search : Option (List Path)) (transport : Option String) (given : String) :
    ∃ outcome,
      run w settings { roots := [given], search, transport, writes := false }
        = (outcome, w.files) ∧
      Concur (transportOf settings transport)
        (ClientRoot.ofText w (searchOf settings search) given) outcome := by
  let r : Request := { roots := [given], search, transport, writes := false }
  -- only a module that cannot be loaded ends the check without a result
  by_cases hloads : ∀ label, RootLabel.parse? given = some label →
      Descriptor.Loads w (searchOf settings search) label.module
  · have hall : AllLoad w settings r := by
      intro label hlabel
      obtain ⟨text, htext, hparse⟩ := Gathering.mem_labelsOf_iff.mp hlabel
      rw [List.mem_singleton.mp htext] at hparse
      exact hloads label hparse
    have hout : outOf w r = .ok none := rfl
    obtain ⟨plan, hplan⟩ := (exists_plan_iff hout).mpr hall
    exact ⟨.ok plan, run_of_not_writes hplan rfl,
      (plannedFor_of_ofRequest hplan).checked.concur hloads⟩
  · obtain ⟨label, hlabel⟩ := not_forall.mp hloads
    obtain ⟨hparse, hfails⟩ := Classical.not_imp.mp hlabel
    cases hload : Descriptor.load w (searchOf settings search) label.module with
    | ok report => exact absurd ⟨report, hload⟩ hfails
    | error fault =>
      refine ⟨.error fault, ?_, ?_⟩
      · have hplan : ofRequest w settings r = .error fault := by
          unfold ofRequest
          simp only [outOf, r, bind, Except.bind]
          rw [check_of_load_error hparse hload]
          rfl
        unfold run
        rw [hplan]
      · have hsingle : ClientRoot.ofText w (searchOf settings search) given = .error fault := by
          unfold ClientRoot.ofText
          simp only [hparse, hload, bind, Except.bind]
        rw [hsingle]
        exact .broken fault

end Generation

end Waymark

import Waymark.Proofs.Gathering
import Waymark.Proofs.Independence
import Waymark.Proofs.Writing

/-! # When a run hands back a result

    A run first makes a plan, which is what a check hands back (`Generation.ofRequest`). Then
    it may write the outputs of the plan.

    * There is a plan if and only if the output directory is known and each module could be
      read (`Generation.exists_plan_iff`).
    * The outputs can be written if and only if the path of each can be followed and each file
      that is there is text (`Generation.exists_writeTo_iff`).
    * Writing adds to the plan where the outputs went, and nothing else
      (`Generation.Carries`).
-/

namespace Waymark

open Waymark.Client (ClientModule)
open Waymark.Files (Path Tree Workspace)

namespace Generation

open Gathering (labelsOf requestsOf)

variable {w : Workspace} {search : List Path} {transport : String} {texts : List String}
  {settings : Settings} {r : Request} {g g' plan : Generation} {out : Path} {files : Tree}

/-! ## Plans -/

/-- The modules of all labels of a request can be read. -/
def AllLoad (w : Workspace) (settings : Settings) (r : Request) : Prop :=
  ∀ label ∈ labelsOf r.roots, Descriptor.Loads w (searchOf settings r.search) label.module

/-- A plan is what a check hands back, with the output directory. -/
structure PlannedFor (w : Workspace) (settings : Settings) (r : Request) (plan : Generation) :
    Prop where
  checked : Checked w (searchOf settings r.search) (transportOf settings r.transport) r.roots plan
  out : outOf w r = .ok plan.out
  loads : AllLoad w settings r

theorem plannedFor_of_ofRequest (h : ofRequest w settings r = .ok plan) :
    PlannedFor w settings r plan := by
  unfold ofRequest at h
  cases hout : outOf w r with
  | error fault => simp [hout, bind, Except.bind] at h
  | ok out =>
    cases hcheck : check w r.roots (searchOf settings r.search)
        (transportOf settings r.transport) with
    | error fault => simp [hout, hcheck, bind, Except.bind] at h
    | ok g =>
      simp only [hout, hcheck, bind, Except.bind, pure, Except.pure, Except.ok.injEq] at h
      subst h
      have hchecked := checked_of_check hcheck
      exact ⟨⟨hchecked.roots, hchecked.outputs, hchecked.failed, hchecked.diagnostics,
        hchecked.written, hchecked.unchanged, hchecked.writes⟩, hout, loads_of_check hcheck⟩

/-- There is a plan exactly if each module can be read. -/
theorem exists_plan_iff {given : Option Path} (hout : outOf w r = .ok given) :
    (∃ plan, ofRequest w settings r = .ok plan) ↔ AllLoad w settings r := by
  constructor
  · rintro ⟨plan, hplan⟩
    exact (plannedFor_of_ofRequest hplan).loads
  · intro hloads
    obtain ⟨g, hcheck, -⟩ : ∃ g, check w r.roots (searchOf settings r.search)
        (transportOf settings r.transport) = .ok g ∧ _ := check_eq hloads
    refine ⟨{ g with out := given }, ?_⟩
    unfold ofRequest
    simp only [hout, hcheck, bind, Except.bind, pure, Except.pure]

/-! ## The files of the outputs -/

/-- The file of an output is called after the root of one of the labels. -/
theorem Checked.exists_label (h : Checked w search transport texts g) {m : ClientModule}
    (hm : m ∈ g.outputs) :
    ∃ label ∈ g.roots, m.filename = Client.moduleName label.name ++ ".py" := by
  obtain ⟨client, hclient, hgenerate⟩ := exists_left_of_forall₂ h.outputs hm
  obtain ⟨request, hrequest, hcompiled⟩ := exists_request hclient
  obtain ⟨label, hlabel, hof⟩ := List.mem_filterMap.mp hrequest
  refine ⟨label, hlabel, ?_⟩
  rw [(Client.filename_of_generate hgenerate).2.2,
    (RootRequest.names_of_compile_eq_some hcompiled).2, (RootLabel.names_of_request? hof).2]

/-- The file of an output has a name of its own. -/
theorem Checked.filename_ne_upward (h : Checked w search transport texts g) {m : ClientModule}
    (hm : m ∈ g.outputs) : m.filename ≠ Files.upward := by
  obtain ⟨label, -, hname⟩ := h.exists_label hm
  rw [hname]
  intro hup
  -- the last characters differ
  have hlast := congrArg (fun s => s.toList.getLast?) hup
  simp [Files.upward] at hlast

theorem Checked.nodup_filename (h : Checked w search transport texts g) :
    (g.outputs.map ClientModule.filename).Nodup :=
  Waymark.nodup_filename (mapM_of_forall₂ g.outputs h.outputs)

/-- The outputs can be written exactly if the path of each can be followed and each file that is
    there is text. -/
theorem exists_writeTo_iff (h : Checked w search transport texts g)
    (hmake : w.makeDirectories out = .ok files)
    (hfree : ∀ m ∈ g.outputs, files.isDirectory w.current (out.child m.filename) ≠ .ok true) :
    (∃ g', (writeTo w out g).1 = .ok g') ↔
      ∀ m ∈ g.outputs, files.IsText w.current (out.child m.filename) := by
  obtain ⟨-, hmade⟩ := makeDirectories_eq_ok_iff.mp hmake
  obtain ⟨place, hplace, hdirectory⟩ :=
    Tree.isDirectory_iff.mp (Tree.isDirectory_of_makeDirectories hmade)
  have hfits : ∀ m ∈ g.outputs, Writing.Fits w.current out place files m := fun m hm =>
    ⟨hplace, hdirectory, h.filename_ne_upward hm, hfree m hm⟩
  have hwrite : (∃ g', (writeTo w out g).1 = .ok g') ↔
      ∃ s, (Writing.putAll w.current out { files } g.outputs).1 = .ok s := by
    unfold writeTo
    simp only [hmake]
    cases (Writing.putAll w.current out { files } g.outputs).1 <;> simp [Except.map]
  rw [hwrite]
  exact Writing.exists_putAll_iff hfits h.nodup_filename

/-! ## Results -/

/-- A result says of the roots what the plan says of them. -/
structure Carries (plan g : Generation) : Prop where
  roots : g.roots = plan.roots
  outputs : g.outputs = plan.outputs
  failed : g.failed = plan.failed
  diagnostics : g.diagnostics = plan.diagnostics

theorem carries_of_writeTo (h : (writeTo w out plan).1 = .ok g) :
    Carries plan g ∧ g.out = some out ∧ g.writes = true ∧
      (g.written ++ g.unchanged).Perm (plan.outputs.map fun m => out.child m.filename) := by
  unfold writeTo at h
  cases hmake : w.makeDirectories out with
  | error fault => simp [hmake] at h
  | ok files =>
    simp only [hmake] at h
    cases hput : (Writing.putAll w.current out { files } plan.outputs).1 with
    | error fault => simp [hput, Except.map] at h
    | ok s =>
      have hpaths := Writing.paths_of_putAll hput
      simp only [hput, Except.map, Except.ok.injEq] at h
      subst h
      exact ⟨⟨rfl, rfl, rfl, rfl⟩, rfl, rfl, by simpa using hpaths⟩

/-- A run that is only to check hands back its plan. -/
theorem run_of_not_writes (hplan : ofRequest w settings r = .ok plan) (hwrites : r.writes = false) :
    run w settings r = (.ok plan, w.files) := by
  unfold run
  rw [hplan]
  cases hout : plan.out <;> simp [hwrites]

/-- A run that is to write does so with its plan. -/
theorem run_of_writes (hplan : ofRequest w settings r = .ok plan) (hout : plan.out = some out)
    (hwrites : r.writes = true) : run w settings r = writeTo w out plan := by
  unfold run
  rw [hplan]
  simp [hwrites, hout]

/-- A run that is to write has an output directory. -/
theorem exists_out (h : PlannedFor w settings r plan) (hwrites : r.writes = true) :
    ∃ out, plan.out = some out := by
  have hout := h.out
  unfold outOf at hout
  cases hgiven : r.out with
  | none => simp [hgiven, hwrites] at hout
  | some given =>
    rw [hgiven] at hout
    cases hexpand : w.expand given with
    | error fault => simp [hexpand, Except.map, Except.mapError] at hout
    | ok p => exact ⟨p, by simpa [hexpand, Except.map, Except.mapError] using hout.symm⟩

/-- A result comes of a plan. -/
theorem exists_plan_of_run (h : (run w settings r).1 = .ok g) :
    ∃ plan, ofRequest w settings r = .ok plan ∧ Carries plan g ∧
      (r.writes = true → ∃ out, plan.out = some out ∧ (writeTo w out plan).1 = .ok g) := by
  cases hplan : ofRequest w settings r with
  | error fault =>
    unfold run at h
    simp [hplan] at h
  | ok plan =>
    refine ⟨plan, rfl, ?_⟩
    -- only a run that writes does more than its plan
    by_cases hwrites : r.writes = true
    · obtain ⟨out, hout⟩ := exists_out (plannedFor_of_ofRequest hplan) hwrites
      rw [run_of_writes hplan hout hwrites] at h
      exact ⟨(carries_of_writeTo h).1, fun _ => ⟨out, hout, h⟩⟩
    · rw [run_of_not_writes hplan (by simpa using hwrites)] at h
      obtain rfl : plan = g := Except.ok.inj h
      exact ⟨⟨rfl, rfl, rfl, rfl⟩, fun hw => absurd hw hwrites⟩

/-! ## Exactly when there is a result -/

/-- The output directory of a request is known and can be made, and none of the output files is
    a directory. -/
structure Writable (w : Workspace) (settings : Settings) (r : Request) (out : Path)
    (files : Tree) : Prop where
  known : outOf w r = .ok (some out)
  made : w.makeDirectories out = .ok files
  free : ∀ plan, ofRequest w settings r = .ok plan → ∀ m ∈ plan.outputs,
    files.isDirectory w.current (out.child m.filename) ≠ .ok true

/-- The path of each output can be followed, being short enough, and each output file that is
    there already is text. -/
def OutputsReadable (w : Workspace) (settings : Settings) (r : Request) (out : Path)
    (files : Tree) : Prop :=
  ∀ plan, ofRequest w settings r = .ok plan → ∀ m ∈ plan.outputs,
    files.IsText w.current (out.child m.filename)

/-- A run has a result exactly if each module can be read and, when it writes, the path of each
    output can be followed and each output file that is there is text. -/
theorem exists_run_iff (h : Writable w settings r out files) :
    (∃ g, (run w settings r).1 = .ok g) ↔
      AllLoad w settings r ∧ (r.writes = true → OutputsReadable w settings r out files) := by
  by_cases hloads : AllLoad w settings r
  · obtain ⟨plan, hplan⟩ := (exists_plan_iff h.known).mpr hloads
    have hplanned := plannedFor_of_ofRequest hplan
    have hout : plan.out = some out := Except.ok.inj (hplanned.out.symm.trans h.known)
    -- there is only one plan, so what holds of every plan holds of this one
    have hold : OutputsReadable w settings r out files ↔
        ∀ m ∈ plan.outputs, files.IsText w.current (out.child m.filename) := by
      constructor
      · intro htext
        exact htext plan hplan
      · intro htext plan' hplan'
        obtain rfl : plan = plan' := Except.ok.inj (hplan.symm.trans hplan')
        exact htext
    by_cases hwrites : r.writes = true
    · rw [run_of_writes hplan hout hwrites,
        exists_writeTo_iff hplanned.checked h.made (h.free plan hplan), hold]
      exact ⟨fun htext => ⟨hloads, fun _ => htext⟩, fun htext => htext.2 hwrites⟩
    · rw [run_of_not_writes hplan (by simpa using hwrites)]
      exact ⟨fun _ => ⟨hloads, fun hw => absurd hw hwrites⟩, fun _ => ⟨plan, rfl⟩⟩
  · constructor
    · rintro ⟨g, hg⟩
      obtain ⟨plan, hplan, -⟩ := exists_plan_of_run hg
      exact absurd (plannedFor_of_ofRequest hplan).loads hloads
    · intro hall
      exact absurd hall.1 hloads

end Generation

/-! ## A short workspace

    The short source of a module, and beside it a file that is no text. It shows that there are
    runs with a result and runs without one. -/

namespace Sample

/-- A byte that begins no character. -/
def strayByte : ByteArray :=
  ⟨#[0xff]⟩

def workspace : Workspace :=
  { files := { nodes := [(["app"], .directory), (["app", "api.py"], .file source.toUTF8),
      (["app", "broken.py"], .file strayByte)] }
    width := 240 }

def search : List Path :=
  [Path.ofText "."]

theorem textOf?_source : Tree.textOf? source.toUTF8 = some source := by
  have hchars : source.toList = _ :=
    Text.toList_append_eq String.toList_ofList String.toList_ofList
  have hplain : source.toList.contains '\r' = false :=
    (congrArg (List.contains · '\r') hchars).trans (by cbv)
  exact Tree.textOf?_toUTF8 (by simpa using hplain)

/-- The module of the source can be read. -/
theorem loads_api : Descriptor.Loads workspace search "app.api" := by
  have hfound : workspace.findModule "app.api" search
      = .ok (some { module := "app.api", place := ["app", "api.py"], isPackage := false }) := rfl
  refine Descriptor.loads_iff.mpr ⟨_, hfound, ?_⟩
  intro file hfile octets hread
  obtain rfl := Option.some.inj hfile
  obtain rfl : source.toUTF8 = octets := Except.ok.inj hread
  obtain ⟨report, hreport, -⟩ := exists_report ""
  exact ⟨source, textOf?_source, Descriptor.exists_report_iff.mp ⟨report, hreport⟩⟩

/-- A module that is nowhere is reported. -/
theorem loads_gone : Descriptor.Loads workspace search "gone" :=
  Descriptor.loads_iff.mpr ⟨none, rfl, fun _ hfile => by cases hfile⟩

/-- A request for the root of the source, twice, and for others that come to nothing. -/
def asked : Generation.Request :=
  { roots := ["nope", " app.api:A", "app.api:A", "app.api:B", "gone:C"]
    out := some (Path.ofText "out") }

theorem labelsOf_asked : Gathering.labelsOf asked.roots
    = [⟨"app.api", "A"⟩, ⟨"app.api", "B"⟩, ⟨"gone", "C"⟩] := by
  cbv

theorem allLoad_asked : Generation.AllLoad workspace {} asked := by
  intro label hlabel
  rw [labelsOf_asked] at hlabel
  fin_cases hlabel
  · exact loads_api
  · exact loads_api
  · exact loads_gone

/-- The files with the output directory, in which nothing is. -/
def filesMade : Tree :=
  workspace.files.set ["out"] .directory

theorem node?_filesMade (name : String) : filesMade.node? ["out", name] = none := by
  rfl

/-- The path of each output that there may be can be followed. -/
theorem place_output {plan : Generation} (hplan : Generation.ofRequest workspace {} asked = .ok plan)
    {m : ClientModule} (hm : m ∈ plan.outputs) :
    filesMade.place [] ((Path.ofText "out").child m.filename) = .ok ["out", m.filename] := by
  have hchecked := (Generation.plannedFor_of_ofRequest hplan).checked
  obtain ⟨label, hlabel, hname⟩ := hchecked.exists_label hm
  rw [hchecked.roots, labelsOf_asked] at hlabel
  rw [hname]
  fin_cases hlabel <;> decide

theorem writable_asked : Generation.Writable workspace {} asked (Path.ofText "out") filesMade where
  known := rfl
  made := rfl
  free := by
    intro plan hplan m hm hdirectory
    obtain ⟨place, hplace, hnode⟩ := Tree.isDirectory_iff.mp hdirectory
    obtain rfl : ["out", m.filename] = place :=
      Except.ok.inj ((place_output hplan hm).symm.trans hplace)
    rw [node?_filesMade] at hnode
    cases hnode

theorem outputsReadable_asked :
    Generation.OutputsReadable workspace {} asked (Path.ofText "out") filesMade := by
  intro plan hplan m hm
  apply (Tree.isText_iff (place_output hplan hm)).mpr
  intro octets hoctets
  simp [Tree.octetsAt?, node?_filesMade] at hoctets

theorem exists_run_asked : ∃ g, (Generation.run workspace {} asked).1 = .ok g :=
  (Generation.exists_run_iff writable_asked).mpr ⟨allLoad_asked, fun _ => outputsReadable_asked⟩

end Sample

end Waymark

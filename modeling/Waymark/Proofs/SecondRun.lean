import Waymark.Proofs.DiskContent

/-! # Running again

    A run that is repeated on the files that it left comes to the same, provided that nothing
    was written where one of its modules is looked for.

    * Looking for a module asks at some places whether there is a file
      (`Workspace.probed`). If nothing has changed there, the module is found where it was and
      reads as it did (`Descriptor.load_again`), so the plan is the same
      (`Generation.ofRequest_congr`).
    * Asking is an error where a name is too long for the directory that is asked for it. A run
      may make that directory, so a place may be asked for in one run and not in the next
      (`Generation.Askable`).
    * The output directory is there. The file of each output holds what the first run left
      (`Generation.Wrote.stands_files`), which is the text of the output unless that has a
      carriage return in it: such a text never reads back, and its file is written again, with
      the same bytes (`Generation.Wrote.again`).

    A path segment may bring a carriage return into the text of a client (`Sample.Carriage`).
-/

namespace Waymark

open Waymark.Client (ClientModule)
open Waymark.Files
open Waymark.Grammar (Expr Statement parseModule)

namespace Files

/-! ## Where modules are looked for -/

namespace Workspace

/-- The candidates that are looked at: up to the first that is there. -/
def lookedAt (w : Workspace) : List ModuleFile → List ModuleFile
  | [] => []
  | s :: rest => s :: if w.files.isFileAt s.place then [] else w.lookedAt rest

/-- The candidates that are looked at below some directories. -/
def probedIn (w : Workspace) (module : String) : List Path → List ModuleFile
  | [] => []
  | p :: rest =>
    match w.resolve p with
    | .error _ => []
    | .ok base =>
      w.lookedAt (candidates base module (Text.dottedParts module)) ++
        match w.firstFile (candidates base module (Text.dottedParts module)) with
        | .ok none => w.probedIn module rest
        | _ => []

/-- The candidates that are looked at for a module. -/
def probed (w : Workspace) (module : String) (search : List Path) : List ModuleFile :=
  if Text.isDottedName module then w.probedIn module search else []

variable {w : Workspace} {files : Tree} {module : String} {search : List Path}
  {cs : List ModuleFile} {found : Option ModuleFile}

/-- The first candidate that is there was looked at, and could be asked for. -/
theorem spec_of_firstFile {s : ModuleFile} (h : w.firstFile cs = .ok (some s)) :
    s ∈ w.lookedAt cs ∧ w.files.isFileAt s.place = true ∧ w.files.bars s.place = false := by
  induction cs with
  | nil => cases h
  | cons c rest ih =>
    unfold firstFile Tree.askAt at h
    by_cases hbars : w.files.bars c.place = true
    · simp [hbars, Except.mapError, bind, Except.bind] at h
    · simp only [hbars, Bool.false_eq_true, if_false, Except.mapError, bind, Except.bind] at h
      by_cases hthere : w.files.isFileAt c.place = true
      · simp only [hthere, if_true, pure, Except.pure, Except.ok.injEq, Option.some.injEq] at h
        subst h
        exact ⟨List.mem_cons_self, hthere, by simpa using hbars⟩
      · simp only [hthere, Bool.false_eq_true, if_false] at h
        obtain ⟨hmem, hfile, hopen⟩ := ih h
        refine ⟨?_, hfile, hopen⟩
        -- the candidate was looked at, and there was nothing
        rw [lookedAt, if_neg hthere]
        exact List.mem_cons_of_mem _ hmem

/-- Among other files the same candidate is the first if each that was looked at can be asked
    for, and otherwise none is found. -/
theorem firstFile_again (h : w.firstFile cs = .ok found)
    (hsame : ∀ s ∈ w.lookedAt cs, files.isFileAt s.place = w.files.isFileAt s.place) :
    ((∀ s ∈ w.lookedAt cs, files.bars s.place = false) →
      { w with files }.firstFile cs = .ok found) ∧
    ((∃ s ∈ w.lookedAt cs, files.bars s.place = true) →
      ∃ fault, { w with files }.firstFile cs = .error fault) := by
  induction cs with
  | nil => exact ⟨fun _ => h, by simp [lookedAt]⟩
  | cons c rest ih =>
    have hfirst := hsame c List.mem_cons_self
    unfold firstFile Tree.askAt at h ⊢
    -- the first search did not end here, so the old tree does not bar the candidate
    by_cases hbars : w.files.bars c.place = true
    · simp [hbars, Except.mapError, bind, Except.bind] at h
    simp only [hbars, Bool.false_eq_true, if_false, Except.mapError, bind, Except.bind] at h
    rw [lookedAt] at hsame ⊢
    by_cases hagain : files.bars c.place = true
    · -- the search ends here, with an error
      refine ⟨fun hopen => ?_, fun _ => ?_⟩
      · rw [hopen c List.mem_cons_self] at hagain
        cases hagain
      · simp [hagain, Except.mapError, bind, Except.bind]
    · simp only [hagain, Bool.false_eq_true, if_false, Except.mapError, bind, Except.bind, hfirst]
      by_cases hthere : w.files.isFileAt c.place = true
      -- the file is found at this candidate; none that follows is looked at
      · simp only [hthere, if_true] at h ⊢
        refine ⟨fun _ => h, ?_⟩
        rintro ⟨s, hs, hbarred⟩
        rw [List.mem_singleton.mp hs] at hbarred
        exact absurd hbarred hagain
      · simp only [hthere, Bool.false_eq_true, if_false] at h hsame ⊢
        obtain ⟨hok, herror⟩ := ih h fun s hs => hsame s (List.mem_cons_of_mem _ hs)
        refine ⟨fun hopen => hok fun s hs => hopen s (List.mem_cons_of_mem _ hs), ?_⟩
        rintro ⟨s, hs, hbarred⟩
        rcases List.mem_cons.mp hs with rfl | hs
        · exact absurd hbarred hagain
        · exact herror ⟨s, hs, hbarred⟩

/-- What is found below some directories was looked at, and could be asked for. -/
theorem spec_of_searchModule {s : ModuleFile} (h : w.searchModule module search = .ok (some s)) :
    s ∈ w.probedIn module search ∧ w.files.isFileAt s.place = true ∧
      w.files.bars s.place = false := by
  induction search with
  | nil => cases h
  | cons p rest ih =>
    unfold searchModule at h
    unfold probedIn
    cases hbase : w.resolve p with
    | error fault => simp [hbase, bind, Except.bind] at h
    | ok base =>
      simp only [hbase, bind, Except.bind] at h
      cases hfirst : w.firstFile (candidates base module (Text.dottedParts module)) with
      | error fault => simp [hfirst] at h
      | ok first =>
        cases first with
        | some c =>
          simp only [hfirst, pure, Except.pure, Except.ok.injEq, Option.some.injEq] at h
          subst h
          obtain ⟨hmem, hfile, hopen⟩ := spec_of_firstFile hfirst
          exact ⟨List.mem_append_left _ hmem, hfile, hopen⟩
        -- nothing below this root, so it was found below a later one
        | none =>
          simp only [hfirst] at h
          obtain ⟨hmem, hfile, hopen⟩ := ih h
          simp only [hfirst]
          exact ⟨List.mem_append_right _ hmem, hfile, hopen⟩

/-- Among other files a module is found where it was if each place where it was looked for can
    be asked for, and otherwise the search ends with an error. -/
theorem searchModule_again (h : w.searchModule module search = .ok found)
    (hsame : ∀ s ∈ w.probedIn module search, files.isFileAt s.place = w.files.isFileAt s.place) :
    ((∀ s ∈ w.probedIn module search, files.bars s.place = false) →
      { w with files }.searchModule module search = .ok found) ∧
    ((∃ s ∈ w.probedIn module search, files.bars s.place = true) →
      ∃ fault, { w with files }.searchModule module search = .error fault) := by
  induction search with
  | nil => exact ⟨fun _ => h, by simp [probedIn]⟩
  | cons p rest ih =>
    have hresolve : Workspace.resolve { w with files } p = w.resolve p := rfl
    unfold searchModule at h ⊢
    rw [hresolve]
    cases hbase : w.resolve p with
    | error fault => simp [hbase, bind, Except.bind] at h
    | ok base =>
      simp only [hbase, bind, Except.bind] at h
      cases hfirst : w.firstFile (candidates base module (Text.dottedParts module)) with
      | error fault => simp [hfirst] at h
      | ok first =>
        simp only [probedIn, hbase, hfirst] at hsame ⊢
        obtain ⟨hok, herror⟩ := firstFile_again hfirst fun s hs =>
          hsame s (List.mem_append_left _ hs)
        simp only [bind, Except.bind]
        constructor
        · intro hopen
          rw [hok fun s hs => hopen s (List.mem_append_left _ hs)]
          cases first with
          | some c => simpa [hfirst] using h
          | none =>
            simp only [hfirst] at h
            exact (ih h fun s hs => hsame s (List.mem_append_right _ hs)).1
              fun s hs => hopen s (List.mem_append_right _ hs)
        · rintro ⟨s, hs, hbarred⟩
          -- the new tree bars a candidate below this root or below a later one
          by_cases hhere : ∃ c ∈ w.lookedAt (candidates base module (Text.dottedParts module)),
              files.bars c.place = true
          · obtain ⟨fault, hfault⟩ := herror hhere
            exact ⟨fault, by rw [hfault]⟩
          · rw [hok fun c hc => by simpa using fun hbars => hhere ⟨c, hc, hbars⟩]
            cases first with
            | some c =>
              rw [List.append_nil] at hs
              exact absurd ⟨s, hs, hbarred⟩ hhere
            | none =>
              simp only [hfirst] at h
              rcases List.mem_append.mp hs with hs | hs
              · exact absurd ⟨s, hs, hbarred⟩ hhere
              · exact (ih h fun s hs => hsame s (List.mem_append_right _ hs)).2 ⟨s, hs, hbarred⟩

end Workspace

/-! ## Files in their directories -/

/-- All that there is stands in a directory, and nothing is called like the way up. -/
structure Tree.Rooted (t : Tree) : Prop where
  above : ∀ entry ∈ t.nodes, t.isDirectoryAt entry.1.dropLast = true
  named : ∀ entry ∈ t.nodes, upward ∉ entry.1

namespace Tree

variable {t t' : Tree} {current place : Place}

theorem isFileAt_congr (h : t'.octetsAt? place = t.octetsAt? place) :
    t'.isFileAt place = t.isFileAt place := by
  unfold isFileAt
  rw [h]

theorem node?_eq_of_octetsAt? {octets : ByteArray} (h : t.octetsAt? place = some octets) :
    t.node? place = some (.file octets) := by
  unfold octetsAt? at h
  split at h
  · next found hnode => rw [hnode, Option.some.inj h]
  · cases h

/-- What stands in a tree is an entry, or the root. -/
theorem exists_entry {node : Node} {name : String}
    (h : t.node? (place ++ [name]) = some node) : (place ++ [name], node) ∈ t.nodes := by
  unfold node? at h
  split at h
  · next hnil => simp at hnil
  · obtain ⟨before, after, hnodes, -⟩ := List.lookup_eq_some_iff.mp h
    rw [hnodes]
    simp

/-- Following the names of something that is there fails only at a name that is too long. -/
theorem Rooted.walk_cases (h : t.Rooted) {node : Node} (hnode : t.node? place = some node) :
    t.walk [] place = .ok place ∨ t.walk [] place = .error .nameTooLong := by
  induction place using List.reverseRecOn generalizing node with
  | nil => exact .inl rfl
  | append_singleton init name ih =>
    have hentry := exists_entry hnode
    have habove := h.above _ hentry
    rw [List.dropLast_concat] at habove
    -- what holds an entry is a directory, so the walk gets as far as that
    have hdirectory : t.node? init = some .directory := by
      unfold isDirectoryAt at habove
      split at habove
      · assumption
      · cases habove
    -- no entry goes by the name that leads upward, so the last step goes down
    have hname : name ≠ upward := by
      rintro rfl
      exact h.named _ hentry (by simp)
    rcases ih hdirectory with hok | herror
    · rw [walk_concat name hok hdirectory]
      by_cases hlong : isLongName name = true
      · exact .inr (by rw [if_pos hlong])
      · left
        rw [if_neg hlong]
        unfold Path.step
        rw [if_neg (by simpa using hname)]
    · right
      rw [walk_append, herror]
      rfl

/-- The path down to a place leads there if something is there and can be asked for. -/
theorem Rooted.place_ofPlace (h : t.Rooted) {node : Node} (hnode : t.node? place = some node)
    (hopen : t.bars place = false) : t.place current (Path.ofPlace place) = .ok place := by
  have hsame : t.place current (Path.ofPlace place) = t.place [] (Path.ofPlace place) := rfl
  rw [hsame]
  unfold bars at hopen
  cases hplace : t.place [] (Path.ofPlace place) with
  | ok there =>
    -- the walk leads where the names say, and they name the place
    obtain ⟨-, hwalk⟩ := place_eq_ok_iff.mp hplace
    have hthere : t.walk [] place = .ok there := hwalk
    rcases h.walk_cases hnode with hok | herror
    · rw [Except.ok.inj (hthere.symm.trans hok)]
    · cases hthere.symm.trans herror
  | error fault =>
    have hlong : fault.error = .nameTooLong := by
      unfold Tree.place at hplace
      split at hplace
      · rw [← Except.error.inj hplace]
      · have hwalk : t.walk ((Path.ofPlace place).start []) (Path.ofPlace place).names
            = t.walk [] place := rfl
        rw [hwalk] at hplace
        rcases h.walk_cases hnode with hok | herror
        · rw [hok] at hplace
          cases hplace
        · rw [herror] at hplace
          rw [← Except.error.inj hplace]
    simp [hplace, hlong] at hopen

/-- The file at a place is read. -/
theorem Rooted.read_ofPlace (h : t.Rooted) {octets : ByteArray}
    (hoctets : t.octetsAt? place = some octets) (hopen : t.bars place = false) :
    t.read current (Path.ofPlace place) = .ok octets :=
  (read_eq_ok_iff (h.place_ofPlace (node?_eq_of_octetsAt? hoctets) hopen)).mpr hoctets

/-- It is still read when directories were kept and the file was. -/
theorem Rooted.read_eq (h : t.Rooted) (hkeeps : t.Keeps t')
    (hsame : t'.octetsAt? place = t.octetsAt? place) (hfile : t.isFileAt place = true)
    (hopen : t.bars place = false) :
    t'.read current (Path.ofPlace place) = t.read current (Path.ofPlace place) := by
  obtain ⟨octets, hoctets⟩ := Option.isSome_iff_exists.mp hfile
  have hplace : t.place current (Path.ofPlace place) = .ok place :=
    h.place_ofPlace (node?_eq_of_octetsAt? hoctets) hopen
  rw [h.read_ofPlace hoctets hopen]
  exact (read_eq_ok_iff (hkeeps.place hplace)).mpr (hsame.trans hoctets)

/-- Names that are short enough are no error. -/
theorem walk_ne_nameTooLong {here : Place} {names : List String}
    (hshort : ∀ name ∈ names, isLongName name = false) : t.walk here names ≠ .error .nameTooLong := by
  induction names generalizing here with
  | nil => exact fun h => by cases h
  | cons name rest ih =>
    obtain ⟨hname, hrest⟩ := List.forall_mem_cons.mp hshort
    unfold walk
    cases t.node? here with
    | none => simp
    | some node =>
      cases node with
      | file octets => simp
      | directory =>
        simp only [hname, Bool.false_eq_true, if_false]
        exact ih hrest

/-- A place with short names, not too many of them, can always be asked for. -/
theorem bars_eq_false (hpath : (Path.ofPlace place).isLong = false)
    (hshort : ∀ name ∈ place, isLongName name = false) : t.bars place = false := by
  unfold bars
  cases hplace : t.place [] (Path.ofPlace place) with
  | ok there => rfl
  | error fault =>
    simp only [decide_eq_false_iff_not]
    intro hlong
    unfold Tree.place at hplace
    rw [hpath] at hplace
    -- only a long name or a long path bars, and there is neither
    have hwalk : t.walk [] place ≠ .error .nameTooLong := walk_ne_nameTooLong hshort
    cases hfault : t.walk [] place with
    | ok there =>
      have hok : t.walk ((Path.ofPlace place).start []) (Path.ofPlace place).names = .ok there :=
        hfault
      simp [hok, Except.mapError] at hplace
    | error error =>
      have herror : t.walk ((Path.ofPlace place).start []) (Path.ofPlace place).names
          = .error error := hfault
      simp only [herror, Bool.false_eq_true, if_false, Except.mapError, Except.error.injEq] at hplace
      subst hplace
      exact hwalk (hfault.trans (congrArg Except.error hlong))

/-- A directory that is there is not made again. -/
theorem makeDirectories_of_isDirectory {p : Path} (h : t.isDirectory current p = .ok true) :
    t.makeDirectories current p = .ok t := by
  obtain ⟨make, hmake⟩ := exists_makeDirectories_eq t current p
  obtain ⟨place, hplace, hnode⟩ := isDirectory_iff.mp h
  have hexists : t.makeDirectory current p = .error { error := .exists, path := p.text } := by
    unfold makeDirectory
    simp [hplace, hnode, bind, Except.bind, throw, throwThe, MonadExceptOf.throw]
  rw [hmake]
  -- the system says that it exists, which is passed over where it is a directory
  unfold makeDirectoryWith
  rw [hexists]
  exact sparing_eq_ok_iff.mpr ⟨h, rfl⟩

end Tree

end Files

/-! ## The same plan -/

namespace Descriptor

variable {w : Workspace} {files : Tree} {module : String} {search : List Path}

/-- A module reads as before if nothing has changed where it was looked for and each of these
    places can be asked for. If one of them cannot, then the module cannot be read. -/
theorem load_again (hrooted : w.files.Rooted) (hkeeps : w.files.Keeps files)
    (hloads : Loads w search module)
    (h : ∀ s ∈ w.probed module search, files.octetsAt? s.place = w.files.octetsAt? s.place) :
    ((∀ s ∈ w.probed module search, files.bars s.place = false) →
      load { w with files } search module = load w search module) ∧
    ((∃ s ∈ w.probed module search, files.bars s.place = true) →
      ¬ Loads { w with files } search module) := by
  by_cases hdotted : Text.isDottedName module = true
  swap
  · have hfind : ∀ v : Workspace, v.findModule module search = .ok none := by
      intro v
      unfold Workspace.findModule
      rw [if_neg hdotted]
    refine ⟨fun _ => ?_, fun ⟨s, hs, _⟩ => ?_⟩
    · unfold load
      rw [hfind, hfind]
      rfl
    · simp [Workspace.probed, hdotted] at hs
  have hfind : ∀ v : Workspace, v.findModule module search = v.searchModule module search := by
    intro v
    unfold Workspace.findModule
    rw [if_pos hdotted]
  have hprobed : w.probed module search = w.probedIn module search := by
    unfold Workspace.probed
    rw [if_pos hdotted]
  rw [hprobed] at h ⊢
  obtain ⟨found, hfound⟩ : ∃ found, w.searchModule module search = .ok found := by
    obtain ⟨found, hfound, -⟩ := loads_iff.mp hloads
    exact ⟨found, (hfind w).symm.trans hfound⟩
  obtain ⟨hok, herror⟩ := Workspace.searchModule_again hfound fun s hs =>
    Tree.isFileAt_congr (h s hs)
  constructor
  · intro hopen
    unfold load
    rw [hfind, hfind, hok hopen, hfound]
    cases found with
    | none => rfl
    | some s =>
      -- the file was there, so its path led to it, and still does
      obtain ⟨hmem, hthere, hbars⟩ := Workspace.spec_of_searchModule hfound
      have hread : files.read w.current s.path = w.files.read w.current s.path :=
        hrooted.read_eq hkeeps (h s hmem) hthere hbars
      simp only [Except.mapError, bind, Except.bind, ofFile, hread]
      rfl
  · intro hbarred
    obtain ⟨fault, hfault⟩ := herror hbarred
    rintro ⟨report, hreport⟩
    unfold load at hreport
    simp [hfind, hfault, Except.mapError, bind, Except.bind] at hreport

end Descriptor

namespace Gathering

variable {w : Workspace} {files : Tree} {search : List Path}

/-- Gathering depends on what the modules of the labels give. -/
theorem ofLabels_congr {labels : List RootLabel} (invalid : List String)
    (h : ∀ label ∈ labels, Descriptor.load { w with files } search label.module
      = Descriptor.load w search label.module) :
    ofLabels { w with files } search labels invalid = ofLabels w search labels invalid := by
  unfold ofLabels
  generalize ({ failed := invalid, diagnostics := invalid.map RootLabel.invalid } : Gathering) = g
  induction labels generalizing g with
  | nil => rfl
  | cons label rest ih =>
    have hadd : g.add { w with files } search label = g.add w search label := by
      unfold add reading
      rw [h label List.mem_cons_self]
    rw [List.foldlM_cons, List.foldlM_cons, hadd]
    cases g.add w search label with
    | error fault => rfl
    | ok g' => exact ih (fun other hother => h other (List.mem_cons_of_mem _ hother)) g'

end Gathering

namespace Generation

open Gathering (labelsOf)

variable {w : Workspace} {settings : Settings} {r : Request} {g plan : Generation} {out : Path}
  {files : Tree}

/-- The plan is the same if the modules give the same. -/
theorem ofRequest_congr (h : ∀ label ∈ labelsOf r.roots,
      Descriptor.load { w with files } (searchOf settings r.search) label.module
        = Descriptor.load w (searchOf settings r.search) label.module) :
    ofRequest { w with files } settings r = ofRequest w settings r := by
  have hcheck : check { w with files } r.roots (searchOf settings r.search)
        (transportOf settings r.transport)
      = check w r.roots (searchOf settings r.search) (transportOf settings r.transport) := by
    unfold check
    simp only [Gathering.labels_eq, Gathering.ofLabels_congr _ h]
  unfold ofRequest
  rw [hcheck]
  rfl

/-- No file that was written is at a place where one of the modules was looked for. -/
def Clear (w : Workspace) (settings : Settings) (r : Request) (out : Path) (g : Generation) :
    Prop :=
  ∀ label ∈ g.roots, ∀ s ∈ w.probed label.module (searchOf settings r.search),
    ∀ m ∈ g.outputs, out.child m.filename ∈ g.written → s.place ≠ fileOf w out m

/-- On the files, each place where a module of the run was looked for can be asked for. A place
    with names that are not too long always can (`Tree.bars_eq_false`). Otherwise it can unless
    there is a directory above the name that is too long. -/
def Askable (w : Workspace) (settings : Settings) (r : Request) (g : Generation) (files : Tree) :
    Prop :=
  ∀ label ∈ g.roots, ∀ s ∈ w.probed label.module (searchOf settings r.search),
    files.bars s.place = false

/-- Short names can be asked for among whatever files. -/
theorem askable_of_short (h : ∀ label ∈ g.roots,
      ∀ s ∈ w.probed label.module (searchOf settings r.search),
        (Path.ofPlace s.place).isLong = false ∧ ∀ name ∈ s.place, isLongName name = false) :
    Askable w settings r g files := by
  intro label hlabel s hs
  obtain ⟨hpath, hshort⟩ := h label hlabel s hs
  exact Tree.bars_eq_false hpath hshort

/-! ## The same files -/

/-- The text of the module has a carriage return in it. -/
def hasReturn (m : ClientModule) : Bool :=
  m.source.toList.contains '\r'

namespace Wrote

variable {outputs : List ClientModule} {made : Tree} {place : Place} {s : Writing}
  {m : ClientModule}

/-- The directories that were there are still there. -/
theorem keeps (h : Wrote w out outputs g files made place s) : w.files.Keeps files := by
  intro p hp
  rw [h.files]
  apply h.settled.keeps
  rcases h.extends_made p with hsame | ⟨-, hnone, -⟩
  · rw [hsame, hp]
  · rw [hp] at hnone
    cases hnone

/-- Only the files that were written have changed. -/
theorem octetsAt?_eq (h : Wrote w out outputs g files made place s) {p : Place}
    (hp : ∀ m ∈ outputs, out.child m.filename ∈ g.written → p ≠ fileOf w out m) :
    files.octetsAt? p = w.files.octetsAt? p := by
  rw [← h.octetsAt?_made]
  unfold Tree.octetsAt?
  rw [h.files, h.settled.elsewhere]
  intro m hm hfalse
  rw [← h.fileOf_eq hm]
  exact hp m hm ((h.mem_written_iff hm).mpr hfalse)

/-- The file of each output is text when all is written, and it stands exactly if the text of
    the output has no carriage return in it. -/
theorem stands_files (h : Wrote w out outputs g files made place s) (hm : m ∈ outputs) :
    ∃ octets, files.octetsAt? (place ++ [m.filename]) = some octets ∧
      (Tree.textOf? octets).isSome = true ∧
      Writing.stands files place m = !hasReturn m ∧
      (hasReturn m = true → octets = m.source.toUTF8) := by
  cases hstood : Writing.stands made place m with
  | true =>
    obtain ⟨octets, hoctets, htext⟩ := Writing.stands_eq_true_iff.mp hstood
    have hafter := h.octetsAt?_of_unchanged hm hstood
    rw [← h.octetsAt?_made, hoctets] at hafter
    -- its text was read from a file, where line ends are unified
    have hplain : hasReturn m = false := by
      unfold hasReturn
      simpa using Tree.not_mem_of_textOf? htext
    refine ⟨octets, hafter, by rw [htext]; rfl, ?_, fun hreturn => ?_⟩
    · rw [hplain]
      exact Writing.stands_eq_true_iff.mpr ⟨octets, hafter, htext⟩
    · rw [hplain] at hreturn
      cases hreturn
  | false =>
    have hafter := h.octetsAt?_of_written hm hstood
    refine ⟨m.source.toUTF8, hafter, ?_, ?_, fun _ => rfl⟩
    · unfold Tree.textOf?
      rw [Tree.fromUTF8?_toUTF8]
      rfl
    · have hstands : Writing.stands files place m = true ↔ '\r' ∉ m.source.toList := by
        rw [Writing.stands_eq_true_iff, ← Tree.textOf?_toUTF8_iff, hafter]
        simp only [Option.some.injEq, exists_eq_left']
      rw [Bool.eq_iff_iff, hstands]
      simp [hasReturn]

/-- Writing once more: what has a carriage return in it is written, all else is left alone, and
    all files stay as they are. -/
theorem again (h : Wrote w out outputs g files made place s) (hplan : plan.outputs = outputs) :
    ∃ g' files', writeTo { w with files } out plan = (.ok g', files') ∧ Carries plan g' ∧
      g'.out = some out ∧
      g'.written = (outputs.filter hasReturn).map (fun m => out.child m.filename) ∧
      g'.unchanged = (outputs.filter fun m => !hasReturn m).map (fun m => out.child m.filename) ∧
      ∀ p, files'.node? p = files.node? p := by
  subst hplan
  have hleads : files.place w.current out = .ok place := by
    rw [h.files]
    exact h.settled.keeps.place h.leads
  have hdirectory : files.node? place = some .directory := by
    rw [h.files]
    exact h.settled.keeps _ h.directory
  -- the directory of the first run is there, and nothing keeps the files from being read
  have hmade : { w with files }.makeDirectories out = .ok files :=
    makeDirectories_eq_ok_iff.mpr ⟨(makeDirectories_eq_ok_iff.mp h.makes).1,
      Tree.makeDirectories_of_isDirectory (Tree.isDirectory_iff.mpr ⟨place, hleads, hdirectory⟩)⟩
  have hfits : ∀ m ∈ plan.outputs, Writing.Fits w.current out place files m := by
    intro m hm
    obtain ⟨octets, hoctets, -⟩ := h.stands_files hm
    refine ⟨hleads, hdirectory, h.down m hm, fun hthere => ?_⟩
    obtain ⟨p, hplace, hnode⟩ := Tree.isDirectory_iff.mp hthere
    obtain rfl : place ++ [m.filename] = p :=
      Except.ok.inj ((h.place_files hm).symm.trans hplace)
    rw [Tree.node?_eq_of_octetsAt? hoctets] at hnode
    cases hnode
  obtain ⟨s', hput⟩ : ∃ s', (Writing.putAll w.current out { files } plan.outputs).1 = .ok s' := by
    apply (Writing.exists_putAll_iff (s := { files }) hfits h.names).mpr
    intro m hm
    refine ⟨_, h.place_files hm, fun octets hoctets => ?_⟩
    obtain ⟨octets', hoctets', htext, -⟩ := h.stands_files hm
    rw [← Option.some.inj (hoctets'.symm.trans hoctets)]
    exact htext
  obtain ⟨hsettled, hafter⟩ := Writing.settled_of_putAll (s := { files }) hleads hdirectory h.down
    h.names hput
  have hstands : ∀ m ∈ plan.outputs, Writing.stands files place m = !hasReturn m := by
    intro m hm
    obtain ⟨-, -, -, hstands, -⟩ := h.stands_files hm
    exact hstands
  refine ⟨{ plan with written := s'.written, unchanged := s'.unchanged, out := some out
                      writes := true }, s'.files, ?_, ⟨rfl, rfl, rfl, rfl⟩, rfl, ?_, ?_, ?_⟩
  · unfold writeTo
    simp only [hmade]
    rw [← hafter]
    simp only [hput, Except.map]
  · show s'.written = _
    rw [hsettled.written, List.nil_append,
      List.filter_congr (q := hasReturn) fun m hm => by simp [hstands m hm]]
  · show s'.unchanged = _
    rw [hsettled.unchanged, List.nil_append, List.filter_congr hstands]
  · intro p
    by_cases hp : ∃ m ∈ plan.outputs, Writing.stands files place m = false ∧
        p = place ++ [m.filename]
    · -- what is written again is what was written first
      obtain ⟨m, hm, hfalse, rfl⟩ := hp
      obtain ⟨octets, hoctets, -, hplain, hbytes⟩ := h.stands_files hm
      have hreturn : hasReturn m = true := by
        rw [hplain] at hfalse
        simpa using hfalse
      rw [hsettled.replaced m hm hfalse, Tree.node?_eq_of_octetsAt? hoctets, hbytes hreturn]
    · exact hsettled.elsewhere p fun m hm hfalse hsame => hp ⟨m, hm, hfalse, hsame⟩

end Wrote

/-- What the modules of a run give when it is repeated, if nothing was written where they are
    looked for: the same if each of these places can be asked for, and nothing otherwise. -/
theorem load_label_again (hrooted : w.files.Rooted) (hplan : ofRequest w settings r = .ok plan)
    (hcarries : Carries plan g) {made : Tree} {place : Place} {s : Writing}
    (hwrote : Wrote w out g.outputs g files made place s) (hclear : Clear w settings r out g)
    {label : RootLabel} (hlabel : label ∈ g.roots) :
    ((∀ s ∈ w.probed label.module (searchOf settings r.search), files.bars s.place = false) →
      Descriptor.load { w with files } (searchOf settings r.search) label.module
        = Descriptor.load w (searchOf settings r.search) label.module) ∧
    ((∃ s ∈ w.probed label.module (searchOf settings r.search), files.bars s.place = true) →
      ¬ Descriptor.Loads { w with files } (searchOf settings r.search) label.module) := by
  have hplanned := plannedFor_of_ofRequest hplan
  have hloads : Descriptor.Loads w (searchOf settings r.search) label.module := by
    apply hplanned.loads
    rw [← hplanned.checked.roots, ← hcarries.roots]
    exact hlabel
  refine Descriptor.load_again hrooted hwrote.keeps hloads fun found hfound => ?_
  apply hwrote.octetsAt?_eq
  intro m hm hwritten
  exact hclear label hlabel found hfound m hm hwritten

/-- The plan of a run is the plan of its repetition, if nothing was written where a module is
    looked for and all these places can be asked for. -/
theorem ofRequest_again (hrooted : w.files.Rooted) (hplan : ofRequest w settings r = .ok plan)
    (hcarries : Carries plan g) {made : Tree} {place : Place} {s : Writing}
    (hwrote : Wrote w out g.outputs g files made place s) (hclear : Clear w settings r out g)
    (haskable : Askable w settings r g files) :
    ofRequest { w with files } settings r = .ok plan := by
  rw [ofRequest_congr, hplan]
  intro label hlabel
  have hroots : label ∈ g.roots := by
    rw [hcarries.roots, (plannedFor_of_ofRequest hplan).checked.roots]
    exact hlabel
  exact (load_label_again hrooted hplan hcarries hwrote hclear hroots).1 (haskable label hroots)

/-- If a run can be repeated, each place where a module is looked for can be asked for. -/
theorem askable_of_run (hrooted : w.files.Rooted) (hplan : ofRequest w settings r = .ok plan)
    (hcarries : Carries plan g) {made : Tree} {place : Place} {s : Writing}
    (hwrote : Wrote w out g.outputs g files made place s) (hclear : Clear w settings r out g)
    {g' : Generation} (hagain : (run { w with files } settings r).1 = .ok g') :
    Askable w settings r g files := by
  obtain ⟨plan', hplan', -⟩ := exists_plan_of_run hagain
  intro label hlabel found hfound
  have hlabels : label ∈ labelsOf r.roots := by
    rw [← (plannedFor_of_ofRequest hplan).checked.roots, ← hcarries.roots]
    exact hlabel
  have hloads := (plannedFor_of_ofRequest hplan').loads label hlabels
  by_contra hbars
  exact (load_label_again hrooted hplan hcarries hwrote hclear hlabel).2
    ⟨found, hfound, Bool.of_not_eq_false hbars⟩ hloads

/-! ## Main result -/

/-- **Running again changes nothing, but texts with carriage returns are written each time.**
    Suppose that a run that writes has a result and wrote no file at a place where one of its
    modules is looked for. On the files that it left, it has a result again exactly if each of
    these places can still be asked for. The result has the same roots, outputs, failures and
    diagnostics, and all files stay as they are. Those outputs are listed as unchanged that have
    no carriage return in them, and the others as written. -/
theorem run_again (hrooted : w.files.Rooted) (h : run w settings r = (.ok g, files))
    (hwrites : r.writes = true) (hclear : ∀ out, g.out = some out → Clear w settings r out g) :
    ∃ out, g.out = some out ∧
      ((∃ g', (run { w with files } settings r).1 = .ok g') ↔ Askable w settings r g files) ∧
      ∀ g' files', run { w with files } settings r = (.ok g', files') →
        Carries g g' ∧ g'.out = some out ∧
        g'.written = (g.outputs.filter hasReturn).map (fun m => out.child m.filename) ∧
        g'.unchanged
          = (g.outputs.filter fun m => !hasReturn m).map (fun m => out.child m.filename) ∧
        ∀ p, files'.node? p = files.node? p := by
  obtain ⟨plan, out, made, place, s, hplan, hcarries, hplanned, hout, hwrote⟩ :=
    exists_wrote_of_run h hwrites
  have hopen : ∀ g', (run { w with files } settings r).1 = .ok g' → Askable w settings r g files :=
    fun g' => askable_of_run hrooted hplan hcarries hwrote (hclear out hout)
  obtain ⟨g₂, files₂, hwrite, hcarries₂, hout₂, hwritten, hunchanged, hsame⟩ :=
    hwrote.again hcarries.outputs.symm
  -- if there is a second result at all, it is what writing the plan again gives
  have hrun : Askable w settings r g files →
      run { w with files } settings r = (.ok g₂, files₂) := by
    intro haskable
    have hagain := ofRequest_again hrooted hplan hcarries hwrote (hclear out hout) haskable
    rw [run_of_writes hagain hplanned hwrites, hwrite]
  refine ⟨out, hout, ⟨fun ⟨g', hg'⟩ => hopen g' hg', fun haskable => ⟨g₂, ?_⟩⟩, ?_⟩
  · rw [hrun haskable]
  · intro g' files' hg'
    have hboth := (hrun (hopen g' (congrArg Prod.fst hg'))).symm.trans hg'
    obtain rfl : g₂ = g' := Except.ok.inj (congrArg Prod.fst hboth)
    obtain rfl : files₂ = files' := congrArg Prod.snd hboth
    refine ⟨⟨?_, ?_, ?_, ?_⟩, hout₂, hwritten, hunchanged, hsame⟩
    · rw [hcarries₂.roots, hcarries.roots]
    · rw [hcarries₂.outputs, hcarries.outputs]
    · rw [hcarries₂.failed, hcarries.failed]
    · rw [hcarries₂.diagnostics, hcarries.diagnostics]

namespace Wrote

variable {outputs : List ClientModule} {made : Tree} {place : Place} {s : Writing}

/-- Nothing is written where a module is looked for if none is looked for in the output
    directory. -/
theorem clear (h : Wrote w out g.outputs g files made place s)
    (helsewhere : ∀ label ∈ g.roots, ∀ found ∈ w.probed label.module (searchOf settings r.search),
      found.place.dropLast ≠ place) : Clear w settings r out g := by
  intro label hlabel found hfound m hm _ hsame
  apply helsewhere label hlabel found hfound
  rw [hsame, h.fileOf_eq hm, List.dropLast_concat]

end Wrote

end Generation

namespace Sample

theorem rooted_workspace : workspace.files.Rooted where
  above := by
    intro entry hentry
    fin_cases hentry <;> rfl
  named := by
    intro entry hentry
    fin_cases hentry <;> decide

/-- The modules are looked for beside the output directory. -/
theorem probed_asked : ∀ label ∈ Gathering.labelsOf asked.roots,
    ∀ found ∈ workspace.probed label.module search, found.place.dropLast ≠ ["out"] := by
  rw [labelsOf_asked]
  decide

theorem clear_asked {g : Generation} {files : Tree}
    (h : Generation.run workspace {} asked = (.ok g, files)) :
    ∀ out, g.out = some out → Generation.Clear workspace {} asked out g := by
  obtain ⟨plan, out, made, place, s, hplan, hcarries, hplanned, hout, hwrote⟩ :=
    Generation.exists_wrote_of_run h rfl
  obtain rfl : Path.ofText "out" = out :=
    Option.some.inj (Except.ok.inj (Generation.outOf_of_planned hplan hplanned))
  have hmade : filesMade = made := Except.ok.inj hwrote.makes
  have hleads : ["out"] = place := by
    have hleads := hwrote.leads
    rw [← hmade] at hleads
    exact Except.ok.inj hleads
  intro out' hout'
  obtain rfl : Path.ofText "out" = out' := Option.some.inj (hout.symm.trans hout')
  -- none of the places that were asked for is that of the output
  apply hwrote.clear
  rw [hcarries.roots, (Generation.plannedFor_of_ofRequest hplan).checked.roots, ← hleads]
  exact probed_asked

/-- All these places have short names. -/
theorem askable_asked {g : Generation} {files : Tree}
    (h : Generation.run workspace {} asked = (.ok g, files)) :
    Generation.Askable workspace {} asked g files := by
  obtain ⟨plan, hplan, hcarries, -⟩ := Generation.exists_plan_of_run (congrArg Prod.fst h)
  apply Generation.askable_of_short
  rw [hcarries.roots, (Generation.plannedFor_of_ofRequest hplan).checked.roots, labelsOf_asked]
  decide

end Sample

namespace Generation

/-- The short workspace, in which one of the modules that are asked for is nowhere: the client
    is written next to no place where it is looked for, and all names are short. -/
theorem run_again_sample :
    ∃ g files, Sample.workspace.files.Rooted ∧
      run Sample.workspace {} Sample.asked = (.ok g, files) ∧ Sample.asked.writes = true ∧
      (∀ out, g.out = some out → Clear Sample.workspace {} Sample.asked out g) ∧
      Askable Sample.workspace {} Sample.asked g files ∧
      ∃ g' files', run { Sample.workspace with files } {} Sample.asked = (.ok g', files') ∧
        Carries g g' ∧ ∀ p, files'.node? p = files.node? p := by
  obtain ⟨g, files, hrun⟩ := exists_run_eq Sample.exists_run_asked
  have hclear := Sample.clear_asked hrun
  have haskable := Sample.askable_asked hrun
  obtain ⟨out, -, hiff, hagain⟩ := run_again Sample.rooted_workspace hrun rfl hclear
  obtain ⟨g', files', hrun'⟩ := exists_run_eq (hiff.mpr haskable)
  obtain ⟨hcarries, -, -, -, hsame⟩ := hagain g' files' hrun'
  exact ⟨g, files, Sample.rooted_workspace, hrun, rfl, hclear, haskable, g', files', hrun',
    hcarries, hsame⟩

end Generation

/-! ## A segment with a carriage return

    The path segment of a root has a carriage return in it, which the source writes as an escape
    sequence. The client shows the route of the root, and so has the carriage return in its
    text. -/

namespace Sample.Carriage

/-- A source whose root has such a segment. -/
def source : String :=
  "import shapi.api as s\n@s.resources.resource('a\\rb')\nclass A: 0\n"

/-- The decorator of the root. -/
def decorator : Expr :=
  .apply (.call 1 [])
    [.apply (.attribute "resource") [.apply (.attribute "resources") [.name "s"]],
      .literal (.text [97, 13, 98] false)]

/-- The statements of the source. -/
def body : List Statement :=
  [.importModules [{ name := "shapi.api", newName := some "s" }],
    .classDef "A" [] [decorator] [.simple] 3]

def scope : Scope :=
  Scope.ofStatements "app.api" false body

/-- The root as it is read. -/
def endpoint : Endpoint :=
  { name := "A", qualname := "A", segment := "a\rb", line := 3 }

/-- The client of the root. -/
def client : ClientRoot :=
  { module := "app.api", root := { name := "A", qualname := "A", segment := "a\rb" }, scope }

/-- The module that the client is printed to. -/
def output : ClientModule :=
  { module := "app.api", root := "A", moduleName := "a_client", className := "AClient"
    source := Client.textOfLines
      ["# Code generated by shapi from app.api. DO NOT EDIT.",
        "from __future__ import annotations",
        "",
        "from app.api import A",
        "from shapi.api.response import ApiResponse",
        "",
        "",
        "class AClient:",
        "    \"\"\"/a\rb\"\"\""]
    operationCount := 0, unitCount := 1 }

/-- Only the source is there. -/
def workspace : Workspace :=
  { files := { nodes := [(["app"], .directory), (["app", "api.py"], .file source.toUTF8)] } }

theorem parseModule_source : parseModule source.toList = .ok body := by
  have hchars : source.toList = _ := String.toList_ofList
  exact (congrArg parseModule hchars).trans (by decide +kernel)

theorem source_no_null : source.toList.contains '\x00' = false := by
  have hchars : source.toList = _ := String.toList_ofList
  exact (congrArg (List.contains · '\x00') hchars).trans (by cbv)

theorem textOf?_source : Tree.textOf? source.toUTF8 = some source := by
  have hchars : source.toList = _ := String.toList_ofList
  have hplain : source.toList.contains '\r' = false :=
    (congrArg (List.contains · '\r') hchars).trans (by cbv)
  exact Tree.textOf?_toUTF8 (by simpa using hplain)

theorem moduleFault_body : moduleFault? scope body = none := by
  cbv

theorem readRoots_body : (readRoots scope body).value = [endpoint] := by
  rfl

/-- The source is read. -/
theorem exists_report : ∃ report, Descriptor.ofSource "app.api" false source = .ok report ∧
    report.value = some (Descriptor.ofStatements "app.api" false body).value := by
  unfold Descriptor.ofSource
  rw [source_no_null, parseModule_source]
  simp only [Bool.false_eq_true, if_false]
  rw [show Scope.ofStatements "app.api" false body = scope from rfl, moduleFault_body]
  exact ⟨_, rfl, rfl⟩

theorem compileAll_endpoint : (compileAll [{ endpoint, scope }]).value = [client] := by
  rfl

theorem generate_client : Client.generate client "shapi.client.transport" = .ok output := by
  decide +kernel

theorem hasReturn_output : Generation.hasReturn output = true := by
  have hreturn : '\r' ∈ output.source.toList := by
    refine (Client.mem_textOfLines_iff (by decide)).mpr ⟨"    \"\"\"/a\rb\"\"\"", ?_, ?_⟩ <;> decide
  simpa [Generation.hasReturn] using hreturn

theorem rooted_workspace : workspace.files.Rooted where
  above := by
    intro entry hentry
    fin_cases hentry <;> rfl
  named := by
    intro entry hentry
    fin_cases hentry <;> decide

/-- The directory of the output, made. -/
def filesMade : Tree :=
  workspace.files.set ["out"] .directory

/-- There is a run with a result, and each plan has the module of the client as its only
    output. -/
theorem exists_run : (∃ g, (Generation.run workspace {} askedOnce).1 = .ok g) ∧
    ∀ plan, Generation.ofRequest workspace {} askedOnce = .ok plan → plan.outputs = [output] := by
  obtain ⟨report, hreport, hvalue⟩ := exists_report
  have hroot : (Descriptor.ofStatements "app.api" false body).value.root? "A" = some endpoint := by
    have hroots : (Descriptor.ofStatements "app.api" false body).value.roots = [endpoint] :=
      readRoots_body
    unfold Descriptor.root?
    rw [hroots]
    rfl
  have hfound : workspace.findModule "app.api" search
      = .ok (some { module := "app.api", place := ["app", "api.py"], isPackage := false }) := rfl
  obtain ⟨hloads, hrequest⟩ := RootLabel.request?_of_ofSource ⟨"app.api", "A"⟩ hfound rfl
    textOf?_source hreport hvalue hroot
  have houtputs : ∀ plan, Generation.ofRequest workspace {} askedOnce = .ok plan →
      plan.outputs = [output] := fun plan =>
    Generation.outputs_of_request? labelsOf_askedOnce hrequest compileAll_endpoint generate_client
  -- the tree has the directory once it is made, and nothing else is in the way
  have hmake : workspace.makeDirectories (Path.ofText "out") = .ok filesMade := rfl
  have hname : output.filename = "a_client.py" := by decide
  have hleads : filesMade.place [] (Path.ofText "out") = .ok ["out"] := rfl
  have hdirectory : filesMade.node? ["out"] = some .directory := rfl
  have hfile : filesMade.place [] ((Path.ofText "out").child output.filename)
      = .ok (["out"] ++ [output.filename]) := by
    rw [hname]
    decide
  have hfree : filesMade.node? (["out"] ++ [output.filename]) = none := by
    rw [hname]
    rfl
  refine ⟨Generation.exists_run_of_output labelsOf_askedOnce hloads houtputs rfl hmake hfile ?_,
    houtputs⟩
  intro node hnode
  rw [hfree] at hnode
  cases hnode

/-- **A text with a carriage return is written each time.** No file was written where a module
    is looked for, yet the second run lists the same output as written again. -/
theorem written_again :
    ∃ g files g' files', Generation.run workspace {} askedOnce = (.ok g, files) ∧
      (∀ out, g.out = some out → Generation.Clear workspace {} askedOnce out g) ∧
      Generation.run { workspace with files } {} askedOnce = (.ok g', files') ∧
      output ∈ g'.outputs ∧ (Path.ofText "out").child output.filename ∈ g'.written ∧
      g'.unchanged = [] := by
  obtain ⟨hresult, houtputs⟩ := exists_run
  obtain ⟨g, files, hrun⟩ := Generation.exists_run_eq hresult
  obtain ⟨plan, out, made, place, s, hplan, hcarries, hplanned, hout, hwrote⟩ :=
    Generation.exists_wrote_of_run hrun rfl
  have hchecked := Generation.plannedFor_of_ofRequest hplan
  obtain rfl : Path.ofText "out" = out :=
    Option.some.inj (Except.ok.inj (Generation.outOf_of_planned hplan hplanned))
  obtain rfl : filesMade = made := Except.ok.inj hwrote.makes
  obtain rfl : ["out"] = place := Except.ok.inj hwrote.leads
  have hclear : Generation.Clear workspace {} askedOnce (Path.ofText "out") g := by
    apply hwrote.clear
    rw [hcarries.roots, hchecked.checked.roots, labelsOf_askedOnce]
    decide
  have haskable : Generation.Askable workspace {} askedOnce g files := by
    apply Generation.askable_of_short
    rw [hcarries.roots, hchecked.checked.roots, labelsOf_askedOnce]
    decide
  have hagain := Generation.ofRequest_again rooted_workspace hplan hcarries hwrote hclear haskable
  obtain ⟨g', files', hwrite, hcarries', -, hwritten, hunchanged, -⟩ :=
    hwrote.again hcarries.outputs.symm
  -- the only output has a carriage return, so both runs write it
  have hgoutputs : g.outputs = [output] := hcarries.outputs.trans (houtputs plan hplan)
  refine ⟨g, files, g', files', hrun, ?_, ?_, ?_, ?_, ?_⟩
  · intro out' hout'
    rw [← Option.some.inj (hout.symm.trans hout')]
    exact hclear
  · rw [Generation.run_of_writes hagain hplanned rfl, hwrite]
  · rw [hcarries'.outputs, ← hcarries.outputs, hgoutputs]
    exact List.mem_singleton_self _
  · rw [hwritten, hgoutputs, List.filter_cons_of_pos hasReturn_output]
    exact List.mem_cons_self
  · rw [hunchanged, hgoutputs, List.filter_cons_of_neg (by simp [hasReturn_output])]
    rfl

end Sample.Carriage

end Waymark

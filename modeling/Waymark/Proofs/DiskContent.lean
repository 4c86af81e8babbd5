import Waymark.Proofs.RunOutcome

/-! # What a run leaves on disk

    A run that writes first makes its output directory and then goes through its outputs. A
    file that holds the text of its output already is left alone, and any other one is
    replaced.

    * Making directories adds directories on the way along a path, where nothing was
      (`Tree.extends_of_makeDirectories`).
    * Writing all modules comes to the same as looking at all files first
      (`Writing.Settled`), since no two modules share a file. One module is one step
      (`Writing.put_eq`), and the run follows by induction (`Writing.settled_of_putAll`).
    * What stands on disk afterwards is said in terms of paths (`LeftOnDisk`). Texts are
      compared with their line ends unified, so a file that is left alone may hold other
      bytes than its output: exactly if there is a carriage return in it.
-/

namespace Waymark

open Waymark.Client (ClientModule)
open Waymark.Files

namespace Files

/-- The place is passed on the way along the path, or is where it leads. -/
def Path.Passes (p : Path) (current place : Place) : Prop :=
  ∃ names, names <+: p.names ∧ place = ({ root := p.root, names } : Path).resolve current

namespace Tree

variable {t t' t'' : Tree} {current place : Place} {p : Path} {among : Place → Prop}

/-! ## Making directories -/

/-- All is as it was, but for directories at some places where nothing was. -/
def Extends (among : Place → Prop) (t t' : Tree) : Prop :=
  ∀ place, t'.node? place = t.node? place ∨
    among place ∧ t.node? place = none ∧ t'.node? place = some .directory

theorem Extends.refl (among : Place → Prop) (t : Tree) : t.Extends among t :=
  fun _ => .inl rfl

theorem Extends.trans (h : t.Extends among t') (h' : t'.Extends among t'') :
    t.Extends among t'' := by
  intro place
  rcases h' place with hsame | ⟨hplace, hnone, hmade⟩
  · rw [hsame]
    exact h place
  · rcases h place with hsame | ⟨-, -, hmade'⟩
    · exact .inr ⟨hplace, hsame.symm.trans hnone, hmade⟩
    · rw [hmade'] at hnone
      cases hnone

theorem Extends.mono {among' : Place → Prop} (h : t.Extends among t')
    (hsub : ∀ place, among place → among' place) : t.Extends among' t' := by
  intro place
  rcases h place with hsame | ⟨hplace, hmade⟩
  · exact .inl hsame
  · exact .inr ⟨hsub place hplace, hmade⟩

/-- What is added is no file. -/
theorem Extends.octetsAt?_eq (h : t.Extends among t') (place : Place) :
    t'.octetsAt? place = t.octetsAt? place := by
  unfold octetsAt?
  rcases h place with hsame | ⟨-, hnone, hmade⟩
  · rw [hsame]
  · rw [hnone, hmade]

/-- Making one directory adds it where the path leads. -/
theorem extends_of_makeDirectory (hplace : among (p.resolve current))
    (h : t.makeDirectory current p = .ok t') : t.Extends among t' := by
  unfold makeDirectory at h
  cases hfound : t.place current p with
  | error fault => simp [hfound, bind, Except.bind] at h
  | ok place =>
    rw [← resolve_of_place hfound] at hplace
    simp only [hfound, bind, Except.bind] at h
    cases hnode : t.node? place with
    | some node => simp [hnode, throw, throwThe, MonadExceptOf.throw] at h
    | none =>
      simp [hnode, pure, Except.pure] at h
      subst h
      -- the root is always there, so it is not what was made
      have hroot : place ≠ [] := by
        rintro rfl
        simp at hnode
      intro other
      rw [node?_set t _ hroot]
      by_cases hother : other = place
      · rw [if_pos hother, hother]
        exact .inr ⟨hplace, hnode, rfl⟩
      · rw [if_neg hother]
        exact .inl rfl

/-- Whatever makes the directories above, only what it adds and the directory are added. -/
theorem extends_of_makeDirectoryWith {make : Tree → Except FileFault Tree}
    (hmake : ∀ above, make t = .ok above → t.Extends among above)
    (hplace : among (p.resolve current)) (h : t.makeDirectoryWith make current p = .ok t') :
    t.Extends among t' := by
  unfold makeDirectoryWith at h
  -- it is made at once, or after those above it, or is there already
  split at h
  · next made hmade =>
    obtain rfl := Except.ok.inj h
    exact extends_of_makeDirectory hplace hmade
  · split at h
    · obtain ⟨above, habove, h⟩ := bind_eq_ok_iff.mp h
      split at h
      · next made hmade =>
        obtain rfl := Except.ok.inj h
        exact (hmake above habove).trans (extends_of_makeDirectory hplace hmade)
      · obtain ⟨-, rfl⟩ := sparing_eq_ok_iff.mp h
        exact hmake above habove
    · obtain ⟨-, rfl⟩ := sparing_eq_ok_iff.mp h
      exact Extends.refl _ _

/-- By induction on the names, last one first: those above a directory are passed on the way
    to it. -/
theorem extends_of_makeDirectoriesAt {root : String} {names : List String}
    (h : t.makeDirectoriesAt current root names = .ok t') :
    t.Extends (Path.Passes { root, names := names.reverse } current) t' := by
  induction names generalizing t t' with
  | nil =>
    unfold makeDirectoriesAt at h
    refine extends_of_makeDirectoryWith ?_ ⟨[], List.prefix_refl _, rfl⟩ h
    intro above habove
    obtain rfl := Except.ok.inj habove
    exact Extends.refl _ _
  | cons name rest ih =>
    unfold makeDirectoriesAt at h
    refine extends_of_makeDirectoryWith ?_ ⟨_, List.prefix_refl _, rfl⟩ h
    intro above habove
    apply (ih habove).mono
    -- the path to a directory passes those above it
    rintro place ⟨names, hnames, hplace⟩
    refine ⟨names, hnames.trans ?_, hplace⟩
    rw [List.reverse_cons]
    exact List.prefix_append _ _

/-- Making a directory with those above it adds directories on the way along its path. -/
theorem extends_of_makeDirectories (h : t.makeDirectories current p = .ok t') :
    t.Extends (p.Passes current) t' := by
  have hadded := extends_of_makeDirectoriesAt h
  rwa [List.reverse_reverse] at hadded

/-! ## Texts -/

/-- A text that was read has no carriage return in it. -/
theorem not_mem_of_textOf? {octets : ByteArray} {s : String} (h : textOf? octets = some s) :
    '\r' ∉ s.toList := by
  obtain ⟨found, -, rfl⟩ := Option.map_eq_some_iff.mp h
  rw [String.toList_ofList]
  exact Text.not_mem_unifyLineEnds _

/-- The bytes of a text encode it. -/
theorem fromUTF8?_toUTF8 (s : String) : String.fromUTF8? s.toUTF8 = some s :=
  dif_pos s.isValidUTF8

/-- The bytes of a text are those of no other one. -/
theorem eq_toUTF8_of_fromUTF8? {octets : ByteArray} {s : String}
    (h : String.fromUTF8? octets = some s) : octets = s.toUTF8 := by
  unfold String.fromUTF8? at h
  split at h
  · obtain rfl := Option.some.inj h
    rfl
  · cases h

/-- A text reads back from its bytes exactly if it has no carriage return in it. -/
theorem textOf?_toUTF8_iff {s : String} : textOf? s.toUTF8 = some s ↔ '\r' ∉ s.toList :=
  ⟨not_mem_of_textOf?, textOf?_toUTF8⟩

/-- Bytes that a text is read from are those of the text exactly if no carriage return is in
    what they encode. -/
theorem eq_toUTF8_iff {octets : ByteArray} {s : String} (h : textOf? octets = some s) :
    octets = s.toUTF8 ↔
      ∀ found, String.fromUTF8? octets = some found → '\r' ∉ found.toList := by
  obtain ⟨found, hfound, hs⟩ := Option.map_eq_some_iff.mp h
  have hoctets := eq_toUTF8_of_fromUTF8? hfound
  constructor
  · rintro rfl other hother
    have hsame : s = other := Option.some.inj ((fromUTF8?_toUTF8 s).symm.trans hother)
    rw [← hsame]
    exact not_mem_of_textOf? h
  · intro hplain
    rw [Text.unifyLineEnds_eq_self (hplain found hfound), String.ofList_toList] at hs
    rw [hoctets, hs]

end Tree

end Files

/-! ## Writing the modules -/

namespace Generation.Writing

variable {current place : Place} {out : Path} {s s' : Writing} {m : ClientModule}
  {ms : List ClientModule}

/-- The file of the module is in the directory with the module's text, line ends apart. -/
def stands (t : Tree) (place : Place) (m : ClientModule) : Bool :=
  (t.octetsAt? (place ++ [m.filename])).bind Tree.textOf? == some m.source

theorem stands_eq_true_iff {t : Tree} : stands t place m = true ↔
    ∃ octets, t.octetsAt? (place ++ [m.filename]) = some octets ∧
      Tree.textOf? octets = some m.source := by
  unfold stands
  rw [beq_iff_eq, Option.bind_eq_some_iff]

theorem stands_congr {t t' : Tree} (h : t'.octetsAt? (place ++ [m.filename])
    = t.octetsAt? (place ++ [m.filename])) : stands t' place m = stands t place m := by
  unfold stands
  rw [h]

/-- One step: a module whose file stands is left alone, and any other one is written. -/
theorem put_eq (hplace : s.files.place current (out.child m.filename) = .ok (place ++ [m.filename]))
    (h : s.put current out m = .ok s') :
    s' = if stands s.files place m then
        { s with unchanged := s.unchanged ++ [out.child m.filename] }
      else
        { s with files := s.files.set (place ++ [m.filename]) (.file m.source.toUTF8)
                 written := s.written ++ [out.child m.filename] } := by
  -- the test reads the file if there is one, and a file that is no text ends the step
  have hholds : ∀ held, holdsText s.files current (out.child m.filename) m.source = .ok held →
      held = stands s.files place m := by
    intro held hheld
    rw [holdsText_eq _ hplace] at hheld
    unfold stands
    cases hoctets : s.files.octetsAt? (place ++ [m.filename]) with
    | none => simpa [hoctets] using hheld.symm
    | some octets =>
      rw [hoctets, Option.elim_some] at hheld
      rw [Option.bind_some]
      cases htext : Tree.textOf? octets with
      | none => simp [htext] at hheld
      | some found => simpa [htext] using hheld.symm
  unfold put at h
  obtain ⟨held, hheld, h⟩ := bind_eq_ok_iff.mp h
  rw [← hholds held hheld]
  cases held with
  | true => simpa [pure, Except.pure] using h.symm
  | false =>
    obtain ⟨files, hwrite, h⟩ := bind_eq_ok_iff.mp h
    rw [mapError_eq_ok_iff] at hwrite
    unfold Tree.write at hwrite
    by_cases hdirectory : s.files.isDirectoryAt (place ++ [m.filename]) = true
    · simp [hplace, hdirectory, bind, Except.bind, throw, throwThe, MonadExceptOf.throw] at hwrite
    · obtain rfl : s.files.set (place ++ [m.filename]) (.file m.source.toUTF8) = files := by
        simpa [hplace, hdirectory, bind, Except.bind, pure, Except.pure] using hwrite
      simpa [pure, Except.pure] using h.symm

/-- What became of some modules: those whose files stood are left alone, the others are
    written, and nothing else has changed. -/
structure Settled (current : Place) (out : Path) (place : Place) (ms : List ClientModule)
    (s s' : Writing) : Prop where
  keeps : s.files.Keeps s'.files
  leads : ∀ m ∈ ms, s.files.place current (out.child m.filename) = .ok (place ++ [m.filename])
  written : s'.written = s.written
    ++ (ms.filter fun m => !stands s.files place m).map fun m => out.child m.filename
  unchanged : s'.unchanged = s.unchanged
    ++ (ms.filter (stands s.files place)).map fun m => out.child m.filename
  replaced : ∀ m ∈ ms, stands s.files place m = false →
    s'.files.node? (place ++ [m.filename]) = some (.file m.source.toUTF8)
  elsewhere : ∀ p, (∀ m ∈ ms, stands s.files place m = false → p ≠ place ++ [m.filename]) →
    s'.files.node? p = s.files.node? p

/-- A step does not change which of the other modules stand. -/
theorem stands_eq_of_put
    (hplace : s.files.place current (out.child m.filename) = .ok (place ++ [m.filename]))
    (h : s.put current out m = .ok s') {other : ClientModule}
    (hother : other.filename ≠ m.filename) :
    stands s'.files place other = stands s.files place other := by
  have hne : place ++ [other.filename] ≠ place ++ [m.filename] := by simpa using hother
  apply stands_congr
  unfold Tree.octetsAt?
  rw [(step_of_put h).node?_eq hplace hne]

/-- What later steps settle, they settle together with the one before them: that one changes no
    file of theirs, and they leave its file as it was written. -/
theorem Settled.cons {s₁ : Writing} (hout : s.files.place current out = .ok place)
    (hdirectory : s.files.node? place = some .directory)
    (hplace : s.files.place current (out.child m.filename) = .ok (place ++ [m.filename]))
    (hput : s.put current out m = .ok s₁) (hothers : ∀ other ∈ ms, other.filename ≠ m.filename)
    (h : Settled current out place ms s₁ s') : Settled current out place (m :: ms) s s' := by
  have hstep := step_of_put hput
  have hmade := put_eq hplace hput
  have hroot : place ++ [m.filename] ≠ [] := by simp
  have hstands : ∀ other ∈ ms, stands s₁.files place other = stands s.files place other :=
    fun other hother => stands_eq_of_put hplace hput (hothers other hother)
  have hwritten := h.written
  have hunchanged := h.unchanged
  rw [List.filter_congr fun other hother => by rw [hstands other hother]] at hwritten hunchanged
  refine ⟨fun p hp => h.keeps p (hstep.keeps p hp), ?_, ?_, ?_, ?_, ?_⟩
  · intro other hother
    rcases List.mem_cons.mp hother with rfl | hother
    · exact hplace
    · -- a path in the directory can be followed before a step if it can be after it
      have hafter := h.leads other hother
      rw [Tree.place_child _ (hstep.keeps.place hout) (hstep.keeps _ hdirectory),
        ← Tree.place_child _ hout hdirectory] at hafter
      exact hafter
  · rw [hwritten, hmade]
    cases hm : stands s.files place m <;> simp [hm]
  · rw [hunchanged, hmade]
    cases hm : stands s.files place m <;> simp [hm]
  · intro other hother hfalse
    rcases List.mem_cons.mp hother with rfl | hother
    · have hkept := h.elsewhere (place ++ [other.filename]) fun later hlate _ hsame =>
        hothers later hlate (by simpa using hsame.symm)
      rw [hkept, hmade, hfalse]
      simp [Tree.node?_set _ _ hroot]
    · exact h.replaced other hother (by rw [hstands other hother, hfalse])
  · intro p hp
    have hlast := h.elsewhere p fun other hother hfalse =>
      hp other (List.mem_cons_of_mem _ hother) (by rw [← hstands other hother, hfalse])
    rw [hlast, hmade]
    cases hm : stands s.files place m with
    | true => rfl
    | false => simp [Tree.node?_set _ _ hroot, hp m List.mem_cons_self hm]

/-- All modules are settled, by induction on them. -/
theorem settled_of_putAll (hout : s.files.place current out = .ok place)
    (hdirectory : s.files.node? place = some .directory)
    (hdown : ∀ m ∈ ms, m.filename ≠ upward) (hnames : (ms.map ClientModule.filename).Nodup)
    (h : (s.putAll current out ms).1 = .ok s') :
    Settled current out place ms s s' ∧ (s.putAll current out ms).2 = s'.files := by
  induction ms generalizing s with
  | nil =>
    obtain rfl : s = s' := Except.ok.inj h
    exact ⟨⟨Tree.Keeps.refl _, by simp, by simp, by simp, by simp, fun _ _ => rfl⟩, rfl⟩
  | cons m rest ih =>
    unfold putAll at h ⊢
    cases hdone : s.put current out m with
    | error fault => simp [hdone] at h
    | ok s₁ =>
      simp only [hdone] at h ⊢
      obtain ⟨hnew, hrest⟩ := List.nodup_cons.mp hnames
      have hstep := step_of_put hdone
      obtain ⟨p, hplace⟩ := hstep.exists_place
      obtain rfl := Tree.place_child_of_ne hout hplace (hdown m List.mem_cons_self)
      -- no other output goes to this file
      have hothers : ∀ other ∈ rest, other.filename ≠ m.filename := fun other hother hsame =>
        hnew (hsame ▸ List.mem_map_of_mem hother)
      -- the induction hypothesis is used from the files after this step
      obtain ⟨hlater, hfiles⟩ := ih (hstep.keeps.place hout) (hstep.keeps _ hdirectory)
        (fun other hother => hdown other (List.mem_cons_of_mem _ hother)) hrest h
      exact ⟨hlater.cons hout hdirectory hplace hdone hothers, hfiles⟩

end Generation.Writing

/-! ## Runs -/

namespace Generation

variable {w : Workspace} {settings : Settings} {r : Request} {g plan : Generation} {out : Path}
  {files : Tree}

/-- The place of the file of an output. -/
def fileOf (w : Workspace) (out : Path) (m : ClientModule) : Place :=
  (out.child m.filename).resolve w.current

/-- What was done with the outputs of a run that wrote: first the directory was made, and then
    the modules were put into it. -/
structure Wrote (w : Workspace) (out : Path) (outputs : List ClientModule) (g : Generation)
    (files : Tree) (made : Tree) (place : Place) (s : Writing) : Prop where
  makes : w.makeDirectories out = .ok made
  leads : made.place w.current out = .ok place
  directory : made.node? place = some .directory
  down : ∀ m ∈ outputs, m.filename ≠ upward
  names : (outputs.map ClientModule.filename).Nodup
  settled : Writing.Settled w.current out place outputs { files := made } s
  files : files = s.files
  written : g.written = s.written
  unchanged : g.unchanged = s.unchanged

theorem exists_wrote_of_writeTo {search : List Path} {transport : String} {texts : List String}
    (hchecked : Checked w search transport texts plan) (h : writeTo w out plan = (.ok g, files)) :
    ∃ made place s, Wrote w out plan.outputs g files made place s := by
  unfold writeTo at h
  cases hmake : w.makeDirectories out with
  | error fault => simp [hmake] at h
  | ok made =>
    simp only [hmake] at h
    obtain ⟨hresult, hfiles⟩ := Prod.mk.inj h
    obtain ⟨place, hplace, hdirectory⟩ :=
      Tree.isDirectory_iff.mp
        (Tree.isDirectory_of_makeDirectories (makeDirectories_eq_ok_iff.mp hmake).2)
    -- no name leads out of the directory and none is there twice, so writing settles
    cases hput : (Writing.putAll w.current out { files := made } plan.outputs).1 with
    | error fault => simp [hput, Except.map] at hresult
    | ok s =>
      have hdown : ∀ m ∈ plan.outputs, m.filename ≠ upward := fun m hm =>
        hchecked.filename_ne_upward hm
      obtain ⟨hsettled, hafter⟩ := Writing.settled_of_putAll (s := { files := made }) hplace
        hdirectory hdown hchecked.nodup_filename hput
      simp only [hput, Except.map, Except.ok.injEq] at hresult
      subst hresult
      exact ⟨made, place, s, hmake, hplace, hdirectory, hdown, hchecked.nodup_filename, hsettled,
        hfiles.symm.trans hafter, rfl, rfl⟩

/-- A result, with the files that are left. -/
theorem exists_run_eq (h : ∃ g, (run w settings r).1 = .ok g) :
    ∃ g files, run w settings r = (.ok g, files) := by
  obtain ⟨g, hg⟩ := h
  exact ⟨g, (run w settings r).2, Prod.ext hg rfl⟩

/-- The directory of a plan is the one of its request. -/
theorem outOf_of_planned (hplan : ofRequest w settings r = .ok plan) (hout : plan.out = some out) :
    outOf w r = .ok (some out) :=
  hout ▸ (plannedFor_of_ofRequest hplan).out

/-- A run that writes and has a result did so with its outputs. -/
theorem exists_wrote_of_run (h : run w settings r = (.ok g, files)) (hwrites : r.writes = true) :
    ∃ plan out made place s, ofRequest w settings r = .ok plan ∧ Carries plan g ∧
      plan.out = some out ∧ g.out = some out ∧ Wrote w out g.outputs g files made place s := by
  obtain ⟨plan, hplan, hcarries, hwrite⟩ := exists_plan_of_run (congrArg Prod.fst h)
  obtain ⟨out, hout, hwritten⟩ := hwrite hwrites
  have hchecked := (plannedFor_of_ofRequest hplan).checked
  rw [run_of_writes hplan hout hwrites] at h
  obtain ⟨-, hgout, -⟩ := carries_of_writeTo hwritten
  obtain ⟨made, place, s, hwrote⟩ := exists_wrote_of_writeTo hchecked h
  rw [← hcarries.outputs] at hwrote
  exact ⟨plan, out, made, place, s, hplan, hcarries, hout, hgout, hwrote⟩

namespace Wrote

variable {outputs : List ClientModule} {made : Tree} {place : Place} {s : Writing}
  {m : ClientModule}

/-- The path of an output leads to its file in the directory. -/
theorem place_made (h : Wrote w out outputs g files made place s) (hm : m ∈ outputs) :
    made.place w.current (out.child m.filename) = .ok (place ++ [m.filename]) :=
  h.settled.leads m hm

/-- It still leads there when all is written. -/
theorem place_files (h : Wrote w out outputs g files made place s) (hm : m ∈ outputs) :
    files.place w.current (out.child m.filename) = .ok (place ++ [m.filename]) := by
  rw [h.files]
  exact h.settled.keeps.place (h.place_made hm)

theorem fileOf_eq (h : Wrote w out outputs g files made place s) (hm : m ∈ outputs) :
    fileOf w out m = place ++ [m.filename] :=
  (Tree.resolve_of_place (h.place_made hm)).symm

/-- The paths of two outputs differ. -/
theorem eq_of_child_eq (h : Wrote w out outputs g files made place s) {other : ClientModule}
    (hm : m ∈ outputs) (hother : other ∈ outputs)
    (hsame : out.child m.filename = out.child other.filename) : m = other := by
  have hfile : m.filename = other.filename := by
    simpa [Path.child] using congrArg Path.names hsame
  exact List.inj_on_of_nodup_map h.names hm hother hfile

/-- An output is written exactly if its file did not stand before. -/
theorem mem_written_iff (h : Wrote w out outputs g files made place s) (hm : m ∈ outputs) :
    out.child m.filename ∈ g.written ↔ Writing.stands made place m = false := by
  rw [h.written, h.settled.written, List.nil_append, List.mem_map]
  constructor
  · rintro ⟨other, hother, hsame⟩
    obtain ⟨hmem, hfalse⟩ := List.mem_filter.mp hother
    rw [← h.eq_of_child_eq hmem hm hsame]
    simpa using hfalse
  · intro hfalse
    exact ⟨m, List.mem_filter.mpr ⟨hm, by simpa using hfalse⟩, rfl⟩

/-- An output is left alone exactly if its file stood before. -/
theorem mem_unchanged_iff (h : Wrote w out outputs g files made place s) (hm : m ∈ outputs) :
    out.child m.filename ∈ g.unchanged ↔ Writing.stands made place m = true := by
  rw [h.unchanged, h.settled.unchanged, List.nil_append, List.mem_map]
  constructor
  · rintro ⟨other, hother, hsame⟩
    obtain ⟨hmem, htrue⟩ := List.mem_filter.mp hother
    rwa [← h.eq_of_child_eq hmem hm hsame]
  · intro htrue
    exact ⟨m, List.mem_filter.mpr ⟨hm, htrue⟩, rfl⟩

/-- Only missing directories on the way were made. -/
theorem extends_made (h : Wrote w out outputs g files made place s) :
    w.files.Extends (out.Passes w.current) made :=
  Tree.extends_of_makeDirectories (makeDirectories_eq_ok_iff.mp h.makes).2

/-- No file is there only because the directory was made. -/
theorem octetsAt?_made (h : Wrote w out outputs g files made place s) (p : Place) :
    made.octetsAt? p = w.files.octetsAt? p :=
  h.extends_made.octetsAt?_eq p

/-- A file that was written holds the bytes of its output. -/
theorem octetsAt?_of_written (h : Wrote w out outputs g files made place s) (hm : m ∈ outputs)
    (hfalse : Writing.stands made place m = false) :
    files.octetsAt? (place ++ [m.filename]) = some m.source.toUTF8 := by
  unfold Tree.octetsAt?
  rw [h.files, h.settled.replaced m hm hfalse]

/-- A file that stood holds what it held before. -/
theorem octetsAt?_of_unchanged (h : Wrote w out outputs g files made place s) (hm : m ∈ outputs)
    (htrue : Writing.stands made place m = true) :
    files.octetsAt? (place ++ [m.filename]) = w.files.octetsAt? (place ++ [m.filename]) := by
  rw [← h.octetsAt?_made]
  unfold Tree.octetsAt?
  rw [h.files, h.settled.elsewhere]
  -- no other output is written to the same file
  intro other hother hfalse hsame
  have hfile : m.filename = other.filename := by simpa using hsame
  rw [← List.inj_on_of_nodup_map h.names hm hother hfile, htrue] at hfalse
  cases hfalse

end Wrote

/-! ## What is on disk -/

/-- The files that a run with a result leaves, compared with those that it found. -/
structure LeftOnDisk (w : Workspace) (out : Path) (g : Generation) (files : Tree) : Prop where
  /-- Each output is listed once, by the path of its file. -/
  listed : (g.written ++ g.unchanged).Perm (g.outputs.map fun m => out.child m.filename)
  /-- A file that was written holds the bytes of its output. -/
  written : ∀ m ∈ g.outputs, out.child m.filename ∈ g.written →
    files.read w.current (out.child m.filename) = .ok m.source.toUTF8
  /-- A file that was left alone is as it was. What is read from it is the text of its output,
      and its bytes are those of the output exactly if they encode no carriage return. -/
  unchanged : ∀ m ∈ g.outputs, out.child m.filename ∈ g.unchanged →
    ∃ octets, w.files.octetsAt? (fileOf w out m) = some octets ∧
      files.read w.current (out.child m.filename) = .ok octets ∧
      Tree.textOf? octets = some m.source ∧
      (octets = m.source.toUTF8 ↔
        ∀ found, String.fromUTF8? octets = some found → '\r' ∉ found.toList)
  /-- Everywhere else all is as it was, but for directories on the way to the output directory
      that were made where nothing was. -/
  elsewhere : ∀ place,
    (∀ m ∈ g.outputs, out.child m.filename ∈ g.written → place ≠ fileOf w out m) →
    files.node? place = w.files.node? place ∨
      out.Passes w.current place ∧ w.files.node? place = none ∧
        files.node? place = some .directory

/-- **A run leaves its outputs on disk, but for line ends.** If a run that writes has a result,
    each output is listed once, with the path of its file in the output directory. A written
    file holds exactly the bytes of its output. A file that is listed as unchanged holds what it
    held before, from which the text of the output is read: it holds exactly the bytes of the
    output unless there are carriage returns in it. Besides, only missing directories on the way
    to the output directory are made. -/
theorem run_leaves_outputs (h : run w settings r = (.ok g, files)) (hwrites : r.writes = true) :
    ∃ out, g.out = some out ∧ LeftOnDisk w out g files := by
  obtain ⟨plan, out, made, place, s, -, -, -, hout, hwrote⟩ := exists_wrote_of_run h hwrites
  refine ⟨out, hout, ?_, ?_, ?_, ?_⟩
  · have hlisted : (s.written ++ s.unchanged).Perm
        (g.outputs.map fun m => out.child m.filename) := by
      -- each output is either written or left alone
      rw [hwrote.settled.written, hwrote.settled.unchanged, List.nil_append, List.nil_append,
        ← List.map_append]
      apply List.Perm.map
      exact List.perm_append_comm.trans (List.filter_append_perm _ _)
    rw [hwrote.written, hwrote.unchanged]
    exact hlisted
  · intro m hm hlisted
    have hfalse := (hwrote.mem_written_iff hm).mp hlisted
    exact (Tree.read_eq_ok_iff (hwrote.place_files hm)).mpr (hwrote.octetsAt?_of_written hm hfalse)
  · intro m hm hlisted
    have htrue := (hwrote.mem_unchanged_iff hm).mp hlisted
    obtain ⟨octets, hoctets, htext⟩ := Writing.stands_eq_true_iff.mp htrue
    rw [hwrote.octetsAt?_made] at hoctets
    have hafter := (hwrote.octetsAt?_of_unchanged hm htrue).trans hoctets
    refine ⟨octets, ?_, (Tree.read_eq_ok_iff (hwrote.place_files hm)).mpr hafter, htext,
      Tree.eq_toUTF8_iff htext⟩
    rw [hwrote.fileOf_eq hm, hoctets]
  · intro p hp
    -- a place that no output went to is as it was when the directories had been made
    have hkept : files.node? p = made.node? p := by
      rw [hwrote.files]
      apply hwrote.settled.elsewhere
      intro m hm hfalse
      rw [← hwrote.fileOf_eq hm]
      exact hp m hm ((hwrote.mem_written_iff hm).mpr hfalse)
    rw [hkept]
    exact hwrote.extends_made p

/-- The short workspace, in which the client is written for the first time. -/
theorem run_leaves_outputs_sample :
    ∃ g files, run Sample.workspace {} Sample.asked = (.ok g, files) ∧
      Sample.asked.writes = true ∧
      ∃ out, g.out = some out ∧ LeftOnDisk Sample.workspace out g files := by
  obtain ⟨g, files, hrun⟩ := exists_run_eq Sample.exists_run_asked
  exact ⟨g, files, hrun, rfl, run_leaves_outputs hrun rfl⟩

end Generation

/-! ## Runs for one root -/

/-- A module that is found is read from the text of its file. -/
theorem Descriptor.load_of_ofSource {w : Workspace} {search : List Path} {module source : String}
    {file : ModuleFile} {octets : ByteArray} {report : Report (Option Descriptor)}
    (hfound : w.findModule module search = .ok (some file))
    (hread : w.files.read w.current file.path = .ok octets)
    (htext : Tree.textOf? octets = some source)
    (hreport : ofSource module file.isPackage source (w.complaint source) = .ok report) :
    load w search module = .ok report := by
  simp only [load, hfound, Except.mapError, bind, Except.bind, ofFile, hread, ofOctets, htext,
    hreport]

/-- A label whose module is found asks for the root that is read from its file. -/
theorem RootLabel.request?_of_ofSource {w : Workspace} {search : List Path} (label : RootLabel)
    {source : String} {file : ModuleFile} {octets : ByteArray} {d : Descriptor} {e : Endpoint}
    {report : Report (Option Descriptor)}
    (hfound : w.findModule label.module search = .ok (some file))
    (hread : w.files.read w.current file.path = .ok octets)
    (htext : Tree.textOf? octets = some source)
    (hreport : Descriptor.ofSource label.module file.isPackage source (w.complaint source)
      = .ok report)
    (hvalue : report.value = some d) (hroot : d.root? label.name = some e) :
    Descriptor.Loads w search label.module ∧
      label.request? w search = some { endpoint := e, scope := d.scope } := by
  have hload := Descriptor.load_of_ofSource hfound hread htext hreport
  have hloads : Descriptor.Loads w search label.module := ⟨report, hload⟩
  have hloaded : Descriptor.loaded w search label.module = report :=
    Except.ok.inj (hloads.load_eq.symm.trans hload)
  refine ⟨hloads, ?_⟩
  unfold RootLabel.request?
  rw [hloaded, hvalue, Option.bind_some, hroot, Option.map_some]

namespace Generation

open Gathering (labelsOf requestsOf)

variable {w : Workspace} {settings : Settings} {r : Request} {plan : Generation} {out : Path}
  {label : RootLabel} {m : ClientModule} {made : Tree} {place : Place}

/-- The only output of a plan for one root is the module of its client. -/
theorem outputs_of_request? {request : RootRequest} {client : ClientRoot}
    (hlabels : labelsOf r.roots = [label])
    (hrequest : label.request? w (searchOf settings r.search) = some request)
    (hcompiled : (compileAll [request]).value = [client])
    (hgenerate : Client.generate client (transportOf settings r.transport) = .ok m)
    (hplan : ofRequest w settings r = .ok plan) : plan.outputs = [m] := by
  have hchecked := (plannedFor_of_ofRequest hplan).checked
  have hrequests : requestsOf w (searchOf settings r.search) plan.roots = [request] := by
    rw [hchecked.roots, hlabels]
    unfold requestsOf
    rw [List.filterMap_cons_some hrequest, List.filterMap_nil]
  have houtputs := hchecked.outputs
  rw [hrequests, hcompiled] at houtputs
  obtain ⟨m', ms, hprinted, hnone, hms⟩ := List.forall₂_cons_left_iff.mp houtputs
  obtain rfl := List.forall₂_nil_left_iff.mp hnone
  rw [hgenerate] at hprinted
  rw [hms, Except.ok.inj hprinted]

/-- A run for one root has a result if its module can be read and nothing but text stands where
    its output goes. -/
theorem exists_run_of_output (hlabels : labelsOf r.roots = [label])
    (hloads : Descriptor.Loads w (searchOf settings r.search) label.module)
    (houtputs : ∀ plan, ofRequest w settings r = .ok plan → plan.outputs = [m])
    (hout : outOf w r = .ok (some out)) (hmake : w.makeDirectories out = .ok made)
    (hfile : made.place w.current (out.child m.filename) = .ok place)
    (htext : ∀ node, made.node? place = some node →
      ∃ octets, node = .file octets ∧ (Tree.textOf? octets).isSome = true) :
    ∃ g, (run w settings r).1 = .ok g := by
  -- there is only one output, and its file is no directory
  have hwritable : Writable w settings r out made := by
    refine ⟨hout, hmake, ?_⟩
    intro plan hplan m' hm'
    rw [houtputs plan hplan, List.mem_singleton] at hm'
    subst hm'
    intro hdirectory
    obtain ⟨place', hplace', hnode⟩ := Tree.isDirectory_iff.mp hdirectory
    obtain rfl : place' = place := Except.ok.inj (hplace'.symm.trans hfile)
    obtain ⟨octets, hnode', -⟩ := htext _ hnode
    cases hnode'
  refine (exists_run_iff hwritable).mpr ⟨?_, fun _ => ?_⟩
  · intro other hother
    rw [hlabels, List.mem_singleton] at hother
    rw [hother]
    exact hloads
  · intro plan hplan m' hm'
    rw [houtputs plan hplan, List.mem_singleton] at hm'
    subst hm'
    apply (Tree.isText_iff hfile).mpr
    intro octets hoctets
    unfold Tree.octetsAt? at hoctets
    split at hoctets
    · next found hnode =>
      obtain ⟨octets', hnode', hsome⟩ := htext _ hnode
      cases hnode'
      cases hoctets
      exact hsome
    · cases hoctets

end Generation

/-! ## A file with other line ends

    The client of the short source stands in the output directory already, but its lines end
    with a carriage return and a line feed. -/

namespace Text

/-- The characters with a carriage return before each line feed. -/
def withReturns (cs : List Char) : List Char :=
  cs.flatMap fun c => if c = '\n' then ['\r', '\n'] else [c]

/-- Unifying the line ends takes the carriage returns away again. -/
theorem unifyLineEnds_withReturns {cs : List Char} (h : '\r' ∉ cs) :
    unifyLineEnds (withReturns cs) = cs := by
  induction cs with
  | nil => rfl
  | cons c rest ih =>
    obtain ⟨hc, hrest⟩ := not_or.mp (mt List.mem_cons.mpr h)
    unfold withReturns at ih ⊢
    rw [List.flatMap_cons]
    by_cases hfeed : c = '\n'
    · rw [if_pos hfeed, hfeed]
      simp [unifyLineEnds, ih hrest]
    · rw [if_neg hfeed]
      simp [unifyLineEnds, ih hrest, Ne.symm hc]

end Text

/-- What is in a text of lines, line feeds apart, is in one of the lines. -/
theorem Client.mem_textOfLines_iff {lines : List String} {c : Char} (hc : c ≠ '\n') :
    c ∈ (textOfLines lines).toList ↔ ∃ line ∈ lines, c ∈ line.toList := by
  cases lines with
  | nil => simp [textOfLines, hc]
  | cons line rest =>
    rw [toList_textOfLines (List.cons_ne_nil _ _)]
    simp [hc]

namespace Sample

/-- The lines of the client. -/
def clientLines : List String :=
  ["# Code generated by shapi from app.api. DO NOT EDIT.",
    "from __future__ import annotations",
    "",
    "import t.m",
    "from app.api import A, AClient",
    "from shapi.api.response import ApiResponse",
    "from shapi.client.transport import get as _get",
    "",
    "",
    "class AClient(A.G):",
    "    \"\"\"/\"\"\"",
    "",
    "    async def get(self, node: A) -> ApiResponse[AClient, t.T]:",
    "        return await _get(node, A, AClient, t.T)"]

/-- The module that the client is printed to. -/
def output : ClientModule :=
  { module := "app.api", root := "A", moduleName := "a_client", className := "AClient"
    source := Client.textOfLines clientLines, operationCount := 1, unitCount := 1 }

theorem generate_client : Client.generate client "shapi.client.transport" = .ok output := by
  decide +kernel

theorem output_plain : '\r' ∉ output.source.toList := by
  have hlines : ∀ line ∈ clientLines, '\r' ∉ line.toList := by
    apply Text.forall_of_map_toList (P := ('\r' ∉ ·))
    · unfold clientLines
      repeat apply Text.map_toList_cons String.toList_ofList
      rfl
    · decide +kernel
  intro hreturn
  obtain ⟨line, hline, hmem⟩ := (Client.mem_textOfLines_iff (by decide)).mp hreturn
  exact hlines line hline hmem

/-- The text of the client with other line ends. -/
def returnedText : String :=
  String.ofList (Text.withReturns output.source.toList)

theorem textOf?_returnedText : Tree.textOf? returnedText.toUTF8 = some output.source := by
  unfold Tree.textOf?
  rw [Tree.fromUTF8?_toUTF8, Option.map_some, returnedText, String.toList_ofList,
    Text.unifyLineEnds_withReturns output_plain, String.ofList_toList]

/-- The short source, and its client as it was written on another system. -/
def returned : Workspace :=
  { files := { nodes := [(["app"], .directory), (["app", "api.py"], .file source.toUTF8),
      (["out"], .directory), (["out", "a_client.py"], .file returnedText.toUTF8)] } }

/-- A request for the root of the source. -/
def askedOnce : Generation.Request :=
  { roots := ["app.api:A"], out := some (Path.ofText "out") }

/-- Wherever the file of the module is found, it gives the root of the source. -/
theorem request?_api {w : Workspace} {file : ModuleFile}
    (hfound : w.findModule "app.api" search = .ok (some file)) (hpackage : file.isPackage = false)
    (hread : w.files.read w.current file.path = .ok source.toUTF8) :
    Descriptor.Loads w search "app.api" ∧
      RootLabel.request? w search ⟨"app.api", "A"⟩ = some request := by
  obtain ⟨report, hreport, hvalue⟩ := exists_report (w.complaint source)
  rw [← hpackage] at hreport
  have hroots : (Descriptor.ofStatements "app.api" false body).value.roots = [endpoint] :=
    readRoots_body
  refine RootLabel.request?_of_ofSource ⟨"app.api", "A"⟩ hfound hread textOf?_source hreport
    hvalue ?_
  unfold Descriptor.root?
  rw [hroots]
  rfl

theorem labelsOf_askedOnce : Gathering.labelsOf askedOnce.roots = [⟨"app.api", "A"⟩] := by
  cbv

/-- The file of the client is there already. -/
theorem node?_returned : returned.files.node? (["out"] ++ [output.filename])
    = some (.file returnedText.toUTF8) := by
  have hname : output.filename = "a_client.py" := by decide
  rw [hname]
  rfl

theorem octetsAt?_returned : returned.files.octetsAt? (["out"] ++ [output.filename])
    = some returnedText.toUTF8 := by
  unfold Tree.octetsAt?
  rw [node?_returned]

/-- The module of the client that is already there is the only output. -/
theorem exists_run_returned : (∃ g, (Generation.run returned {} askedOnce).1 = .ok g) ∧
    ∀ plan, Generation.ofRequest returned {} askedOnce = .ok plan → plan.outputs = [output] := by
  have hfound : returned.findModule "app.api" search
      = .ok (some { module := "app.api", place := ["app", "api.py"], isPackage := false }) := rfl
  obtain ⟨hloads, hrequest⟩ := request?_api hfound rfl rfl
  have houtputs : ∀ plan, Generation.ofRequest returned {} askedOnce = .ok plan →
      plan.outputs = [output] := fun plan =>
    Generation.outputs_of_request? labelsOf_askedOnce hrequest compileAll_request generate_client
  have hfile : returned.files.place [] ((Path.ofText "out").child output.filename)
      = .ok (["out"] ++ [output.filename]) := by
    decide
  refine ⟨Generation.exists_run_of_output labelsOf_askedOnce hloads houtputs rfl rfl hfile ?_,
    houtputs⟩
  intro node hnode
  rw [node?_returned, Option.some.injEq] at hnode
  exact ⟨_, hnode.symm, by rw [textOf?_returnedText]; rfl⟩

end Sample

open Sample in
/-- **A file with other line ends is not replaced.** It is listed as unchanged, and afterwards
    it does not hold the bytes of its output. -/
theorem Sample.returned_left_alone :
    ∃ g files, Generation.run returned {} askedOnce = (.ok g, files) ∧
      output ∈ g.outputs ∧ (Path.ofText "out").child output.filename ∈ g.unchanged ∧
      files.read [] ((Path.ofText "out").child output.filename)
        ≠ .ok output.source.toUTF8 := by
  obtain ⟨hresult, houtputs⟩ := exists_run_returned
  obtain ⟨g, files, hrun⟩ := Generation.exists_run_eq hresult
  obtain ⟨plan, out, made, place, s, hplan, hcarries, hplanned, -, hwrote⟩ :=
    Generation.exists_wrote_of_run hrun rfl
  have houtput : output ∈ g.outputs := by
    rw [hcarries.outputs, houtputs plan hplan]
    exact List.mem_singleton_self _
  obtain rfl : Path.ofText "out" = out :=
    Option.some.inj (Except.ok.inj (Generation.outOf_of_planned hplan hplanned))
  have hmade : returned.makeDirectories (Path.ofText "out") = .ok returned.files := rfl
  obtain rfl : made = returned.files := Except.ok.inj (hwrote.makes.symm.trans hmade)
  have hout : returned.files.place [] (Path.ofText "out") = .ok ["out"] := rfl
  obtain rfl : place = ["out"] := Except.ok.inj (hwrote.leads.symm.trans hout)
  have hstands : Generation.Writing.stands returned.files ["out"] output = true :=
    Generation.Writing.stands_eq_true_iff.mpr
      ⟨_, octetsAt?_returned, textOf?_returnedText⟩
  refine ⟨g, files, hrun, houtput, (hwrote.mem_unchanged_iff houtput).mpr hstands, ?_⟩
  intro hread
  have hbytes := (Tree.read_eq_ok_iff (hwrote.place_files houtput)).mp hread
  rw [hwrote.octetsAt?_of_unchanged houtput hstands, octetsAt?_returned] at hbytes
  -- the bytes are those of the output only if no carriage return is in them
  have hplain := (Tree.eq_toUTF8_iff textOf?_returnedText).mp (Option.some.inj hbytes)
    returnedText (Tree.fromUTF8?_toUTF8 _)
  apply hplain
  rw [returnedText, String.toList_ofList]
  refine List.mem_flatMap.mpr ⟨'\n', ?_, by decide⟩
  show '\n' ∈ (Client.textOfLines clientLines).toList
  unfold Client.textOfLines
  rw [String.toList_append, List.mem_append]
  exact .inr (by decide)

end Waymark

import Mathlib
import Waymark.Generation
import Waymark.Proofs.ItemByItem

/-! # Writing into a directory

    What a run does with files, step by step:

    * A change keeps every directory (`Tree.Keeps`), so a path that led somewhere still leads
      there.
    * When a directory was made, its path leads to a directory
      (`Tree.isDirectory_of_makeDirectories`).
    * One module concerns its own file only. It can be written unless its path is too long to be
      followed or its file is there and is no text (`Writing.exists_put_iff`, `Writing.Step`).
    * So all modules can be written if and only if the path of each can be followed and each
      file that is there is text (`Writing.exists_putAll_iff`), and each of them is either
      written or left alone (`Writing.paths_of_putAll`).
-/

namespace Waymark

open Waymark.Files

namespace Files.Tree

variable {t t' : Tree} {current : Place} {p : Path}

/-! ## Following paths -/

/-- Every directory is still one. -/
def Keeps (t t' : Tree) : Prop :=
  ∀ place, t.node? place = some .directory → t'.node? place = some .directory

theorem Keeps.refl (t : Tree) : t.Keeps t :=
  fun _ h => h

/-- The root is a directory. -/
@[simp] theorem node?_nil (t : Tree) : t.node? [] = some .directory :=
  rfl

/-- Putting something where no directory is keeps the directories. -/
theorem keeps_set {place : Place} (node : Node) (h : t.node? place ≠ some .directory) :
    t.Keeps (t.set place node) := by
  have hroot : place ≠ [] := by
    rintro rfl
    exact h t.node?_nil
  intro other hother
  have hne : other ≠ place := by
    rintro rfl
    exact h hother
  rw [node?_set t node hroot, if_neg hne, hother]

/-- Names are followed from a directory, and none of them is too long. -/
theorem walk_cons_eq_ok_iff {here there : Place} {name : String} {rest : List String} :
    t.walk here (name :: rest) = .ok there ↔
      t.node? here = some .directory ∧ isLongName name = false ∧
        t.walk (Path.step here name) rest = .ok there := by
  rw [Tree.walk]
  cases t.node? here with
  | none => simp
  | some node =>
    cases node with
    | file octets => simp
    | directory => cases isLongName name <;> simp

/-- What leads to a place leads there while the directories are kept: all names but the last
    are followed from directories. -/
theorem Keeps.walk (h : t.Keeps t') {here there : Place} {names : List String}
    (hwalk : t.walk here names = .ok there) : t'.walk here names = .ok there := by
  induction names generalizing here with
  | nil => exact hwalk
  | cons name rest ih =>
    obtain ⟨hnode, hshort, hrest⟩ := walk_cons_eq_ok_iff.mp hwalk
    exact walk_cons_eq_ok_iff.mpr ⟨h here hnode, hshort, ih hrest⟩

/-- More names are followed from the place that the others lead to. -/
theorem walk_append (here : Place) (names more : List String) :
    t.walk here (names ++ more) = t.walk here names >>= fun there => t.walk there more := by
  induction names generalizing here with
  | nil => rfl
  | cons first rest ih =>
    rw [List.cons_append, Tree.walk, Tree.walk]
    cases t.node? here with
    | none => rfl
    | some node =>
      cases node with
      | file octets => rfl
      | directory =>
        by_cases hlong : isLongName first = true
        · simp only [hlong, if_true]
          rfl
        · simp only [hlong, Bool.false_eq_true, if_false]
          exact ih _

/-- The next name is followed from a directory unless it is too long. -/
theorem walk_concat {here there : Place} {names : List String} (name : String)
    (hwalk : t.walk here names = .ok there) (hnode : t.node? there = some .directory) :
    t.walk here (names ++ [name])
      = if isLongName name then .error .nameTooLong else .ok (Path.step there name) := by
  rw [walk_append, hwalk]
  simp [Tree.walk, hnode, bind, Except.bind]

/-- Following names leads where they say, if it leads anywhere. -/
theorem walk_eq {here there : Place} {names : List String} (h : t.walk here names = .ok there) :
    there = names.foldl Path.step here := by
  induction names generalizing here with
  | nil => exact (Except.ok.inj h).symm
  | cons name rest ih => exact ih (walk_cons_eq_ok_iff.mp h).2.2

theorem place_eq_ok_iff {place : Place} :
    t.place current p = .ok place ↔
      p.isLong = false ∧ t.walk (p.start current) p.names = .ok place := by
  unfold Tree.place
  rw [mapError_eq_ok_iff]
  cases p.isLong <;> simp

theorem resolve_of_place {place : Place} (h : t.place current p = .ok place) :
    place = p.resolve current :=
  walk_eq (place_eq_ok_iff.mp h).2

theorem Keeps.place (h : t.Keeps t') {place : Place} (hplace : t.place current p = .ok place) :
    t'.place current p = .ok place := by
  obtain ⟨hshort, hwalk⟩ := place_eq_ok_iff.mp hplace
  exact place_eq_ok_iff.mpr ⟨hshort, h.walk hwalk⟩

/-- The place of something in a directory, unless its name or its path is too long. -/
theorem place_child {place : Place} (name : String) (hplace : t.place current p = .ok place)
    (hnode : t.node? place = some .directory) :
    t.place current (p.child name)
      = if (p.child name).isLong || isLongName name
        then .error { error := .nameTooLong, path := (p.child name).text }
        else .ok (Path.step place name) := by
  obtain ⟨-, hwalk⟩ := place_eq_ok_iff.mp hplace
  have hnext := walk_concat name hwalk hnode
  unfold Tree.place
  rw [show (p.child name).names = p.names ++ [name] from rfl,
    show (p.child name).start current = p.start current from rfl, hnext]
  cases (p.child name).isLong <;> cases isLongName name <;> rfl

/-- A path in a directory that can be followed leads to a name in it. -/
theorem place_child_of_ne {place there : Place} {name : String}
    (hplace : t.place current p = .ok place) (hchild : t.place current (p.child name) = .ok there)
    (hname : name ≠ upward) : there = place ++ [name] := by
  rw [resolve_of_place hchild, Path.resolve_child, ← resolve_of_place hplace]
  unfold Path.step
  rw [if_neg (by simpa using hname)]

theorem isDirectory_iff : t.isDirectory current p = .ok true ↔
    ∃ place, t.place current p = .ok place ∧ t.node? place = some .directory := by
  unfold isDirectory ask
  cases t.place current p with
  | error fault => by_cases hlong : fault.error = .nameTooLong <;> simp [hlong]
  | ok place =>
    simp only [Except.ok.injEq, exists_eq_left', isDirectoryAt]
    cases t.node? place with
    | none => simp
    | some node => cases node <;> simp

/-! ## Making directories -/

/-- A directory that was made is there. -/
theorem isDirectory_of_makeDirectory (h : t.makeDirectory current p = .ok t') :
    t'.isDirectory current p = .ok true := by
  unfold makeDirectory at h
  cases hplace : t.place current p with
  | error fault => simp [hplace, bind, Except.bind] at h
  | ok place =>
    simp only [hplace, bind, Except.bind] at h
    cases hnode : t.node? place with
    | some node => simp [hnode, throw, throwThe, MonadExceptOf.throw] at h
    | none =>
      simp [hnode, pure, Except.pure] at h
      subst h
      -- nothing was at the place, so the way to it is as it was
      have hkept : t.Keeps (t.set place .directory) := keeps_set _ (by simp [hnode])
      have hroot : place ≠ [] := by
        rintro rfl
        simp at hnode
      apply isDirectory_iff.mpr
      refine ⟨place, hkept.place hplace, ?_⟩
      rw [node?_set t _ hroot, if_pos rfl]

/-- That a directory could not be made does not matter exactly if it is there. -/
theorem sparing_eq_ok_iff {fault : FileFault} :
    t.sparing fault current p = .ok t' ↔ t.isDirectory current p = .ok true ∧ t = t' := by
  unfold sparing
  cases t.isDirectory current p with
  | error other => simp [bind, Except.bind]
  | ok there =>
    cases there <;> simp [bind, Except.bind, pure, Except.pure, throw, throwThe, MonadExceptOf.throw]

/-- Whatever makes the directories above, the directory is there in the end. -/
theorem isDirectory_of_makeDirectoryWith {make : Tree → Except FileFault Tree}
    (h : t.makeDirectoryWith make current p = .ok t') : t'.isDirectory current p = .ok true := by
  have hspared : ∀ {t t' : Tree} {fault : FileFault}, t.sparing fault current p = .ok t' →
      t'.isDirectory current p = .ok true := by
    intro t t' fault h
    obtain ⟨hthere, rfl⟩ := sparing_eq_ok_iff.mp h
    exact hthere
  unfold makeDirectoryWith at h
  split at h
  · next made hmade =>
    obtain rfl := Except.ok.inj h
    exact isDirectory_of_makeDirectory hmade
  · next fault hfault =>
    split at h
    · -- those above were missing: it is made once more, below them
      obtain ⟨above, -, h⟩ := bind_eq_ok_iff.mp h
      split at h
      · next made hmade =>
        obtain rfl := Except.ok.inj h
        exact isDirectory_of_makeDirectory hmade
      · exact hspared h
    · exact hspared h

/-- The directory of a path is made in some way, whatever is done about those above it. -/
theorem exists_makeDirectories_eq (t : Tree) (current : Place) (p : Path) :
    ∃ make, t.makeDirectories current p = t.makeDirectoryWith make current p := by
  unfold makeDirectories
  have hp : p = { root := p.root, names := p.names.reverse.reverse } := by
    rw [List.reverse_reverse]
  -- the path has no names, or a last one below the others
  cases hnames : p.names.reverse with
  | nil =>
    refine ⟨.ok, ?_⟩
    conv_rhs => rw [hp, hnames]
    rfl
  | cons name above =>
    refine ⟨fun t => t.makeDirectoriesAt current p.root above, ?_⟩
    conv_rhs => rw [hp, hnames]
    rfl

theorem isDirectory_of_makeDirectories (h : t.makeDirectories current p = .ok t') :
    t'.isDirectory current p = .ok true := by
  obtain ⟨make, hmake⟩ := exists_makeDirectories_eq t current p
  exact isDirectory_of_makeDirectoryWith (hmake ▸ h)

/-! ## Files that are text -/

/-- If there is a file at the place, it is text. -/
def IsTextAt (t : Tree) (place : Place) : Prop :=
  ∀ octets, t.octetsAt? place = some octets → (textOf? octets).isSome = true

/-- The path can be followed, and if it leads to a file, that is text. -/
def IsText (t : Tree) (current : Place) (p : Path) : Prop :=
  ∃ place, t.place current p = .ok place ∧ t.IsTextAt place

/-- What is read at a path is the file at its place. -/
theorem read_eq_ok_iff {place : Place} {octets : ByteArray}
    (hplace : t.place current p = .ok place) :
    t.read current p = .ok octets ↔ t.octetsAt? place = some octets := by
  unfold read octetsAt?
  simp only [hplace, bind, Except.bind]
  cases t.node? place with
  | none => simp [throw, throwThe, MonadExceptOf.throw]
  | some node => cases node <;> simp [throw, throwThe, MonadExceptOf.throw, pure, Except.pure]

theorem isText_iff {place : Place} (hplace : t.place current p = .ok place) :
    t.IsText current p ↔ t.IsTextAt place := by
  unfold IsText
  simp only [hplace, Except.ok.injEq, exists_eq_left']

end Files.Tree

namespace Generation

theorem makeDirectories_eq_ok_iff {w : Workspace} {out : Path} {made : Tree} :
    w.makeDirectories out = .ok made ↔
      out.hasNull = false ∧ w.files.makeDirectories w.current out = .ok made := by
  unfold Workspace.makeDirectories
  cases out.hasNull <;> simp [mapError_eq_ok_iff]

/-- A file holds a text if it is there and the text is read from it. -/
theorem holdsText_eq {t : Tree} {current place : Place} {p : Path} (text : String)
    (hplace : t.place current p = .ok place) :
    holdsText t current p text = (t.octetsAt? place).elim (.ok false) fun octets =>
      (Tree.textOf? octets).elim (.error .undecodable) fun found => .ok (found == text) := by
  unfold holdsText Tree.isFile Tree.ask
  simp only [hplace, Tree.isFileAt, Except.mapError, bind, Except.bind]
  cases hoctets : t.octetsAt? place with
  | none => rfl
  | some octets =>
    have hread := (Tree.read_eq_ok_iff hplace).mpr hoctets
    simp only [hread, Option.isSome_some, if_true, Option.elim_some]
    cases Tree.textOf? octets <;> rfl

/-- Only what is there holds a text. -/
theorem exists_place_of_holdsText {t : Tree} {current : Place} {p : Path} {text : String}
    (h : holdsText t current p text = .ok true) : ∃ place, t.place current p = .ok place := by
  unfold holdsText Tree.isFile Tree.ask at h
  cases hplace : t.place current p with
  | ok place => exact ⟨place, rfl⟩
  | error fault =>
    by_cases hlong : fault.error = .nameTooLong <;>
      simp [hplace, hlong, Except.mapError, bind, Except.bind, pure, Except.pure] at h

end Generation

namespace Generation.Writing

open Client (ClientModule)

variable {current place : Place} {out : Path} {s s' : Writing} {m : ClientModule}
  {ms : List ClientModule}

/-! ## One module -/

/-- What is done about one module: its file is written, or it is left alone. -/
inductive Step (current : Place) (out : Path) (m : ClientModule) (s s' : Writing) : Prop where
  | written (p : Place) (hplace : s.files.place current (out.child m.filename) = .ok p)
      (hfree : s.files.node? p ≠ some .directory)
      (heq : s' = { s with files := s.files.set p (.file m.source.toUTF8)
                           written := s.written ++ [out.child m.filename] })
  | unchanged (p : Place) (hplace : s.files.place current (out.child m.filename) = .ok p)
      (heq : s' = { s with unchanged := s.unchanged ++ [out.child m.filename] })

/-- Writing a module is one of the steps. -/
theorem step_of_put (h : s.put current out m = .ok s') : Step current out m s s' := by
  unfold put at h
  obtain ⟨held, hheld, h⟩ := bind_eq_ok_iff.mp h
  cases held with
  | true =>
    obtain ⟨p, hplace⟩ := exists_place_of_holdsText hheld
    exact .unchanged p hplace (by simpa [pure, Except.pure] using h.symm)
  | false =>
    obtain ⟨files, hwrite, h⟩ := bind_eq_ok_iff.mp h
    rw [mapError_eq_ok_iff] at hwrite
    unfold Tree.write at hwrite
    obtain ⟨p, hplace, hwrite⟩ := bind_eq_ok_iff.mp hwrite
    -- a directory in its place would have been an error
    by_cases hdirectory : s.files.isDirectoryAt p = true
    · simp [hdirectory, bind, Except.bind, throw, throwThe, MonadExceptOf.throw] at hwrite
    · obtain rfl : s.files.set p (.file m.source.toUTF8) = files := by
        simpa [hdirectory, pure, Except.pure] using hwrite
      refine .written p hplace ?_ (by simpa [pure, Except.pure] using h.symm)
      intro hnode
      simp [Tree.isDirectoryAt, hnode] at hdirectory

/-- The path of a module that is gone through can be followed. -/
theorem Step.exists_place (h : Step current out m s s') :
    ∃ p, s.files.place current (out.child m.filename) = .ok p := by
  cases h with
  | written p hplace _ _ => exact ⟨p, hplace⟩
  | unchanged p hplace _ => exact ⟨p, hplace⟩

/-- A step keeps the directories. -/
theorem Step.keeps (h : Step current out m s s') : s.files.Keeps s'.files := by
  cases h with
  | written p hplace hfree heq =>
    subst heq
    exact Tree.keeps_set _ hfree
  | unchanged _ _ heq =>
    subst heq
    exact Tree.Keeps.refl _

/-- A step leaves all other places as they are. -/
theorem Step.node?_eq (h : Step current out m s s') {p : Place}
    (hplace : s.files.place current (out.child m.filename) = .ok p) {other : Place}
    (hother : other ≠ p) : s'.files.node? other = s.files.node? other := by
  cases h with
  | written p' hplace' hfree heq =>
    subst heq
    obtain rfl : p = p' := Except.ok.inj (hplace.symm.trans hplace')
    have hroot : p ≠ [] := by
      rintro rfl
      exact hfree (Tree.node?_nil _)
    rw [Tree.node?_set _ _ hroot, if_neg hother]
  | unchanged _ _ heq => rw [heq]

/-- A step lists the path of the module once. -/
theorem Step.paths (h : Step current out m s s') :
    (s'.written ++ s'.unchanged).Perm (s.written ++ s.unchanged ++ [out.child m.filename]) := by
  cases h with
  | written p hplace hfree heq =>
    subst heq
    simp only [List.append_assoc]
    exact List.perm_append_comm.append_left s.written
  | unchanged _ _ heq =>
    subst heq
    simp only [List.append_assoc]
    exact List.Perm.refl _

/-- The output directory is at the place, and the file of the module is not a directory. -/
structure Fits (current : Place) (out : Path) (place : Place) (t : Tree) (m : ClientModule) :
    Prop where
  leads : t.place current out = .ok place
  directory : t.node? place = some .directory
  down : m.filename ≠ upward
  free : t.isDirectory current (out.child m.filename) ≠ .ok true

/-- The file of the module is where its path leads, if that can be followed. -/
theorem Fits.eq_of_place {t : Tree} {p : Place} (h : Fits current out place t m)
    (hp : t.place current (out.child m.filename) = .ok p) : p = place ++ [m.filename] :=
  Tree.place_child_of_ne h.leads hp h.down

/-- A module can be written unless its path cannot be followed, or its file is there and is no
    text. -/
theorem exists_put_iff (h : Fits current out place s.files m) :
    (∃ s', s.put current out m = .ok s') ↔
      s.files.IsText current (out.child m.filename) := by
  constructor
  -- the text was read or there is no file; octets that are no text would have stopped it
  · rintro ⟨s', hput⟩
    obtain ⟨p, hplace⟩ := (step_of_put hput).exists_place
    refine ⟨p, hplace, fun octets hoctets => ?_⟩
    unfold put at hput
    obtain ⟨held, hheld, -⟩ := bind_eq_ok_iff.mp hput
    rw [holdsText_eq _ hplace, hoctets, Option.elim_some] at hheld
    cases htext : Tree.textOf? octets with
    | none => simp [htext] at hheld
    | some found => rfl
  · rintro ⟨p, hplace, htext⟩
    have hfree : s.files.isDirectoryAt p = false := by
      by_contra hdirectory
      refine h.free ?_
      unfold Tree.isDirectory Tree.ask
      simpa [hplace] using hdirectory
    -- nothing keeps the output from being written
    have hwrite : s.files.write current (out.child m.filename) m.source.toUTF8
        = .ok (s.files.set p (.file m.source.toUTF8)) := by
      unfold Tree.write
      simp [hplace, hfree, bind, Except.bind, pure, Except.pure]
    obtain ⟨held, hheld⟩ : ∃ held,
        holdsText s.files current (out.child m.filename) m.source = .ok held := by
      rw [holdsText_eq _ hplace]
      cases hoctets : s.files.octetsAt? p with
      | none => exact ⟨false, rfl⟩
      | some octets =>
        obtain ⟨found, hfound⟩ := Option.isSome_iff_exists.mp (htext octets hoctets)
        exact ⟨found == m.source, by rw [Option.elim_some, hfound, Option.elim_some]⟩
    unfold put
    simp only [hheld, hwrite, bind, Except.bind, Except.mapError]
    cases held <;> simp [pure, Except.pure]

/-! ## All modules -/

section

variable {other : ClientModule}

/-- The path of another module can be followed after a step if and only if it could before. -/
theorem Step.place_eq (h : Step current out m s s') (hother : Fits current out place s.files other) :
    s'.files.place current (out.child other.filename)
      = s.files.place current (out.child other.filename) := by
  rw [Tree.place_child _ hother.leads hother.directory,
    Tree.place_child _ (h.keeps.place hother.leads) (h.keeps _ hother.directory)]

/-- What stands where that path leads is as before. -/
theorem Step.node?_of_place (h : Step current out m s s') (hm : Fits current out place s.files m)
    (hother : Fits current out place s.files other) (hne : other.filename ≠ m.filename) {q : Place}
    (hq : s.files.place current (out.child other.filename) = .ok q) :
    s'.files.node? q = s.files.node? q := by
  obtain ⟨p, hplace⟩ := h.exists_place
  apply h.node?_eq hplace
  rw [hother.eq_of_place hq, hm.eq_of_place hplace]
  simpa using hne

/-- After a step the other modules still fit. -/
theorem Step.fits (h : Step current out m s s') (hm : Fits current out place s.files m)
    (hother : Fits current out place s.files other) (hne : other.filename ≠ m.filename) :
    Fits current out place s'.files other where
  leads := h.keeps.place hother.leads
  directory := h.keeps _ hother.directory
  down := hother.down
  free := by
    intro hthere
    obtain ⟨q, hq, hnode⟩ := Tree.isDirectory_iff.mp hthere
    rw [h.place_eq hother] at hq
    rw [h.node?_of_place hm hother hne hq] at hnode
    exact hother.free (Tree.isDirectory_iff.mpr ⟨q, hq, hnode⟩)

/-- A step changes nothing about the files of the other modules. -/
theorem Step.isText_iff (h : Step current out m s s') (hm : Fits current out place s.files m)
    (hother : Fits current out place s.files other) (hne : other.filename ≠ m.filename) :
    s'.files.IsText current (out.child other.filename) ↔
      s.files.IsText current (out.child other.filename) := by
  unfold Tree.IsText
  rw [h.place_eq hother]
  refine exists_congr fun q => and_congr_right fun hq => ?_
  unfold Tree.IsTextAt Tree.octetsAt?
  rw [h.node?_of_place hm hother hne hq]

end

/-- Modules with different files can all be written if and only if the path of each can be
    followed and each file that is there is text. By induction on the modules: a step changes
    nothing about the files of the others. -/
theorem exists_putAll_iff (hfits : ∀ m ∈ ms, Fits current out place s.files m)
    (hnames : (ms.map ClientModule.filename).Nodup) :
    (∃ s', (s.putAll current out ms).1 = .ok s') ↔
      ∀ m ∈ ms, s.files.IsText current (out.child m.filename) := by
  induction ms generalizing s with
  | nil => simp [putAll]
  | cons m rest ih =>
    have hm := hfits m List.mem_cons_self
    have hput := exists_put_iff hm
    obtain ⟨hnew, hrest⟩ := List.nodup_cons.mp hnames
    unfold putAll
    cases hdone : s.put current out m with
    | error fault =>
      simp only [hdone, reduceCtorEq, exists_false, false_iff] at hput
      simp [hput]
    | ok s₁ =>
      have hstep := step_of_put hdone
      -- the names are distinct, so writing this one leaves the places of the others alone
      have hothers : ∀ other ∈ rest, other.filename ≠ m.filename := by
        intro other hother hsame
        exact hnew (hsame ▸ List.mem_map_of_mem hother)
      have hrests : ∀ other ∈ rest, Fits current out place s.files other := fun other hother =>
        hfits other (List.mem_cons_of_mem _ hother)
      have hlater := ih (s := s₁)
        (fun other hother => hstep.fits hm (hrests other hother) (hothers other hother)) hrest
      have hfirst : s.files.IsText current (out.child m.filename) := hput.mp ⟨s₁, hdone⟩
      simp only [hlater, List.forall_mem_cons, hfirst, true_and]
      exact forall₂_congr fun other hother =>
        hstep.isText_iff hm (hrests other hother) (hothers other hother)

/-- Every module is either written or left alone. -/
theorem paths_of_putAll (h : (s.putAll current out ms).1 = .ok s') :
    (s'.written ++ s'.unchanged).Perm
      (s.written ++ s.unchanged ++ ms.map fun m => out.child m.filename) := by
  induction ms generalizing s with
  | nil =>
    obtain rfl : s = s' := by simpa [putAll] using h
    simp
  | cons m rest ih =>
    unfold putAll at h
    cases hdone : s.put current out m with
    | error fault => simp [hdone] at h
    | ok s₁ =>
      simp only [hdone] at h
      -- a step puts its path in one of the two lists
      have hfirst := (step_of_put hdone).paths
      have hlater := (ih h).trans (hfirst.append_right _)
      rw [List.map_cons, ← List.singleton_append, ← List.append_assoc]
      exact hlater

end Generation.Writing

end Waymark

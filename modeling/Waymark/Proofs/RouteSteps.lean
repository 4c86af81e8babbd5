import Mathlib
import Waymark.Api.Route
import Waymark.Proofs.FormText

/-! # Steps of routes

    A route goes in steps, which stand between slashes. This module follows the steps from the
    segments of a chain to the path of a request.

    * The steps of a route are those of its segments one after the other
      (`Route.stepsOf_ofSegments`).
    * The steps of a segment are those of its pieces, whatever fills the placeholders, as long
      as this is neither empty nor has a slash in it (`Api.stepsOfSegment_fill`).
    * A path stays as it is exactly if none of its steps stays or goes back
      (`Exchange.Target.normalized_eq_self_iff`), and what is left of it has no such steps.
-/

namespace Waymark

/-! ## Splitting and trimming -/

namespace Text

theorem intercalate_splitWhere (separator : Char) (cs : List Char) :
    [separator].intercalate (splitWhere (· == separator) cs) = cs := by
  rw [splitWhere_eq_splitOnP]
  exact List.intercalate_splitOn separator

/-- No part has a separator in it. -/
theorem not_mem_of_mem_splitWhere {separator : Char} {cs part : List Char}
    (h : part ∈ splitWhere (· == separator) cs) : separator ∉ part := by
  induction cs generalizing part with
  | nil =>
    obtain rfl := List.mem_singleton.mp h
    exact List.not_mem_nil
  | cons c rest ih =>
    obtain ⟨first, later, hsplit⟩ := List.exists_cons_of_ne_nil
      (splitWhere_ne_nil (· == separator) rest)
    have hfirst := ih (hsplit ▸ List.mem_cons_self)
    rw [splitWhere, hsplit] at h
    -- the separator begins a new part, any other character belongs to the first one
    by_cases hc : c = separator
    · simp only [hc, beq_self_eq_true, if_true, List.mem_cons] at h
      rcases h with rfl | rfl | h
      · exact List.not_mem_nil
      · exact hfirst
      · exact ih (hsplit ▸ List.mem_cons_of_mem _ h)
    · simp only [beq_eq_false_iff_ne.mpr hc, Bool.false_eq_true, if_false, List.mem_cons] at h
      rcases h with rfl | h
      · intro hmem
        rcases List.mem_cons.mp hmem with hmem | hmem
        · exact hc hmem.symm
        · exact hfirst hmem
      · exact ih (hsplit ▸ List.mem_cons_of_mem _ h)

variable {α : Type} {p : α → Bool} {xs ys : List α}

/-- Nothing that satisfies `p` is left at the end. -/
theorem getLast?_dropAround {x : α} (h : (dropAround p xs).getLast? = some x) : p x = false := by
  unfold dropAround at h
  rw [List.getLast?_reverse] at h
  have hfirst := List.head?_dropWhile_not p (xs.dropWhile p).reverse
  rw [h] at hfirst
  simpa using hfirst

/-- Nothing is dropped where the first and the last member stay. -/
theorem dropAround_eq_self (hfirst : ∀ x, xs.head? = some x → p x = false)
    (hlast : ∀ x, xs.getLast? = some x → p x = false) : dropAround p xs = xs := by
  unfold dropAround
  rw [dropWhile_eq_self hfirst, dropWhile_eq_self (by simpa using hlast), List.reverse_reverse]

/-- What stands between two lists of which nothing is dropped stays. -/
theorem dropAround_append (hx : xs ≠ []) (hy : ys ≠ []) (hxs : dropAround p xs = xs)
    (hys : dropAround p ys = ys) (between : List α) :
    dropAround p (xs ++ (between ++ ys)) = xs ++ (between ++ ys) := by
  apply dropAround_eq_self
  · intro x h
    obtain ⟨first, rest, rfl⟩ := List.exists_cons_of_ne_nil hx
    rw [← hxs] at h
    refine head?_dropAround p (first :: rest) x ?_
    rw [hxs] at h ⊢
    simpa using h
  · intro y h
    rw [List.getLast?_append_of_ne_nil _ (by simp [hy]), List.getLast?_append_of_ne_nil _ hy,
      ← hys] at h
    exact getLast?_dropAround h

/-- What is dropped in front may as well be left out. -/
theorem dropAround_cons {x : α} (h : p x = true) (xs : List α) :
    dropAround p (x :: xs) = dropAround p xs := by
  unfold dropAround
  rw [List.dropWhile_cons_of_pos h]

end Text

/-! ## Routes -/

namespace Route

/-- The steps of a path. -/
def stepsOf (path : String) : List String :=
  (Text.splitWhere (· == '/') path.toList).map String.ofList

/-- The steps of a segment: none if it has nothing but slashes. -/
def stepsOfSegment (segment : String) : List String :=
  if bare segment = "" then [] else stepsOf (bare segment)

@[simp] theorem intercalate_stepsOf (path : String) : "/".intercalate (stepsOf path) = path := by
  apply String.toList_injective
  rw [String.toList_intercalate, stepsOf, List.map_map]
  have hid : String.toList ∘ String.ofList = id := by
    funext cs
    exact String.toList_ofList
  rw [hid, List.map_id]
  exact Text.intercalate_splitWhere '/' path.toList

/-- No step has a slash in it. -/
theorem slash_not_mem_stepsOf {path step : String} (h : step ∈ stepsOf path) :
    '/' ∉ step.toList := by
  obtain ⟨part, hpart, rfl⟩ := List.mem_map.mp h
  rw [String.toList_ofList]
  exact Text.not_mem_of_mem_splitWhere hpart

/-- The characters of steps that are put together. -/
theorem mem_intercalate {steps : List String} {c : Char}
    (h : c ∈ ("/".intercalate steps).toList) : c = '/' ∨ ∃ step ∈ steps, c ∈ step.toList := by
  induction steps with
  | nil => simp at h
  | cons step rest ih =>
    by_cases hrest : rest = []
    · subst hrest
      exact .inr ⟨step, List.mem_cons_self, by simpa using h⟩
    · rw [String.intercalate_cons_of_ne_nil hrest, String.toList_append, String.toList_append,
        List.mem_append, List.mem_append] at h
      rcases h with (h | h) | h
      · exact .inr ⟨step, List.mem_cons_self, h⟩
      · exact .inl (by simpa using h)
      · exact (ih h).imp_right fun ⟨other, hother, hc⟩ =>
          ⟨other, List.mem_cons_of_mem _ hother, hc⟩

/-- The characters of a step are characters of the path. -/
theorem mem_of_mem_stepsOf {path step : String} (hstep : step ∈ stepsOf path) {c : Char}
    (hc : c ∈ step.toList) : c ∈ path.toList := by
  have hmem : ∀ steps : List String, step ∈ steps → c ∈ ("/".intercalate steps).toList := by
    intro steps h
    induction steps with
    | nil => cases h
    | cons first rest ih =>
      by_cases hrest : rest = []
      · subst hrest
        cases List.mem_singleton.mp h
        simpa using hc
      · rw [String.intercalate_cons_of_ne_nil hrest, String.toList_append, String.toList_append,
          List.mem_append, List.mem_append]
        rcases List.mem_cons.mp h with rfl | h
        · exact .inl (.inl hc)
        · exact .inr (ih h)
  have hpath := hmem _ hstep
  rwa [intercalate_stepsOf] at hpath

/-- Steps are read back from the path that they make up. -/
theorem stepsOf_intercalate {steps : List String} (hne : steps ≠ [])
    (h : ∀ step ∈ steps, '/' ∉ step.toList) : stepsOf ("/".intercalate steps) = steps := by
  unfold stepsOf
  rw [String.toList_intercalate]
  have hsplit : Text.splitWhere (· == '/') (['/'].intercalate (steps.map String.toList))
      = steps.map String.toList := by
    refine Text.splitWhere_intercalate (by simpa using hne) fun part hpart => ?_
    obtain ⟨step, hstep, rfl⟩ := List.mem_map.mp hpart
    exact h step hstep
  show (Text.splitWhere (· == '/') (['/'].intercalate (steps.map String.toList))).map _ = _
  rw [hsplit, List.map_map]
  conv_rhs => rw [← List.map_id steps]
  apply List.map_congr_left
  intro step _
  exact String.ofList_toList

/-- A path from the top has an empty step first. -/
theorem stepsOf_slash (path : String) : stepsOf ("/" ++ path) = "" :: stepsOf path := by
  unfold stepsOf
  rw [String.toList_append]
  have hsplit : Text.splitWhere (· == '/') ([] ++ '/' :: path.toList)
      = [] :: Text.splitWhere (· == '/') path.toList :=
    Text.splitWhere_append_cons (by simp) rfl
  exact congrArg (List.map String.ofList) hsplit

theorem toList_bare (segment : String) :
    (bare segment).toList = Text.dropAround (· == '/') segment.toList :=
  String.toList_ofList

@[simp] theorem bare_bare (segment : String) : bare (bare segment) = bare segment := by
  apply String.toList_injective
  rw [toList_bare, toList_bare, Text.dropAround_dropAround]

@[simp] theorem bare_slash (path : String) : bare ("/" ++ path) = bare path := by
  apply String.toList_injective
  rw [toList_bare, toList_bare, String.toList_append]
  exact Text.dropAround_cons rfl path.toList

/-- The steps of segments, without slashes in them, which make up a text without slashes at its
    ends. -/
structure Trimmed (steps : List String) : Prop where
  noSlash : ∀ step ∈ steps, '/' ∉ step.toList
  bare : bare ("/".intercalate steps) = "/".intercalate steps
  nonempty : "/".intercalate steps = "" → steps = []

theorem trimmed_nil : Trimmed [] where
  noSlash := by simp
  bare := rfl
  nonempty := fun _ => rfl

theorem intercalate_stepsOfSegment (segment : String) :
    "/".intercalate (stepsOfSegment segment) = bare segment := by
  unfold stepsOfSegment
  split
  · next hnone => exact hnone.symm
  · exact intercalate_stepsOf _

theorem trimmed_stepsOfSegment (segment : String) : Trimmed (stepsOfSegment segment) where
  noSlash := by
    intro step hstep
    unfold stepsOfSegment at hstep
    split at hstep
    · cases hstep
    · exact slash_not_mem_stepsOf hstep
  bare := by rw [intercalate_stepsOfSegment, bare_bare]
  nonempty := by
    intro hnone
    rw [intercalate_stepsOfSegment] at hnone
    exact if_pos hnone

/-- The characters of a step are characters of the segment. -/
theorem mem_of_mem_stepsOfSegment {segment step : String} (hstep : step ∈ stepsOfSegment segment)
    {c : Char} (hc : c ∈ step.toList) : c ∈ segment.toList := by
  unfold stepsOfSegment at hstep
  split at hstep
  · cases hstep
  · have hbare := mem_of_mem_stepsOf hstep hc
    rw [toList_bare] at hbare
    exact Text.mem_of_mem_dropAround hbare

theorem Trimmed.append {xs ys : List String} (hx : Trimmed xs) (hy : Trimmed ys) :
    Trimmed (xs ++ ys) := by
  by_cases hxs : xs = []
  · simpa [hxs] using hy
  by_cases hys : ys = []
  · simpa [hys] using hx
  -- with steps on both sides there is one slash between them, and nothing changes at the ends
  have hsplit : "/".intercalate (xs ++ ys)
      = "/".intercalate xs ++ ("/" ++ "/".intercalate ys) := by
    rw [String.intercalate_append_of_ne_nil hxs hys, String.append_assoc]
  have hnonempty : ∀ {zs : List String}, Trimmed zs → zs ≠ [] →
      ("/".intercalate zs).toList ≠ [] := by
    intro zs hz hne hnil
    exact hne (hz.nonempty (String.toList_injective hnil))
  have hbare : ∀ {zs : List String}, Trimmed zs →
      Text.dropAround (· == '/') ("/".intercalate zs).toList = ("/".intercalate zs).toList := by
    intro zs hz
    rw [← toList_bare, hz.bare]
  refine ⟨?_, ?_, ?_⟩
  · intro step hstep
    rcases List.mem_append.mp hstep with hstep | hstep
    · exact hx.noSlash step hstep
    · exact hy.noSlash step hstep
  · apply String.toList_injective
    rw [toList_bare, hsplit, String.toList_append, String.toList_append]
    exact Text.dropAround_append (hnonempty hx hxs) (hnonempty hy hys) (hbare hx) (hbare hy) _
  · intro hnone
    rw [hsplit] at hnone
    have hnil := congrArg String.toList hnone
    rw [String.toList_append] at hnil
    exact absurd (List.append_eq_nil_iff.mp hnil).1 (hnonempty hx hxs)

/-- A segment adds its steps to those of a route. -/
theorem join_eq {route : String} {steps : List String} (hsteps : Trimmed steps)
    (hroute : bare route = "/".intercalate steps) (segment : String) :
    join route segment = "/" ++ "/".intercalate (steps ++ stepsOfSegment segment) := by
  unfold join
  rw [hroute, ← intercalate_stepsOfSegment segment]
  congr 1
  have hsegment := trimmed_stepsOfSegment segment
  -- what is empty is left out together with its slash
  by_cases hfront : steps = []
  · subst hfront
    by_cases hnone : stepsOfSegment segment = []
    · simp [hnone]
    · have hne : "/".intercalate (stepsOfSegment segment) ≠ "" :=
        fun hempty => hnone (hsegment.nonempty hempty)
      simp [hne]
  · have hne : "/".intercalate steps ≠ "" := fun hempty => hfront (hsteps.nonempty hempty)
    by_cases hnone : stepsOfSegment segment = []
    · simp [hnone, hne]
    · have hne' : "/".intercalate (stepsOfSegment segment) ≠ "" :=
        fun hempty => hnone (hsegment.nonempty hempty)
      rw [String.intercalate_append_of_ne_nil hfront hnone]
      simp [hne, hne']

/-- By induction on the segments that are left, with the steps of those before. -/
theorem foldl_join {segments : List String} (hne : segments ≠ []) {route : String}
    {steps : List String} (hsteps : Trimmed steps) (hroute : bare route = "/".intercalate steps) :
    segments.foldl join route = "/" ++ "/".intercalate (steps ++ segments.flatMap stepsOfSegment) := by
  induction segments generalizing route steps with
  | nil => exact absurd rfl hne
  | cons segment rest ih =>
    have hnext := hsteps.append (trimmed_stepsOfSegment segment)
    rw [List.foldl_cons, List.flatMap_cons, ← List.append_assoc, join_eq hsteps hroute]
    by_cases hrest : rest = []
    · simp [hrest]
    · exact ih hrest hnext (by rw [bare_slash, hnext.bare])

/-- The steps of a chain of segments. -/
theorem ofSegments_eq {segments : List String} (hne : segments ≠ []) :
    ofSegments segments = "/" ++ "/".intercalate (segments.flatMap stepsOfSegment) := by
  have hroute : bare "" = "/".intercalate [] := rfl
  exact foldl_join hne trimmed_nil hroute

theorem trimmed_flatMap (segments : List String) : Trimmed (segments.flatMap stepsOfSegment) := by
  induction segments with
  | nil => exact trimmed_nil
  | cons segment rest ih =>
    rw [List.flatMap_cons]
    exact (trimmed_stepsOfSegment segment).append ih

/-- **The steps of a route are those of its segments**; a route without steps is a slash, which
    has an empty one. -/
theorem stepsOf_ofSegments {segments : List String} (hne : segments ≠ []) :
    stepsOf (ofSegments segments) = "" :: match segments.flatMap stepsOfSegment with
      | [] => [""]
      | steps => steps := by
  rw [ofSegments_eq hne, stepsOf_slash]
  have hsteps := trimmed_flatMap segments
  cases hflat : segments.flatMap stepsOfSegment with
  | nil => rfl
  | cons step rest =>
    rw [hflat] at hsteps
    rw [stepsOf_intercalate (List.cons_ne_nil _ _) hsteps.noSlash]

end Route

/-! ## Pieces -/

namespace Api

/-- The piece that ends a step. -/
def Piece.isSlash (piece : Piece) : Bool :=
  piece == .text ['/']

/-- The steps of a segment in pieces. -/
def stepsOfPieces (ps : List Piece) : List (List Piece) :=
  match Text.dropAround Piece.isSlash ps with
  | [] => []
  | rest => rest.splitOnP Piece.isSlash

/-- Every piece is filled with something, in which there are no slashes unless it is one. -/
def FillsSteps (fill : Piece → List Char) (ps : List Piece) : Prop :=
  ∀ piece ∈ ps, if piece.isSlash then fill piece = ['/'] else fill piece ≠ [] ∧ '/' ∉ fill piece

variable {fill : Piece → List Char} {ps : List Piece}

theorem FillsSteps.mono {qs : List Piece} (h : FillsSteps fill ps) (hsub : ∀ piece ∈ qs, piece ∈ ps) :
    FillsSteps fill qs :=
  fun piece hpiece => h piece (hsub piece hpiece)

/-- A piece that is filled is a slash, or begins with something else. -/
theorem FillsSteps.cases {piece : Piece} (h : FillsSteps fill ps) (hpiece : piece ∈ ps) :
    (piece.isSlash = true ∧ fill piece = ['/']) ∨
      (piece.isSlash = false ∧ fill piece ≠ [] ∧ '/' ∉ fill piece) := by
  have hfill := h piece hpiece
  cases hslash : piece.isSlash with
  | true => exact .inl ⟨rfl, by simpa [hslash] using hfill⟩
  | false => exact .inr ⟨rfl, by simpa [hslash] using hfill⟩

theorem dropWhile_flatMap_fill (h : FillsSteps fill ps) :
    (ps.flatMap fill).dropWhile (· == '/') = (ps.dropWhile Piece.isSlash).flatMap fill := by
  induction ps with
  | nil => rfl
  | cons piece rest ih =>
    have hrest := h.mono fun other hother => List.mem_cons_of_mem piece hother
    rw [List.flatMap_cons]
    -- a slash stays one, and a filled piece does not begin with one
    rcases h.cases List.mem_cons_self with ⟨hslash, hfill⟩ | ⟨hslash, hne, hnot⟩
    · rw [hfill, List.dropWhile_cons_of_pos hslash, ← ih hrest]
      rfl
    · rw [List.dropWhile_cons_of_neg (by simp [hslash])]
      obtain ⟨c, more, hc⟩ := List.exists_cons_of_ne_nil hne
      have hfirst : c ≠ '/' := by
        rintro rfl
        exact hnot (hc ▸ List.mem_cons_self)
      rw [List.flatMap_cons, hc, List.cons_append, List.dropWhile_cons_of_neg (by simpa using hfirst)]

/-- Slashes at the ends are dropped from the pieces as from the text. -/
theorem dropAround_flatMap_fill (h : FillsSteps fill ps) :
    Text.dropAround (· == '/') (ps.flatMap fill)
      = (Text.dropAround Piece.isSlash ps).flatMap fill := by
  have hback : FillsSteps (fun piece => (fill piece).reverse) (ps.dropWhile Piece.isSlash).reverse := by
    intro piece hpiece
    have hmem := (List.dropWhile_sublist _).mem (List.mem_reverse.mp hpiece)
    rcases h.cases hmem with ⟨hslash, hfill⟩ | ⟨hslash, hne, hnot⟩
    · simp [hslash, hfill]
    · simp [hslash, hne, hnot]
  unfold Text.dropAround
  rw [dropWhile_flatMap_fill h, List.reverse_flatMap]
  show ((List.flatMap (fun piece => (fill piece).reverse) _).dropWhile _).reverse = _
  rw [dropWhile_flatMap_fill hback, List.reverse_flatMap]
  simp [Function.comp_def]

/-- Steps end at the same places in the pieces and in the text. -/
theorem splitWhere_flatMap_fill (h : FillsSteps fill ps) :
    Text.splitWhere (· == '/') (ps.flatMap fill)
      = (ps.splitOnP Piece.isSlash).map fun step => step.flatMap fill := by
  rw [Text.splitWhere_eq_splitOnP]
  induction ps with
  | nil => rfl
  | cons piece rest ih =>
    have hrest := ih (h.mono fun other hother => List.mem_cons_of_mem piece hother)
    rw [List.flatMap_cons, List.splitOnP_cons_eq_if_modifyHead]
    rcases h.cases List.mem_cons_self with ⟨hslash, hfill⟩ | ⟨hslash, -, hnot⟩
    · rw [hfill, if_pos hslash, List.map_cons, ← hrest]
      exact List.splitOnP_cons_eq_if_modifyHead _ _
    · rw [if_neg (by simp [hslash])]
      obtain ⟨step, steps, hsteps⟩ := List.exists_cons_of_ne_nil
        (List.splitOnP_ne_nil Piece.isSlash rest)
      rw [hsteps, List.map_cons] at hrest
      rw [hsteps, List.modifyHead_cons, List.map_cons, List.flatMap_cons]
      -- the text of the piece goes in front of the first step
      clear hsteps ih
      generalize fill piece = front at hnot
      induction front with
      | nil => exact hrest
      | cons c more ihmore =>
        have hc : c ≠ '/' := by
          rintro rfl
          exact hnot List.mem_cons_self
        have hmore := ihmore fun hmem => hnot (List.mem_cons_of_mem _ hmem)
        rw [List.cons_append, List.splitOnP_cons_eq_if_modifyHead,
          if_neg (by simpa using hc), hmore]
        rfl

/-- **The steps of a segment are those of its pieces**, each filled. -/
theorem stepsOfSegment_fill (h : FillsSteps fill ps) :
    Route.stepsOfSegment (String.ofList (ps.flatMap fill))
      = (stepsOfPieces ps).map fun step => String.ofList (step.flatMap fill) := by
  have htrim : Route.bare (String.ofList (ps.flatMap fill))
      = String.ofList ((Text.dropAround Piece.isSlash ps).flatMap fill) := by
    unfold Route.bare Text.trimWhere
    rw [String.toList_ofList, dropAround_flatMap_fill h]
  have hrest : FillsSteps fill (Text.dropAround Piece.isSlash ps) :=
    h.mono fun piece hpiece => Text.mem_of_mem_dropAround hpiece
  unfold Route.stepsOfSegment stepsOfPieces
  rw [htrim]
  cases hpieces : Text.dropAround Piece.isSlash ps with
  | nil => rfl
  | cons piece rest =>
    rw [hpieces] at hrest
    -- the first piece is not empty once it is filled
    have hne : String.ofList ((piece :: rest).flatMap fill) ≠ "" := by
      intro hempty
      have hnil := congrArg String.toList hempty
      rw [String.toList_ofList, List.flatMap_cons] at hnil
      have hfill : fill piece = [] := (List.append_eq_nil_iff.mp hnil).1
      rcases hrest.cases List.mem_cons_self with ⟨-, hslash⟩ | ⟨-, hsome, -⟩
      · rw [hslash] at hfill
        cases hfill
      · exact hsome hfill
    rw [if_neg hne]
    unfold Route.stepsOf
    rw [String.toList_ofList, splitWhere_flatMap_fill hrest, List.map_map]
    rfl

end Api

/-! ## Paths -/

namespace Exchange.Target

open Route (stepsOf)

/-- A step that stays or goes back. -/
def IsDotted (step : String) : Prop :=
  step = "." ∨ step = ".."

instance : DecidablePred IsDotted :=
  fun step => inferInstanceAs (Decidable (step = "." ∨ step = ".."))

/-- Steps that are left are steps of the path. -/
theorem mem_walk {done steps : List String} {step : String} (h : step ∈ walk done steps) :
    step ∈ done ∨ step ∈ steps ∧ ¬ IsDotted step := by
  -- a dot is passed over, two dots take away the last step, any other step is done
  fun_induction walk done steps with
  | case1 done => exact .inl (by simpa using h)
  | case2 done first rest hstay ih =>
    exact (ih h).imp_right fun hmem => ⟨List.mem_cons_of_mem _ hmem.1, hmem.2⟩
  | case3 done first rest hstay hback ih =>
    refine (ih h).imp ?_ fun hmem => ⟨List.mem_cons_of_mem _ hmem.1, hmem.2⟩
    intro hmem
    split at hmem
    · exact hmem
    · exact List.mem_of_mem_tail hmem
  | case4 done first rest hstay hback ih =>
    rcases ih h with hmem | ⟨hmem, hne⟩
    · rcases List.mem_cons.mp hmem with rfl | hmem
      · have hne : ¬ IsDotted step := by
          rintro (rfl | rfl)
          · exact hstay rfl
          · exact hback rfl
        exact .inr ⟨List.mem_cons_self, hne⟩
      · exact .inl hmem
    · exact .inr ⟨List.mem_cons_of_mem _ hmem, hne⟩

/-- How long steps are with a slash before each of them. -/
def lengthOf (steps : List String) : Nat :=
  (steps.map fun step => step.length + 1).sum

@[simp] theorem lengthOf_cons (step : String) (steps : List String) :
    lengthOf (step :: steps) = step.length + 1 + lengthOf steps := rfl

theorem lengthOf_reverse (steps : List String) : lengthOf steps.reverse = lengthOf steps := by
  unfold lengthOf
  rw [List.map_reverse, List.sum_reverse]

/-- Going back makes a path shorter. -/
theorem lengthOf_walk_le (done steps : List String) :
    lengthOf (walk done steps) ≤ lengthOf done + lengthOf steps := by
  fun_induction walk done steps with
  | case1 done => rw [lengthOf_reverse]; exact Nat.le_add_right _ _
  | case2 done first rest hstay ih => rw [lengthOf_cons]; omega
  | case3 done first rest hstay hback ih =>
    -- going back takes away the last step, or nothing at the root
    have htail : lengthOf (if (done.isEmpty || done == [""]) = true then done else done.tail)
        ≤ lengthOf done := by
      split
      · exact Nat.le_refl _
      · cases done with
        | nil => exact Nat.le_refl _
        | cons last before => rw [List.tail_cons, lengthOf_cons]; omega
    rw [lengthOf_cons]
    omega
  | case4 done first rest hstay hback ih =>
    rw [lengthOf_cons] at ih ⊢
    omega

theorem length_intercalate {steps : List String} (hne : steps ≠ []) :
    ("/".intercalate steps).length + 1 = lengthOf steps := by
  induction steps with
  | nil => exact absurd rfl hne
  | cons step rest ih =>
    cases rest with
    | nil => simp [lengthOf]
    | cons next more =>
      have hrest := ih (List.cons_ne_nil _ _)
      rw [String.intercalate_cons_cons, String.length_append, String.length_append, lengthOf_cons,
        ← hrest]
      show step.length + 1 + _ + 1 = _
      omega

/-- The path that is left when all steps are carried out. -/
def walked (path : String) : String :=
  let left := "/".intercalate (walk [] (stepsOf path))
  if left.isEmpty then "/" else left

theorem normalized_eq (path : String) :
    normalized path = if ∃ step ∈ stepsOf path, IsDotted step then walked path else path := by
  have hsome : ((stepsOf path).contains "." || (stepsOf path).contains "..") = true ↔
      ∃ step ∈ stepsOf path, IsDotted step := by
    rw [Bool.or_eq_true, List.contains_iff_mem, List.contains_iff_mem]
    constructor
    · rintro (h | h)
      · exact ⟨_, h, .inl rfl⟩
      · exact ⟨_, h, .inr rfl⟩
    · rintro ⟨step, h, rfl | rfl⟩
      · exact .inl h
      · exact .inr h
  show (if ((stepsOf path).contains "." || (stepsOf path).contains "..") = true then walked path
    else path) = _
  by_cases h : ∃ step ∈ stepsOf path, IsDotted step
  · rw [if_pos h, if_pos (hsome.mpr h)]
  · rw [if_neg h, if_neg (mt hsome.mp h)]

/-- What is left of a path is a slash, or the steps that are left. -/
theorem walked_cases (path : String) :
    walked path = "/" ∨
      walk [] (stepsOf path) ≠ [] ∧ walked path = "/".intercalate (walk [] (stepsOf path)) := by
  unfold walked
  by_cases hempty : ("/".intercalate (walk [] (stepsOf path))).isEmpty = true
  · exact .inl (if_pos hempty)
  · refine .inr ⟨fun hnil => ?_, if_neg hempty⟩
    rw [hnil] at hempty
    exact hempty rfl

/-- No step stays or goes back in what is left of a path. -/
theorem not_isDotted_of_mem_normalized {path step : String}
    (h : step ∈ stepsOf (normalized path)) : ¬ IsDotted step := by
  rw [normalized_eq] at h
  by_cases hsome : ∃ step ∈ stepsOf path, IsDotted step
  · rw [if_pos hsome] at h
    rcases walked_cases path with hslash | ⟨hne, hleft⟩
    · rw [hslash] at h
      have hsteps : stepsOf "/" = ["", ""] := by decide
      rw [hsteps] at h
      simp only [List.mem_cons, List.not_mem_nil, or_false, or_self] at h
      rw [h]
      decide
    -- nothing dotted is left when all steps have been carried out
    · have hwalk : ∀ other ∈ walk [] (stepsOf path), other ∈ stepsOf path ∧ ¬ IsDotted other := by
        intro other hother
        rcases mem_walk hother with hdone | hmem
        · cases hdone
        · exact hmem
      rw [hleft, Route.stepsOf_intercalate hne
        fun other hother => Route.slash_not_mem_stepsOf (hwalk other hother).1] at h
      exact (hwalk step h).2
  · rw [if_neg hsome] at h
    exact fun hdotted => hsome ⟨step, h, hdotted⟩

/-- **A path stays as it is exactly if none of its steps stays or goes back.** -/
theorem normalized_eq_self_iff (path : String) :
    normalized path = path ↔ ∀ step ∈ stepsOf path, ¬ IsDotted step := by
  constructor
  · intro h step hstep
    rw [← h] at hstep
    exact not_isDotted_of_mem_normalized hstep
  · intro h
    rw [normalized_eq, if_neg]
    rintro ⟨step, hstep, hdotted⟩
    exact h step hstep hdotted

@[simp] theorem normalized_normalized (path : String) :
    normalized (normalized path) = normalized path :=
  (normalized_eq_self_iff _).mpr fun _ hstep => not_isDotted_of_mem_normalized hstep

/-- What is left of a path is not longer than the path. -/
theorem length_normalized_le {path : String} (hne : path ≠ "") :
    (normalized path).length ≤ path.length := by
  rw [normalized_eq]
  split
  · rcases walked_cases path with hslash | ⟨hleft, hwalked⟩
    · rw [hslash]
      have hpos : path.length ≠ 0 := fun hzero => hne (String.length_eq_zero_iff.mp hzero)
      show 1 ≤ path.length
      omega
    -- carrying out steps never adds one
    · have hlength := lengthOf_walk_le [] (stepsOf path)
      have hsteps : stepsOf path ≠ [] := by
        unfold stepsOf
        simpa using Text.splitWhere_ne_nil _ _
      have hpath := length_intercalate hsteps
      rw [Route.intercalate_stepsOf] at hpath
      have hleft' := length_intercalate hleft
      rw [hwalked]
      have hnil : lengthOf [] = 0 := rfl
      omega
  · exact Nat.le_refl _

/-- The characters of what is left of a path are slashes and characters of the path. -/
theorem mem_normalized {path : String} {c : Char} (h : c ∈ (normalized path).toList) :
    c = '/' ∨ c ∈ path.toList := by
  rw [normalized_eq] at h
  split at h
  · rcases walked_cases path with hslash | ⟨hne, hwalked⟩
    · rw [hslash] at h
      exact .inl (by simpa using h)
    · rw [hwalked] at h
      rcases Route.mem_intercalate h with hslash | ⟨step, hstep, hc⟩
      · exact .inl hslash
      · rcases mem_walk hstep with hdone | ⟨hmem, -⟩
        · cases hdone
        · exact .inr (Route.mem_of_mem_stepsOf hmem hc)
  · exact .inr h

end Exchange.Target

end Waymark

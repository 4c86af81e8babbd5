import Mathlib
import Waymark.Proofs.CallOutcome
import Waymark.Proofs.FormText
import Waymark.Proofs.ItemByItem
import Waymark.Proofs.RouteSteps

/-! # Where a request goes

    A request is sent to the route of a node, with its query. What stands in the fields of the
    node is encoded in both, so that it should not matter for where the request goes. This is so
    as far as the number of steps and the steps without placeholders are concerned
    (`Registry.Routed`). But a step that consists of placeholders only may become a dot,
    or two of them, and then the route is not where the request goes.

    The main result is `Transport.perform_reaches`. It says for any chain of nodes whose segments
    are plain text and placeholders (`Registry.Plain`) which path and which query are sent: the
    path is the route with all steps carried out, which is the route exactly if none of its steps
    is dotted, and the query has all entries, in their order exactly if those of each name stood
    side by side.
-/

namespace Waymark

namespace Api

open Exchange.Target (IsDotted)

/-- Letters, digits, hyphens, underscores and slashes. -/
def IsPlain (c : Char) : Prop :=
  c.isAlphanum = true ∨ c = '-' ∨ c = '_' ∨ c = '/'

/-- The text of a step in which there are no placeholders. -/
def literal? : List Piece → Option (List Char)
  | [] => some []
  | .text cs :: rest => (literal? rest).map (cs ++ ·)
  | .placeholder _ :: _ => none

/-- A step that is literal is what it is whatever fills the placeholders. -/
theorem flatMap_of_literal? {fill : Piece → List Char} (hfill : ∀ cs, fill (.text cs) = cs)
    {step : List Piece} {cs : List Char} (h : literal? step = some cs) : step.flatMap fill = cs := by
  induction step generalizing cs with
  | nil => exact Option.some.inj h
  | cons piece rest ih =>
    cases piece with
    | placeholder name => cases h
    | text front =>
      obtain ⟨later, hlater, rfl⟩ := Option.map_eq_some_iff.mp h
      rw [List.flatMap_cons, hfill, ih hlater]

/-- The text pieces of a segment are its characters. -/
theorem exists_of_text_mem_pieces {segment : String} {cs : List Char}
    (h : .text cs ∈ pieces segment) : ∃ c, cs = [c] := by
  unfold pieces at h
  generalize segment.toList = rest at h
  -- the induction is over a cut that may begin inside a placeholder
  generalize hskip : 0 = skip at h
  clear hskip
  fun_induction cut skip rest with
  | case1 skip => cases h
  | case2 skip c rest ih => exact ih h
  | case3 c rest name hname ih =>
    rcases List.mem_cons.mp h with heq | h
    · cases heq
    · exact ih h
  | case4 c rest hname ih =>
    rcases List.mem_cons.mp h with heq | h
    · cases heq
      exact ⟨c, rfl⟩
    · exact ih h

/-- The names of the placeholders are those of the pieces. -/
theorem mem_placeholders {segment name : String} :
    name ∈ placeholders segment ↔ .placeholder name ∈ pieces segment := by
  unfold placeholders
  rw [List.mem_filterMap]
  constructor
  · rintro ⟨piece, hpiece, hname⟩
    cases piece with
    | text cs => cases hname
    | placeholder other =>
      cases hname
      exact hpiece
  · exact fun h => ⟨_, h, rfl⟩

/-- The pieces of steps are pieces of the segment. -/
theorem mem_of_mem_stepsOfPieces {ps step : List Piece} {piece : Piece}
    (hstep : step ∈ stepsOfPieces ps) (hpiece : piece ∈ step) : piece ∈ ps := by
  -- splitting takes pieces away, and so does trimming before it
  have hsplit : ∀ qs : List Piece, ∀ step ∈ qs.splitOnP Piece.isSlash, ∀ piece ∈ step, piece ∈ qs := by
    intro qs
    induction qs with
    | nil =>
      intro step hstep piece hpiece
      obtain rfl := List.mem_singleton.mp hstep
      cases hpiece
    | cons first rest ih =>
      intro step hstep piece hpiece
      rw [List.splitOnP_cons_eq_if_modifyHead] at hstep
      split at hstep
      · rcases List.mem_cons.mp hstep with rfl | hstep
        · cases hpiece
        · exact List.mem_cons_of_mem _ (ih step hstep piece hpiece)
      · obtain ⟨front, steps, hsteps⟩ := List.exists_cons_of_ne_nil
          (List.splitOnP_ne_nil Piece.isSlash rest)
        rw [hsteps, List.modifyHead_cons] at hstep
        rcases List.mem_cons.mp hstep with rfl | hstep
        · rcases List.mem_cons.mp hpiece with rfl | hpiece
          · exact List.mem_cons_self
          · exact List.mem_cons_of_mem _ (ih front (hsteps ▸ List.mem_cons_self) piece hpiece)
        · exact List.mem_cons_of_mem _
            (ih step (hsteps ▸ List.mem_cons_of_mem _ hstep) piece hpiece)
  unfold stepsOfPieces at hstep
  split at hstep
  · cases hstep
  · next hrest =>
    refine Text.mem_of_mem_dropAround (p := Piece.isSlash) ?_
    exact hsplit _ step hstep piece hpiece

namespace Registry

variable {r : Registry} {v : Value} {c : ClassInfo} {fields : List (String × Value)}
  {segment : String}

/-- The value is a node with the fields, of a class with the segment. -/
inductive Stands (r : Registry) : Value → ClassInfo → List (String × Value) → String → Prop where
  | intro {ref : ClassRef} {serial : Nat} {fields : List (String × Value)} {c : ClassInfo}
    {segment : String} (ofClass : r.classOf? (.node ref serial fields) = some c)
    (hasSegment : c.segment = some segment) : Stands r (.node ref serial fields) c fields segment

/-- The segment of a node's class. -/
def segmentOf (r : Registry) (v : Value) : String :=
  ((r.classOf? v).bind ClassInfo.segment).getD ""

theorem Stands.segmentOf_eq (h : r.Stands v c fields segment) : r.segmentOf v = segment := by
  cases h with
  | intro hclass hsegment => simp [segmentOf, hclass, hsegment]

/-- What fills a piece of a node's segment. -/
def filler (r : Registry) (c : ClassInfo) (fields : List (String × Value)) : Piece → List Char
  | .text cs => cs
  | .placeholder name =>
    ((r.member? c fields name).map fun v => (Text.percentEncoded (routeText v)).toList).getD []

/-- The segment of the node is written in plain characters, and what fills its placeholders is
    not empty. -/
structure Plain (r : Registry) (v : Value) : Prop where
  literal : ∀ c fields segment, r.Stands v c fields segment →
    ∀ cs, .text cs ∈ pieces segment → ∀ d ∈ cs, IsPlain d
  filled : ∀ c fields segment, r.Stands v c fields segment →
    ∀ name ∈ placeholders segment, ∀ value, r.member? c fields name = some value →
      routeText value ≠ ""

/-- What fills the placeholders of the node does not consist of dots only. -/
def Undotted (r : Registry) (v : Value) : Prop :=
  ∀ c fields segment, r.Stands v c fields segment →
    ∀ name ∈ placeholders segment, ∀ value, r.member? c fields name = some value →
      ∃ d ∈ (routeText value).toList, d ≠ '.'

/-- The steps of a node's route, in pieces. They are a matter of the classes along the chain. -/
def template (r : Registry) (v : Value) : List (List Piece) :=
  match (r.chain v).reverse.flatMap fun node => stepsOfPieces (pieces (r.segmentOf node)) with
  | [] => [[]]
  | steps => steps

/-- The text of a step is that of the step in pieces, if there are no placeholders in it. -/
def KeepsLiteral (step : List Piece) (text : String) : Prop :=
  ∀ cs, literal? step = some cs → text = String.ofList cs

/-! ### Segments -/

theorem flatten_eq_intercalate (texts : List String) :
    ("".intercalate texts).toList = texts.flatMap String.toList := by
  rw [String.toList_intercalate]
  show ([] : List Char).intercalate _ = _
  induction texts with
  | nil => rfl
  | cons text rest ih =>
    by_cases hrest : rest = []
    · simp [hrest]
    · rw [List.map_cons, List.intercalate_cons_of_ne_nil (by simpa using hrest), ih]
      simp

/-- A piece with a text is filled with it; a placeholder has something then. -/
theorem pieceText_eq_ok {piece : Piece} {text : String}
    (h : r.pieceText c fields segment piece = .ok text) :
    text.toList = r.filler c fields piece ∧
      ∀ name, piece = .placeholder name → ∃ value, r.member? c fields name = some value := by
  cases piece with
  | text cs =>
    cases h
    exact ⟨String.toList_ofList, fun name heq => by cases heq⟩
  -- a placeholder without a value is a fault
  | placeholder name =>
    unfold pieceText at h
    dsimp only at h
    cases hmember : r.member? c fields name with
    | none =>
      rw [hmember] at h
      cases h
    | some value =>
      rw [hmember] at h
      cases h
      refine ⟨?_, fun other heq => ?_⟩
      · simp [filler, hmember]
      · cases heq
        exact ⟨value, hmember⟩

/-- The texts of pieces are what they are filled with. -/
theorem filler_of_forall₂ {ps : List Piece} {texts : List String}
    (h : List.Forall₂ (fun piece text => r.pieceText c fields segment piece = .ok text) ps texts) :
    texts.flatMap String.toList = ps.flatMap (r.filler c fields) ∧
      ∀ name, .placeholder name ∈ ps → ∃ value, r.member? c fields name = some value := by
  induction h with
  | nil => exact ⟨rfl, fun name hname => by cases hname⟩
  | cons hpiece _ ih =>
    obtain ⟨htext, hmember⟩ := pieceText_eq_ok hpiece
    refine ⟨?_, fun name hname => ?_⟩
    · rw [List.flatMap_cons, List.flatMap_cons, htext, ih.1]
    · rcases List.mem_cons.mp hname with heq | hname
      · exact hmember name heq.symm
      · exact ih.2 name hname

/-- A segment with a text is filled, and all its placeholders have something. -/
theorem exists_stands_of_segmentText {text : String} (h : r.segmentText v = .ok text) :
    ∃ c fields segment, r.Stands v c fields segment ∧
      (∀ name ∈ placeholders segment, ∃ value, r.member? c fields name = some value) ∧
      text = String.ofList ((pieces segment).flatMap (r.filler c fields)) := by
  unfold segmentText at h
  split at h
  · cases h
  · next c hclass =>
    split at h
    · next segment ref serial fields hsegment =>
      -- the node is of a class with a segment, and all pieces have a text
      cases hmap : (pieces segment).mapM (r.pieceText c fields segment) with
      | error fault =>
        rw [hmap] at h
        cases h
      | ok texts =>
        rw [hmap] at h
        cases h
        have htexts := filler_of_forall₂ (forall₂_of_mapM hmap)
        refine ⟨c, fields, segment, .intro hclass hsegment, fun name hname => ?_, ?_⟩
        · exact htexts.2 name (mem_placeholders.mp hname)
        · apply String.toList_injective
          rw [flatten_eq_intercalate, String.toList_ofList, htexts.1]
    · cases h

theorem isUnreserved_of_isPlain {d : Char} (h : IsPlain d) :
    Text.isUnreserved d = true ∨ d = '/' := by
  rcases h with halphanum | rfl | rfl | rfl
  · exact .inl (by simp [Text.isUnreserved, halphanum])
  · exact .inl (by decide)
  · exact .inl (by decide)
  · exact .inr rfl

/-- What fills a placeholder is unreserved characters and escapes, and not empty if the text of
    the value is not. -/
theorem mem_percentEncoded {text : String} {d : Char} (h : d ∈ (Text.percentEncoded text).toList) :
    Text.isUnreserved d = true ∨ d = '%' := by
  rcases Text.mem_percentEncodeUnless h with hplain | hpercent | halphanum
  · exact .inl hplain
  · exact .inr hpercent
  · exact .inl (by simp [Text.isUnreserved, halphanum])

/-- A character other than a dot leaves one. -/
theorem exists_ne_dot_percentEncoded {text : String} (h : ∃ d ∈ text.toList, d ≠ '.') :
    ∃ d ∈ (Text.percentEncoded text).toList, d ≠ '.' := by
  obtain ⟨d, hd, hne⟩ := h
  rcases @Text.mem_or_percent_mem Text.isUnreserved text d hd with hmem | hpercent
  · exact ⟨d, hmem, hne⟩
  · exact ⟨'%', hpercent, by decide⟩

theorem percentEncoded_ne_nil {text : String} (h : text ≠ "") :
    (Text.percentEncoded text).toList ≠ [] := by
  obtain ⟨d, more, hd⟩ := List.exists_cons_of_ne_nil
    (show text.toList ≠ [] from fun hnil => h (String.toList_injective hnil))
  have hmem : d ∈ text.toList := hd ▸ List.mem_cons_self
  intro hnil
  rcases @Text.mem_or_percent_mem Text.isUnreserved text d hmem with hmem | hmem
  · exact absurd (hnil ▸ hmem) List.not_mem_nil
  · exact absurd (hnil ▸ hmem) List.not_mem_nil

/-- What a placeholder of a plain node is filled with. -/
theorem filler_placeholder {name : String} {value : Value}
    (h : r.member? c fields name = some value) :
    r.filler c fields (.placeholder name) = (Text.percentEncoded (routeText value)).toList := by
  simp [filler, h]

/-- In a plain node every piece is filled with something, without slashes. -/
theorem Plain.fillsSteps (h : r.Plain v) (hstands : r.Stands v c fields segment)
    (hmember : ∀ name ∈ placeholders segment, ∃ value, r.member? c fields name = some value) :
    FillsSteps (r.filler c fields) (pieces segment) := by
  intro piece hpiece
  cases piece with
  | text cs =>
    obtain ⟨d, rfl⟩ := exists_of_text_mem_pieces hpiece
    by_cases hslash : d = '/'
    · subst hslash
      rfl
    · have hnot : Piece.isSlash (.text [d]) = false := by
        simp [Piece.isSlash, hslash]
      simp [hnot, filler, Ne.symm hslash]
  | placeholder name =>
    have hname := mem_placeholders.mpr hpiece
    obtain ⟨value, hvalue⟩ := hmember name hname
    -- what fills a placeholder is not empty, and the slashes in it are encoded
    have hne := h.filled c fields segment hstands name hname value hvalue
    have hnot : Piece.isSlash (.placeholder name) = false := by
      simp [Piece.isSlash]
    rw [hnot, filler_placeholder hvalue]
    refine ⟨percentEncoded_ne_nil hne, fun hmem => ?_⟩
    rcases mem_percentEncoded hmem with hplain | hpercent
    · exact absurd hplain (by decide)
    · exact absurd hpercent (by decide)

/-- The characters that a route of plain nodes is written in. -/
def IsRouteChar (d : Char) : Prop :=
  Text.isUnreserved d = true ∨ d = '%' ∨ d = '/'

/-- What is known of the text of a plain node's segment. -/
structure Segmented (r : Registry) (v : Value) (text : String) : Prop where
  steps : List.Forall₂ KeepsLiteral (stepsOfPieces (pieces (r.segmentOf v)))
    (Route.stepsOfSegment text)
  chars : ∀ d ∈ text.toList, IsRouteChar d
  undotted : r.Undotted v → ∀ step ∈ Route.stepsOfSegment text, ¬ IsDotted step

theorem Plain.segmented (h : r.Plain v) {text : String} (htext : r.segmentText v = .ok text) :
    r.Segmented v text := by
  obtain ⟨c, fields, segment, hstands, hmember, rfl⟩ := exists_stands_of_segmentText htext
  have hsteps := stepsOfSegment_fill (h.fillsSteps hstands hmember)
  refine ⟨?_, ?_, ?_⟩
  · rw [hsteps, hstands.segmentOf_eq, List.forall₂_map_right_iff, List.forall₂_same]
    intro step _ cs hliteral
    rw [flatMap_of_literal? (fun cs => rfl) hliteral]
  · intro d hd
    rw [String.toList_ofList, List.mem_flatMap] at hd
    obtain ⟨piece, hpiece, hd⟩ := hd
    cases piece with
    | text cs =>
      rcases isUnreserved_of_isPlain (h.literal c fields segment hstands cs hpiece d hd) with
        hplain | hslash
      · exact .inl hplain
      · exact .inr (.inr hslash)
    | placeholder name =>
      obtain ⟨value, hvalue⟩ := hmember name (mem_placeholders.mpr hpiece)
      rw [filler_placeholder hvalue] at hd
      exact (mem_percentEncoded hd).imp_right .inl
  · intro hundotted step hstep hdotted
    rw [hsteps, List.mem_map] at hstep
    obtain ⟨ps, hps, rfl⟩ := hstep
    have hdots : ∀ d ∈ ps.flatMap (r.filler c fields), d = '.' := by
      intro d hd
      have hd' : d ∈ (String.ofList (ps.flatMap (r.filler c fields))).toList := by
        rwa [String.toList_ofList]
      rcases hdotted with heq | heq
      · rw [heq] at hd'
        simpa using hd'
      · rw [heq] at hd'
        simpa using hd'
    cases ps with
    | nil =>
      have hempty : ¬ IsDotted "" := by decide
      exact hempty hdotted
    | cons piece rest =>
      have hpiece : piece ∈ pieces segment := mem_of_mem_stepsOfPieces hps List.mem_cons_self
      -- the first piece has another character than dots
      cases piece with
      | text cs =>
        obtain ⟨d, rfl⟩ := exists_of_text_mem_pieces hpiece
        have hplain := h.literal c fields segment hstands _ hpiece d List.mem_cons_self
        obtain rfl : d = '.' := hdots d (List.mem_append_left _ List.mem_cons_self)
        rcases hplain with hplain | hplain | hplain | hplain
        all_goals exact absurd hplain (by decide)
      | placeholder name =>
        have hname := mem_placeholders.mpr hpiece
        obtain ⟨value, hvalue⟩ := hmember name hname
        obtain ⟨d, hd, hne⟩ := exists_ne_dot_percentEncoded
          (hundotted c fields segment hstands name hname value hvalue)
        refine hne (hdots d (List.mem_append_left _ ?_))
        rwa [filler_placeholder hvalue]

/-! ### Routes -/

/-- What is known of the route of plain nodes. -/
structure Routed (r : Registry) (v : Value) (route : String) : Prop where
  steps : ∃ texts, Route.stepsOf route = "" :: texts ∧ List.Forall₂ KeepsLiteral (r.template v) texts
  chars : ∀ d ∈ route.toList, IsRouteChar d
  rooted : ∃ rest, route = "/" ++ rest ∧ ∀ d, rest.toList.head? = some d → d ≠ '/'
  undotted : (∀ node ∈ r.chain v, r.Undotted node) → ∀ step ∈ Route.stepsOf route, ¬ IsDotted step

theorem chain_ne_nil (r : Registry) (v : Value) : r.chain v ≠ [] := by
  cases v <;> simp [chain]

/-- The first character behind the slash of a route is none. -/
theorem head?_ne_slash {steps : List String} (h : Route.Trimmed steps) {d : Char}
    (hd : ("/".intercalate steps).toList.head? = some d) : d ≠ '/' := by
  rw [← h.bare, Route.toList_bare] at hd
  simpa using Text.head?_dropAround (· == '/') _ d hd

theorem routed_of_route {route : String} (hplain : ∀ node ∈ r.chain v, r.Plain node)
    (h : r.route v = .ok route) : r.Routed v route := by
  unfold Registry.route at h
  cases hmap : (r.chain v).mapM r.segmentText with
  | error fault =>
    rw [hmap] at h
    cases h
  | ok texts =>
    rw [hmap] at h
    cases h
    have hsegmented : List.Forall₂ r.Segmented (r.chain v).reverse texts.reverse := by
      rw [List.forall₂_reverse_iff]
      exact forall₂_imp_of_mem (forall₂_of_mapM hmap)
        fun node hnode _ _ htext => (hplain node hnode).segmented htext
    have hne : texts.reverse ≠ [] := by
      intro hnil
      rw [hnil, List.forall₂_nil_right_iff, List.reverse_eq_nil_iff] at hsegmented
      exact chain_ne_nil r v hsegmented
    -- the steps are filled one by one
    have hsteps : List.Forall₂ KeepsLiteral
        ((r.chain v).reverse.flatMap fun node => stepsOfPieces (pieces (r.segmentOf node)))
        (texts.reverse.flatMap Route.stepsOfSegment) :=
      List.rel_flatMap hsegmented fun _ _ hsegment => hsegment.steps
    refine ⟨⟨_, Route.stepsOf_ofSegments hne, ?_⟩, ?_, ⟨_, Route.ofSegments_eq hne, ?_⟩, ?_⟩
    · unfold template
      generalize (r.chain v).reverse.flatMap (fun node => stepsOfPieces (pieces (r.segmentOf node)))
        = front at hsteps
      generalize texts.reverse.flatMap Route.stepsOfSegment = back at hsteps
      cases hsteps with
      | nil =>
        refine .cons (fun cs hcs => ?_) .nil
        obtain rfl : [] = cs := Option.some.inj hcs
        rfl
      | cons hfirst hrest => exact .cons hfirst hrest
    -- a route holds slashes and what its steps hold
    · intro d hd
      rw [Route.ofSegments_eq hne, String.toList_append, List.mem_append] at hd
      rcases hd with hd | hd
      · exact .inr (.inr (by simpa using hd))
      · rcases Route.mem_intercalate hd with hslash | ⟨step, hstep, hd⟩
        · exact .inr (.inr hslash)
        · obtain ⟨text, htext, hstep⟩ := List.mem_flatMap.mp hstep
          obtain ⟨node, -, hsegment⟩ := exists_left_of_forall₂ hsegmented htext
          exact hsegment.chars d (Route.mem_of_mem_stepsOfSegment hstep hd)
    · exact fun d hd => head?_ne_slash (Route.trimmed_flatMap _) hd
    · intro hundotted step hstep
      rw [Route.stepsOf_ofSegments hne] at hstep
      have hempty : ¬ IsDotted "" := by decide
      rcases List.mem_cons.mp hstep with rfl | hstep
      · exact hempty
      -- a dotted step can only be one that was filled with dots
      · have hall : ∀ other ∈ texts.reverse.flatMap Route.stepsOfSegment, ¬ IsDotted other := by
          intro other hother
          obtain ⟨text, htext, hother⟩ := List.mem_flatMap.mp hother
          obtain ⟨node, hnode, hsegment⟩ := exists_left_of_forall₂ hsegmented htext
          exact hsegment.undotted (hundotted node (List.mem_reverse.mp hnode)) other hother
        split at hstep
        · obtain rfl := List.mem_singleton.mp hstep
          exact hempty
        · exact hall step hstep

end Registry

end Api

namespace Exchange

open Waymark.Api (Registry ClassInfo)
open Waymark.Api.Registry (IsRouteChar KeepsLiteral Plain Undotted)

namespace Target

variable {base route rest : String} {entries : List (String × String)}

/-! ### Targets -/

theorem inPath_of_isRouteChar {d : Char} (h : IsRouteChar d) : inPath d = true := by
  rcases h with hplain | rfl | rfl
  · exact inPath_of_isUnreserved hplain
  · rfl
  · rfl

/-- A route is sent as it is by itself. -/
theorem own_eq (hchars : ∀ d ∈ route.toList, IsRouteChar d) : own route = { path := route } := by
  -- a route holds no mark that ends the path
  have hfree : ∀ mark : Char, inPath mark = false → ∀ d ∈ route.toList, (d == mark) = false := by
    intro mark hmark d hd
    rw [beq_eq_false_iff_ne]
    rintro rfl
    rw [inPath_of_isRouteChar (hchars d hd)] at hmark
    cases hmark
  unfold own
  rw [splitFirst_eq_self (hfree '#' rfl)]
  dsimp only
  rw [splitFirst_eq_self (hfree '?' rfl)]
  dsimp only
  rw [String.ofList_toList,
    Text.percentEncodeUnless_eq_self fun d hd => inPath_of_isRouteChar (hchars d hd)]
  rfl

/-- Behind an empty base a route is what it is. -/
theorem joined_eq (hbase : ofBase base = "/") (hrooted : route = "/" ++ rest)
    (hfirst : ∀ d, rest.toList.head? = some d → d ≠ '/')
    (hchars : ∀ d ∈ route.toList, IsRouteChar d) : joined base route = { path := route } := by
  have htext : (own route).text = route := by
    rw [own_eq hchars]
    exact String.append_empty
  -- the base ends with a slash, and the one of the route is dropped
  have hdrop : route.toList.dropWhile (· == '/') = rest.toList := by
    rw [hrooted, String.toList_append]
    show ('/' :: rest.toList).dropWhile _ = _
    rw [List.dropWhile_cons_of_pos rfl]
    exact Text.dropWhile_eq_self fun d hd => by simpa using hfirst d hd
  have hquestion : ∀ d ∈ route.toList, (d == '?') = false := by
    intro d hd
    rw [beq_eq_false_iff_ne]
    rintro rfl
    exact absurd (inPath_of_isRouteChar (hchars _ hd)) (by decide)
  unfold joined
  rw [htext, hdrop, hbase, String.ofList_toList, ← hrooted]
  unfold ofText
  rw [splitFirst_eq_self hquestion]
  dsimp only
  rw [String.ofList_toList]
  rfl

/-- What is left of a path of such characters may be sent as it is. -/
theorem percentEncodeUnless_normalized (hchars : ∀ d ∈ route.toList, IsRouteChar d) :
    Text.percentEncodeUnless inPath (normalized route) = normalized route := by
  refine Text.percentEncodeUnless_eq_self fun d hd => ?_
  rcases mem_normalized hd with rfl | hd
  · rfl
  · exact inPath_of_isRouteChar (hchars d hd)

/-- The target of a request is the route with all steps carried out, and the query. -/
theorem ofRequest_eq_ok (hbase : ofBase base = "/") (hrooted : route = "/" ++ rest)
    (hfirst : ∀ d, rest.toList.head? = some d → d ≠ '/')
    (hchars : ∀ d ∈ route.toList, IsRouteChar d) (hlength : route.length ≤ maxLength)
    (hquery : (queryText entries).length ≤ maxLength) :
    ofRequest base route entries = .ok
      { path := normalized route
        query := if entries.isEmpty then none else some (queryText entries) } := by
  have hjoined := joined_eq hbase hrooted hfirst hchars
  have hprintable : ∀ d ∈ route.toList, isControl d = false := by
    intro d hd
    rcases hchars d hd with hplain | rfl | rfl
    · exact not_isControl_of_isUnreserved hplain
    · rfl
    · rfl
  have hroute : ofRoute route = .ok (own route) := by
    rcases ofRoute_eq route with ⟨-, hroute⟩ | ⟨hrefused, -⟩
    · exact hroute
    · exact absurd ⟨hlength, hprintable⟩ hrefused
  have hok : ∀ t : Target, t.Short → t.checked = .ok t.encoded := by
    intro t hshort
    rcases checked_eq t with ⟨-, hchecked⟩ | ⟨hlong, -⟩
    · exact hchecked
    · exact absurd hshort hlong
  -- first as it is, then with the entries
  have hencoded : (joined base route).encoded = { path := normalized route } := by
    rw [hjoined]
    unfold encoded
    rw [percentEncodeUnless_normalized hchars]
    rfl
  have hcomplete : ({ path := normalized route } : Target).withEntries entries
      = { path := normalized route
          query := if entries.isEmpty then none else some (queryText entries) } := rfl
  have hne : route ≠ "" := by
    rw [hrooted]
    intro hempty
    exact absurd (String.append_eq_empty_iff.mp hempty).1 (by decide)
  rw [ofRequest_of_ofRoute hroute, hok (joined base route), hencoded]
  · dsimp only [Except.bind]
    rw [hcomplete, hok]
    · unfold encoded
      have hpath : Text.percentEncodeUnless inPath (normalized (normalized route))
          = normalized route := by
        rw [normalized_normalized, percentEncodeUnless_normalized hchars]
      dsimp only
      rw [hpath]
      by_cases hempty : entries.isEmpty = true
      · rw [if_pos hempty]
        rfl
      · rw [if_neg hempty, Option.map_some, percentEncodeUnless_queryText]
    · refine ⟨Nat.le_trans (length_normalized_le hne) hlength, ?_⟩
      by_cases hempty : entries.isEmpty = true
      · rw [if_pos hempty]
        exact Nat.zero_le _
      · rw [if_neg hempty]
        exact hquery
  · rw [hjoined]
    exact ⟨hlength, Nat.zero_le _⟩

/-- What a query reads as: all entries, those of one name together. -/
theorem entriesOfQuery?_eq (entries : List (String × String)) :
    entriesOfQuery? (if entries.isEmpty then none else some (queryText entries))
      = some (grouped entries) := by
  cases entries with
  | nil => rfl
  | cons e rest =>
    have hne : grouped (e :: rest) ≠ [] := by
      rw [grouped_cons]
      exact List.cons_ne_nil _ _
    exact entriesOfQuery?_queryText hne

end Target

/-! ## Main result -/

/-- What a request says of where it goes: its target for a node with a route and a query. -/
structure Reaches (r : Registry) (node : Value) (route : String) (entries : List (String × String))
    (target : Target) : Prop where
  /-- The route has as many steps as the classes say, and the literal ones among them. -/
  steps : ∃ texts, Route.stepsOf route = "" :: texts ∧
    List.Forall₂ KeepsLiteral (r.template node) texts
  /-- The path is the route with its steps carried out. -/
  path : target.path = Target.normalized route
  /-- This is the route exactly if no step of it is dotted. -/
  path_iff : target.path = route ↔ ∀ step ∈ Route.stepsOf route, ¬ Target.IsDotted step
  /-- No step is, unless something that fills a placeholder consists of dots. -/
  path_of_undotted : (∀ v ∈ r.chain node, Undotted r v) → target.path = route
  /-- The query has the entries of each name, in their order. -/
  query : ∃ sent, Target.entriesOfQuery? target.query = some sent ∧
    (∀ name, (sent.filter fun e => e.1 == name) = entries.filter fun e => e.1 == name) ∧
    (sent = entries ↔ Target.SideBySide entries)

namespace Transport

variable {t : Transport} {r : Registry} {c : Call} {body : Option String} {route : String}
  {entries : List (String × String)}

/-- **Where a request goes.** If the segments on the chain of a node are plain and the node has a
    route and a query that are short enough, one request is sent, with the verb and the body of the
    call. Its path is the route after dotted steps have been carried out, so it is the route exactly
    if no step is dotted. Its query has the entries of the node, those of each name in their order,
    and all in their order exactly if those of each name stood side by side (`Reaches`). -/
theorem perform_reaches (send : Request → Delivery) (hbase : t.base = "http://test")
    (hnode : r.isInstance c.node c.expected.ref = true) (hroute : r.route c.node = .ok route)
    (hquery : r.query c.node = .ok entries) (hplain : ∀ v ∈ r.chain c.node, Plain r v)
    (hwrites : c.Writes body) (hlength : route.length ≤ maxLength)
    (hlength' : (Target.queryText entries).length ≤ maxLength) :
    ∃ target, (t.perform r c send).1 = [⟨c.verb, target, body⟩] ∧
      Reaches r c.node route entries target := by
  have hrouted := Api.Registry.routed_of_route hplain hroute
  obtain ⟨rest, hrooted, hfirst⟩ := hrouted.rooted
  have hempty : Target.ofBase t.base = "/" := by
    rw [hbase]
    rfl
  -- the route is short enough and its characters are allowed in a path, so it is the path of the
  -- target
  have htarget := @Target.ofRequest_eq_ok t.base route rest entries hempty hrooted hfirst
    hrouted.chars hlength hlength'
  have htargetOf := targetOf_eq (t := t) hnode hroute hquery
  rw [htarget] at htargetOf
  have hsent : t.perform r c send = _ := perform_of_writes hwrites
  rw [htargetOf] at hsent
  refine ⟨_, congrArg Prod.fst hsent, ?_⟩
  exact {
    steps := hrouted.steps
    path := rfl
    path_iff := Target.normalized_eq_self_iff route
    path_of_undotted := fun hundotted =>
      (Target.normalized_eq_self_iff route).mpr (hrouted.undotted hundotted)
    query := ⟨_, Target.entriesOfQuery?_eq entries,
      fun name => Target.filter_grouped name entries, Target.grouped_eq_self_iff entries⟩ }

end Transport

/-! ## A class with a placeholder -/

namespace Sample

/-- A class whose segment ends in a placeholder, with one more field. -/
def keyed : ClassInfo :=
  { ref, segment := some "a/b/{id}", fields := [{ name := "id" }, { name := "q" }] }

def keyedRegistry : Registry :=
  { classes := [keyed] }

/-- A call of its node with a key. -/
def keyedCall (id : String) : Call :=
  { node := .node ref 0 [("id", .text id), ("q", .text "x y")], expected := keyed, result := .any
    error := .any }

theorem chain_keyedCall (id : String) :
    keyedRegistry.chain (keyedCall id).node = [(keyedCall id).node] := rfl

theorem pieces_keyed :
    Api.pieces "a/b/{id}" = [.text ['a'], .text ['/'], .text ['b'], .text ['/'], .placeholder "id"] := by
  decide

theorem placeholders_keyed : Api.placeholders "a/b/{id}" = ["id"] := by
  decide

theorem eq_of_stands {id : String} {c : ClassInfo} {fields : List (String × Value)} {segment : String}
    (h : keyedRegistry.Stands (keyedCall id).node c fields segment) :
    c = keyed ∧ fields = [("id", .text id), ("q", .text "x y")] ∧ segment = "a/b/{id}" := by
  obtain ⟨hclass, hsegment⟩ := h
  have hkeyed : some keyed = some c := hclass
  cases hkeyed
  have htext : some "a/b/{id}" = some segment := hsegment
  cases htext
  exact ⟨rfl, rfl, rfl⟩

/-- The node is plain whatever its key is, unless it is empty. -/
theorem plain_keyedCall {id : String} (h : id ≠ "") :
    ∀ v ∈ keyedRegistry.chain (keyedCall id).node, Plain keyedRegistry v := by
  rw [chain_keyedCall]
  intro v hv
  obtain rfl := List.mem_singleton.mp hv
  refine ⟨?_, ?_⟩
  · intro c fields segment hstands cs hcs d hd
    obtain ⟨rfl, rfl, rfl⟩ := eq_of_stands hstands
    rw [pieces_keyed] at hcs
    simp only [List.mem_cons, Api.Piece.text.injEq, reduceCtorEq, List.not_mem_nil, or_false] at hcs
    -- the text of the segment is a, b and slashes
    rcases hcs with rfl | rfl | rfl | rfl
    · exact .inl (List.mem_singleton.mp hd ▸ rfl)
    · exact .inr (.inr (.inr (List.mem_singleton.mp hd)))
    · exact .inl (List.mem_singleton.mp hd ▸ rfl)
    · exact .inr (.inr (.inr (List.mem_singleton.mp hd)))
  · intro c fields segment hstands name hname value hvalue
    obtain ⟨rfl, rfl, rfl⟩ := eq_of_stands hstands
    rw [placeholders_keyed] at hname
    obtain rfl := List.mem_singleton.mp hname
    have hid : some (Value.text id) = some value := hvalue
    cases hid
    exact h

end Sample

/-- A key with a dot in it is sent as it is, and so is a query with a blank. -/
theorem Transport.perform_reaches_sample :
    Sample.keyedRegistry.isInstance (Sample.keyedCall "v1.2").node Sample.keyed.ref = true ∧
      Sample.keyedRegistry.route (Sample.keyedCall "v1.2").node = .ok "/a/b/v1.2" ∧
      Sample.keyedRegistry.query (Sample.keyedCall "v1.2").node = .ok [("q", "x y")] ∧
      (∀ v ∈ Sample.keyedRegistry.chain (Sample.keyedCall "v1.2").node,
        Plain Sample.keyedRegistry v) ∧
      ∃ target, (Sample.transport.perform Sample.keyedRegistry (Sample.keyedCall "v1.2")
          fun _ => .answered 200 "1").1 = [⟨.get, target, none⟩] ∧
        Reaches Sample.keyedRegistry (Sample.keyedCall "v1.2").node "/a/b/v1.2" [("q", "x y")]
          target := by
  have hroute : Sample.keyedRegistry.route (Sample.keyedCall "v1.2").node = .ok "/a/b/v1.2" := by
    rfl
  have hquery : Sample.keyedRegistry.query (Sample.keyedCall "v1.2").node = .ok [("q", "x y")] := by
    rfl
  have hplain := Sample.plain_keyedCall (show "v1.2" ≠ "" by decide)
  exact ⟨rfl, hroute, hquery, hplain, Transport.perform_reaches _ rfl rfl hroute hquery hplain
    (.nothing rfl) (by decide) (by decide)⟩

/-- Two dots for a key go back: the node is an instance of its class, plain, and has a route, but
    the request is sent to another one. -/
theorem Sample.dots_redirect :
    Sample.keyedRegistry.isInstance (Sample.keyedCall "..").node Sample.keyed.ref = true ∧
      Sample.keyedRegistry.route (Sample.keyedCall "..").node = .ok "/a/b/.." ∧
      (∀ v ∈ Sample.keyedRegistry.chain (Sample.keyedCall "..").node,
        Plain Sample.keyedRegistry v) ∧
      ∀ send, (Sample.transport.perform Sample.keyedRegistry (Sample.keyedCall "..") send).1
        = [⟨.get, { path := "/a", query := some "q=x+y" }, none⟩] :=
  ⟨rfl, rfl, Sample.plain_keyedCall (by decide), fun _ => rfl⟩

end Exchange

end Waymark

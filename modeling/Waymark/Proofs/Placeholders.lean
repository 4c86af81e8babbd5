import Mathlib.Data.List.TakeWhile
import Waymark.Proofs.RequestTarget

/-! # Placeholders of segments

    A placeholder is the name of a field in braces. The segments of routes are cut at their
    placeholders from left to right, and this module says what comes of it without cutting.

    * A name is one of a segment's placeholders if it stands in braces anywhere in the segment
      (`mem_placeholders_iff`).
    * The text of a segment is the segment with something else in place of each placeholder
      (`Fills`, `Registry.segmentText_eq_ok_iff`). Only what is there under the names of the
      placeholders matters for it (`Fills.congr`).

    Proofs about segments go by `segment_induction`, which has one case for a placeholder and
    one for a character that starts none.
-/

namespace Waymark.Api

/-! ## Names in braces -/

/-- A letter or an underscore, and then letters, digits and underscores. -/
def IsFieldName (name : List Char) : Prop :=
  ∃ c rest, name = c :: rest ∧ startsName c = true ∧ ∀ d ∈ rest, inName d = true

/-- A name in braces, and what follows it. -/
def braced (name after : List Char) : List Char :=
  '\x7b' :: (name ++ '\x7d' :: after)

/-- Does the text start with a placeholder? -/
def StartsBraced (cs : List Char) : Prop :=
  ∃ name after, IsFieldName name ∧ cs = braced name after

/-- The name stands in braces somewhere in the segment. -/
def HasPlaceholder (segment name : String) : Prop :=
  IsFieldName name.toList ∧
    ∃ before after, segment.toList = before ++ braced name.toList after

/-- The text with a value in place of each placeholder, written so that it has no meaning of its
    own there. -/
inductive Fills (value : String → Option Value) : List Char → List Char → Prop
  | nil : Fills value [] []
  | placeholder {name after out : List Char} {v : Value} (called : IsFieldName name)
    (there : value (String.ofList name) = some v) (rest : Fills value after out) :
    Fills value (braced name after) ((Text.percentEncoded (routeText v)).toList ++ out)
  | char {c : Char} {cs out : List Char} (plain : ¬ StartsBraced (c :: cs))
    (rest : Fills value cs out) : Fills value (c :: cs) (c :: out)

theorem inName_of_startsName {c : Char} (h : startsName c = true) : inName c = true := by
  unfold startsName at h
  unfold inName Char.isAlphanum
  rw [Bool.or_eq_true] at h ⊢
  rcases h with h | h
  · exact .inl (by rw [h, Bool.true_or])
  · exact .inr h

theorem IsFieldName.inName {name : List Char} (h : IsFieldName name) :
    ∀ d ∈ name, inName d = true := by
  obtain ⟨c, rest, rfl, hc, hrest⟩ := h
  intro d hd
  rcases List.mem_cons.mp hd with rfl | hd
  · exact inName_of_startsName hc
  · exact hrest d hd

/-- No brace stands in a name. -/
theorem IsFieldName.brace_not_mem {name : List Char} (h : IsFieldName name) :
    '\x7b' ∉ name ∧ '\x7d' ∉ name := by
  refine ⟨fun hmem => ?_, fun hmem => ?_⟩
  · exact absurd (h.inName _ hmem) (by decide)
  · exact absurd (h.inName _ hmem) (by decide)

/-- The name ends where the first brace stands. -/
theorem takeWhile_inName {name after : List Char} (h : ∀ d ∈ name, inName d = true) :
    (name ++ '\x7d' :: after).takeWhile inName = name ∧
      (name ++ '\x7d' :: after).dropWhile inName = '\x7d' :: after := by
  rw [List.takeWhile_append_of_pos h, List.dropWhile_append_of_pos h,
    List.takeWhile_cons_of_neg (by decide), List.dropWhile_cons_of_neg (by decide)]
  exact ⟨List.append_nil _, rfl⟩

theorem placeholder?_eq_some_iff {cs name : List Char} :
    placeholder? cs = some name ↔ IsFieldName name ∧ ∃ after, cs = braced name after := by
  constructor
  · intro h
    unfold placeholder? at h
    split at h
    · next c rest =>
      dsimp only at h
      split at h
      · next hname =>
        obtain rfl := Option.some.inj h
        rw [Bool.and_eq_true, beq_iff_eq] at hname
        obtain ⟨hc, hbrace⟩ := hname
        -- the name ends at a brace
        obtain ⟨after, hafter⟩ : ∃ after, (c :: rest).dropWhile inName = '\x7d' :: after := by
          cases hdrop : (c :: rest).dropWhile inName with
          | nil => rw [hdrop] at hbrace; cases hbrace
          | cons d after =>
            rw [hdrop] at hbrace
            obtain rfl := Option.some.inj hbrace
            exact ⟨after, rfl⟩
        refine ⟨⟨c, rest.takeWhile inName, ?_, hc, fun d hd => List.mem_takeWhile_imp hd⟩,
          after, ?_⟩
        · exact List.takeWhile_cons_of_pos (inName_of_startsName hc)
        · unfold braced
          rw [← hafter, List.takeWhile_append_dropWhile]
      · cases h
    · cases h
  · rintro ⟨hname, after, rfl⟩
    have hends : (name ++ '\x7d' :: after).takeWhile inName = name ∧
        (name ++ '\x7d' :: after).dropWhile inName = '\x7d' :: after := takeWhile_inName hname.inName
    obtain ⟨c, rest, rfl, hc, -⟩ := hname
    rw [List.cons_append] at hends
    show (if startsName c && ((c :: (rest ++ '\x7d' :: after)).dropWhile inName).head? == some '\x7d'
      then some ((c :: (rest ++ '\x7d' :: after)).takeWhile inName) else none) = _
    rw [hends.1, hends.2, hc]
    rfl

theorem placeholder?_braced {name : List Char} (h : IsFieldName name) (after : List Char) :
    placeholder? (braced name after) = some name :=
  placeholder?_eq_some_iff.mpr ⟨h, after, rfl⟩

theorem placeholder?_eq_none {cs : List Char} (h : ¬ StartsBraced cs) : placeholder? cs = none := by
  rw [Option.eq_none_iff_forall_ne_some]
  intro name hname
  obtain ⟨hcalled, after, hcs⟩ := placeholder?_eq_some_iff.mp hname
  exact h ⟨name, after, hcalled, hcs⟩

/-- A text starts with at most one placeholder. -/
theorem braced_inj {name after name' after' : List Char} (h : IsFieldName name)
    (h' : IsFieldName name') (heq : braced name after = braced name' after') :
    name = name' ∧ after = after' := by
  have hname : name = name' := by
    have hfound := placeholder?_braced h after
    rw [heq, placeholder?_braced h' after'] at hfound
    exact (Option.some.inj hfound).symm
  subst hname
  refine ⟨rfl, ?_⟩
  have hrest := List.append_cancel_left (List.cons.inj heq).2
  exact (List.cons.inj hrest).2

/-! ## Cutting -/

/-- By induction on what is skipped. -/
theorem cut_eq_drop (n : Nat) (cs : List Char) : cut n cs = cut 0 (cs.drop n) := by
  induction n generalizing cs with
  | zero => rfl
  | succ n ih =>
    cases cs with
    | nil => simp [cut]
    | cons c rest => rw [cut, ih, List.drop_succ_cons]

theorem cut_braced {name : List Char} (h : IsFieldName name) (after : List Char) :
    cut 0 (braced name after) = .placeholder (String.ofList name) :: cut 0 after := by
  have hfound := placeholder?_braced h after
  unfold braced at hfound ⊢
  rw [cut, hfound]
  dsimp only
  rw [cut_eq_drop (name.length + 1), List.append_cons]
  congr 2
  exact List.drop_left' (by simp)

theorem cut_char {c : Char} {rest : List Char} (h : ¬ StartsBraced (c :: rest)) :
    cut 0 (c :: rest) = .text [c] :: cut 0 rest := by
  rw [cut, placeholder?_eq_none h]

/-- A segment is read from left to right: placeholders as a whole, and all else character by
    character. -/
theorem segment_induction {motive : List Char → Prop} (nil : motive [])
    (placeholder : ∀ name after, IsFieldName name → motive after → motive (braced name after))
    (char : ∀ c rest, ¬ StartsBraced (c :: rest) → motive rest → motive (c :: rest))
    (cs : List Char) : motive cs := by
  induction hlength : cs.length using Nat.strong_induction_on generalizing cs with
  | _ n ih =>
    -- a placeholder is cut off as a whole, anything else by one character
    by_cases hstarts : StartsBraced cs
    · obtain ⟨name, after, hname, rfl⟩ := hstarts
      refine placeholder name after hname (ih after.length ?_ after rfl)
      rw [← hlength, braced, List.length_cons, List.length_append, List.length_cons]
      omega
    · cases cs with
      | nil => exact nil
      | cons c rest =>
        refine char c rest hstarts (ih rest.length ?_ rest rfl)
        rw [← hlength, List.length_cons]
        omega

/-! ## The placeholders of a segment -/

/-- Where a name in braces starts inside of a placeholder, it is the placeholder. -/
theorem braced_eq_append {name name' after after' before : List Char} (h : IsFieldName name)
    (h' : IsFieldName name') (heq : braced name after = before ++ braced name' after') :
    (before = [] ∧ name' = name ∧ after' = after) ∨
      ∃ more, after = more ++ braced name' after' := by
  cases before with
  | nil =>
    obtain ⟨rfl, rfl⟩ := braced_inj h h' heq
    exact .inl ⟨rfl, rfl, rfl⟩
  | cons c front =>
    refine .inr ?_
    have hrest : name ++ '\x7d' :: after = front ++ '\x7b' :: (name' ++ '\x7d' :: after') :=
      (List.cons.inj heq).2
    -- the second brace opens behind the first placeholder, since no name holds a brace
    rcases List.append_eq_append_iff.mp hrest with ⟨more, rfl, hmore⟩ | ⟨more, rfl, hmore⟩
    · cases more with
      | nil => cases hmore
      | cons d more =>
        obtain ⟨-, hafter⟩ := List.cons.inj hmore
        exact ⟨more, hafter⟩
    · cases more with
      | nil => cases hmore
      | cons d more =>
        obtain ⟨rfl, -⟩ := List.cons.inj hmore
        exact absurd (List.mem_append_right front List.mem_cons_self) h.brace_not_mem.1

/-- The placeholders that are cut out are the names in braces. -/
theorem placeholder_mem_cut_iff {cs : List Char} {name : String} :
    .placeholder name ∈ cut 0 cs ↔
      IsFieldName name.toList ∧ ∃ before after, cs = before ++ braced name.toList after := by
  induction cs using segment_induction with
  | nil =>
    constructor
    · intro h
      cases h
    · rintro ⟨-, before, after, h⟩
      exact absurd h.symm (by simp [braced])
  -- it is the first placeholder, or it stands behind that one
  | placeholder other after hother ih =>
    rw [cut_braced hother, List.mem_cons, Piece.placeholder.injEq, ih]
    constructor
    · rintro (rfl | ⟨hname, before, later, rfl⟩)
      · rw [String.toList_ofList]
        exact ⟨hother, [], after, rfl⟩
      · exact ⟨hname, braced other before, later, by simp [braced]⟩
    · rintro ⟨hname, before, later, heq⟩
      rcases braced_eq_append hother hname heq with ⟨-, hsame, -⟩ | ⟨more, hmore⟩
      · exact .inl (by rw [← hsame, String.ofList_toList])
      · exact .inr ⟨hname, more, later, hmore⟩
  -- no placeholder begins here
  | char c rest hplain ih =>
    rw [cut_char hplain, List.mem_cons, ih]
    constructor
    · rintro (h | ⟨hname, before, later, rfl⟩)
      · cases h
      · exact ⟨hname, c :: before, later, rfl⟩
    · rintro ⟨hname, before, later, heq⟩
      refine .inr ⟨hname, ?_⟩
      cases before with
      | nil => exact absurd ⟨name.toList, later, hname, heq⟩ hplain
      | cons d more => exact ⟨more, later, (List.cons.inj heq).2⟩

/-- **The placeholders of a segment are the names that stand in braces in it.** -/
theorem mem_placeholders_iff {segment name : String} :
    name ∈ placeholders segment ↔ HasPlaceholder segment name := by
  rw [mem_placeholders, HasPlaceholder, ← placeholder_mem_cut_iff]
  rfl

/-! ## Filling -/

section

variable {value value' : String → Option Value} {cs out : List Char}

/-- What fills a placeholder is not a matter of where it stands. -/
theorem fills_braced_iff {name after : List Char} (h : IsFieldName name) :
    Fills value (braced name after) out ↔ ∃ v rest, value (String.ofList name) = some v ∧
      Fills value after rest ∧ out = (Text.percentEncoded (routeText v)).toList ++ rest := by
  constructor
  · intro hfills
    generalize hcs : braced name after = cs at hfills
    cases hfills with
    | nil => cases hcs
    | @placeholder name' after' out' v called there rest =>
      obtain ⟨rfl, rfl⟩ := braced_inj h called hcs
      exact ⟨v, out', there, rest, rfl⟩
    | char plain rest => exact absurd ⟨name, after, h, hcs.symm⟩ plain
  · rintro ⟨v, rest, there, hrest, hout⟩
    rw [hout]
    exact .placeholder h there hrest

theorem fills_char_iff {c : Char} (h : ¬ StartsBraced (c :: cs)) :
    Fills value (c :: cs) out ↔ ∃ rest, Fills value cs rest ∧ out = c :: rest := by
  constructor
  · intro hfills
    generalize hcs : c :: cs = all at hfills
    cases hfills with
    | nil => cases hcs
    | @placeholder name after out' v called there rest =>
      exact absurd ⟨name, after, called, hcs⟩ h
    | @char d ds out' plain rest =>
      obtain ⟨rfl, rfl⟩ := List.cons.inj hcs
      exact ⟨out', rest, rfl⟩
  · rintro ⟨rest, hrest, rfl⟩
    exact .char h hrest

/-- There is only one way to fill a segment. -/
theorem Fills.unique {other : List Char} (h : Fills value cs out) (h' : Fills value cs other) :
    out = other := by
  induction h generalizing other with
  | nil =>
    cases h' with
    | nil => rfl
  | placeholder called there _ ih =>
    obtain ⟨v, rest, hthere, hrest, hother⟩ := (fills_braced_iff called).mp h'
    obtain rfl := Option.some.inj (there.symm.trans hthere)
    rw [ih hrest, hother]
  | char plain _ ih =>
    obtain ⟨rest, hrest, rfl⟩ := (fills_char_iff plain).mp h'
    rw [ih hrest]

/-- Only what is there under the names of the placeholders fills a segment. -/
theorem Fills.congr {segment : String} (h : Fills value segment.toList out)
    (hsame : ∀ name, HasPlaceholder segment name → value' name = value name) :
    Fills value' segment.toList out := by
  simp only [HasPlaceholder, ← placeholder_mem_cut_iff] at hsame
  generalize segment.toList = cs at h hsame ⊢
  induction h with
  | nil => exact .nil
  | placeholder called there _ ih =>
    rw [cut_braced called] at hsame
    refine .placeholder called ?_ (ih fun name hname => hsame name (List.mem_cons_of_mem _ hname))
    rw [hsame _ List.mem_cons_self, there]
  | char plain _ ih =>
    rw [cut_char plain] at hsame
    exact .char plain (ih fun name hname => hsame name (List.mem_cons_of_mem _ hname))

/-- Where every placeholder has something to fill it, the segment can be filled. -/
theorem exists_fills {segment : String}
    (h : ∀ name, HasPlaceholder segment name → (value name).isSome = true) :
    ∃ out, Fills value segment.toList out := by
  simp only [HasPlaceholder, ← placeholder_mem_cut_iff] at h
  generalize segment.toList = cs at h ⊢
  induction cs using segment_induction with
  | nil => exact ⟨[], .nil⟩
  | placeholder name after called ih =>
    rw [cut_braced called] at h
    obtain ⟨v, hv⟩ := Option.isSome_iff_exists.mp (h _ List.mem_cons_self)
    obtain ⟨out, hout⟩ := ih fun name hname => h name (List.mem_cons_of_mem _ hname)
    exact ⟨_, .placeholder called hv hout⟩
  | char c rest plain ih =>
    rw [cut_char plain] at h
    obtain ⟨out, hout⟩ := ih fun name hname => h name (List.mem_cons_of_mem _ hname)
    exact ⟨_, .char plain hout⟩

/-- A segment without placeholders stays as it is. -/
theorem Fills.eq_self {segment : String} (h : Fills value segment.toList out)
    (hnone : ∀ name, ¬ HasPlaceholder segment name) : out = segment.toList := by
  simp only [HasPlaceholder, ← placeholder_mem_cut_iff] at hnone
  generalize segment.toList = cs at h hnone ⊢
  induction h with
  | nil => rfl
  | placeholder called _ _ _ =>
    rw [cut_braced called] at hnone
    exact absurd List.mem_cons_self (hnone _)
  | char plain _ ih =>
    rw [cut_char plain] at hnone
    rw [ih fun name hname => hnone name (List.mem_cons_of_mem _ hname)]

end

/-! ## The text of a segment -/

namespace Registry

variable {r : Registry} {c : ClassInfo} {fields : List (String × Value)} {segment : String}

/-- The texts of the pieces put together are the segment, filled. -/
theorem mapM_pieceText_iff {cs out : List Char} :
    (∃ texts, (cut 0 cs).mapM (r.pieceText c fields segment) = .ok texts ∧
      texts.flatMap String.toList = out) ↔ Fills (r.member? c fields) cs out := by
  induction cs using segment_induction generalizing out with
  | nil =>
    constructor
    · rintro ⟨texts, hmap, rfl⟩
      cases hmap
      exact .nil
    · intro h
      cases h
      exact ⟨[], rfl, rfl⟩
  -- the placeholder becomes the text of its value, and the rest is filled on its own
  | placeholder name after called ih =>
    rw [fills_braced_iff called, cut_braced called]
    constructor
    · rintro ⟨texts, hmap, rfl⟩
      cases forall₂_of_mapM hmap with
      | @cons _ text _ later hfirst hlater =>
        have hrest := ih.mp ⟨later, mapM_of_forall₂ later hlater, rfl⟩
        unfold pieceText at hfirst
        dsimp only at hfirst
        split at hfirst
        · next v hv =>
          cases hfirst
          exact ⟨v, _, hv, hrest, List.flatMap_cons⟩
        · cases hfirst
    · rintro ⟨v, rest, hv, hrest, hout⟩
      obtain ⟨later, hlater, rfl⟩ := ih.mpr hrest
      rw [hout]
      refine ⟨Text.percentEncoded (routeText v) :: later, ?_, List.flatMap_cons⟩
      refine mapM_of_forall₂ _ (.cons ?_ (forall₂_of_mapM hlater))
      unfold pieceText
      dsimp only
      rw [hv]
      rfl
  | char d rest plain ih =>
    rw [fills_char_iff plain, cut_char plain]
    constructor
    · rintro ⟨texts, hmap, rfl⟩
      cases forall₂_of_mapM hmap with
      | @cons _ text _ later hfirst hlater =>
        cases hfirst
        refine ⟨_, ih.mp ⟨later, mapM_of_forall₂ later hlater, rfl⟩, ?_⟩
        rw [List.flatMap_cons, String.toList_ofList]
        rfl
    · rintro ⟨out', hrest, rfl⟩
      obtain ⟨later, hlater, rfl⟩ := ih.mpr hrest
      refine ⟨String.ofList [d] :: later, ?_, ?_⟩
      · exact mapM_of_forall₂ _ (.cons rfl (forall₂_of_mapM hlater))
      · rw [List.flatMap_cons, String.toList_ofList]
        rfl

/-- **The text of a node's segment** is the segment with what the node has under the names of its
    placeholders, and it has one exactly if it has something under each of them. -/
theorem segmentText_eq_ok_iff {v : Value} {text : String} :
    r.segmentText v = .ok text ↔ ∃ c fields segment, r.Stands v c fields segment ∧
      Fills (r.member? c fields) segment.toList text.toList := by
  constructor
  · intro h
    unfold segmentText at h
    split at h
    · cases h
    · next c hclass =>
      split at h
      · next segment ref serial fields hsegment =>
        -- the pieces have texts exactly if every placeholder has a value
        cases hmap : (pieces segment).mapM (r.pieceText c fields segment) with
        | error fault =>
          rw [hmap] at h
          cases h
        | ok texts =>
          rw [hmap] at h
          cases h
          refine ⟨c, fields, segment, .intro hclass hsegment, mapM_pieceText_iff.mp ⟨texts, hmap, ?_⟩⟩
          rw [flatten_eq_intercalate]
      · cases h
  · rintro ⟨c, fields, segment, hstands, hfills⟩
    cases hstands with
    | intro hclass hsegment =>
      obtain ⟨texts, hmap, htexts⟩ := mapM_pieceText_iff.mpr hfills
      unfold segmentText
      rw [hclass]
      dsimp only
      rw [hsegment]
      dsimp only
      unfold pieces
      rw [hmap]
      show Except.ok ("".intercalate texts) = Except.ok text
      congr 1
      apply String.toList_injective
      rw [flatten_eq_intercalate, htexts]

end Registry

end Waymark.Api

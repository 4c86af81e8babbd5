import Mathlib.Data.List.Forall2
import Waymark.Proofs.MadeNodes

/-! # Checks of new nodes

    A node of a resource is made if its fields are given and the field for the parent holds a
    parent; then the class has a say (`Registry.Answer`). By method resolution that would be the
    check of the class, or of the nearest class it extends that has one
    (`Registry.nearestCheck?`). A resource runs its own check only.

    The main result is `resource_answers`: what making a node of a resource comes to in each case,
    and when this is what it would come to with the check that method resolution finds.
-/

namespace Waymark.Api

/-- Why the check refuses the node. If there is no check, nothing is refused. -/
def refusalBy (check : Option NodeCheck) (node : Value) : Option String :=
  check.bind (· node)

/-- The class has a field of the name. -/
def ClassInfo.HasField (c : ClassInfo) (name : String) : Prop :=
  ∃ f ∈ c.fields, f.name = name

/-- The fields that are without a value: nothing is given for them, and they have no default. -/
def absentFields (fields : List NodeField) (given : List (String × Value)) : List NodeField :=
  fields.filter fun f => f.default.isNone && (given.lookup f.name).isNone

namespace Registry

/-- The entry is the field with what is given by its name, or else with its default. -/
def FieldEntry (given : List (String × Value)) (f : NodeField) (entry : String × Value) : Prop :=
  entry.1 = f.name ∧ (given.lookup f.name = some entry.2 ∨
    given.lookup f.name = none ∧ f.default = some entry.2)

/-- The class can be made from what is given, which gives its fields the values. -/
structure Takes (c : ClassInfo) (given values : List (String × Value)) : Prop where
  known : ∀ entry ∈ given, c.HasField entry.1
  filled : List.Forall₂ (FieldEntry given) c.fields values

/-- The check that method resolution finds for the class: its own, or that of the nearest class it
    extends. -/
def nearestCheck? (r : Registry) (c : ClassInfo) : Option NodeCheck :=
  (r.lineage c).findSome? ClassInfo.refusal

/-- If the class has a parent, the field for it holds an instance of the parent. -/
def Seated (r : Registry) (c : ClassInfo) (values : List (String × Value)) : Prop :=
  ∀ outer f value, c.parent = some outer → r.parentField? c = some f →
    values.lookup f.name = some value → r.isInstance value outer = true

/-- What comes of making a node of a resource where its class runs the check: one case for each
    thing that can be wrong, in the order in which they are found. -/
inductive Answer (r : Registry) (c : ClassInfo) (given : List (String × Value))
    (check : Option NodeCheck) : Except NodeFault (Registry × Value) → Prop
  | unmet {verb : Verb} (contract : r.unmet? c = some verb) :
    Answer r c given check (.error (.unmet c.ref.name verb))
  | unexpected {before after : List (String × Value)} {name : String} {value : Value}
    (met : r.unmet? c = none) (entries : given = before ++ (name, value) :: after)
    (known : ∀ entry ∈ before, c.HasField entry.1) (unknown : ¬ c.HasField name) :
    Answer r c given check (.error (if name = selfName then .repeatedSelf c.ref.qualname
      else .unexpectedField c.ref.qualname name))
  | missing (met : r.unmet? c = none) (known : ∀ entry ∈ given, c.HasField entry.1)
    (absent : absentFields c.fields given ≠ []) :
    Answer r c given check (.error (.missingFields c.ref.qualname
      ((absentFields c.fields given).map NodeField.name)))
  | misplaced {values : List (String × Value)} {outer : ClassRef} {f : NodeField} {value : Value}
    (met : r.unmet? c = none) (takes : Takes c given values) (child : c.parent = some outer)
    (field : r.parentField? c = some f) (holds : values.lookup f.name = some value)
    (other : r.isInstance value outer = false) :
    Answer r c given check (.error
      (.wrongParent c.ref.qualname f.name outer.qualname value.typeName))
  | refused {values : List (String × Value)} {message : String} (met : r.unmet? c = none)
    (takes : Takes c given values) (seated : r.Seated c values)
    (refuses : refusalBy check (.node c.ref r.objects values) = some message) :
    Answer r c given check (.error (.refused message))
  | made {values : List (String × Value)} (met : r.unmet? c = none) (takes : Takes c given values)
    (seated : r.Seated c values)
    (passes : refusalBy check (.node c.ref r.objects values) = none) :
    Answer r c given check
      (.ok ({ r with objects := r.objects + 1 }, .node c.ref r.objects values))

variable {r r' : Registry} {c : ClassInfo} {given values : List (String × Value)}

/-! ## Fields -/

theorem resource?_of_isResource (h : c.isResource = true) : r.resource? c = some c := by
  unfold resource? lineage
  rw [List.find?_cons_of_pos h]

theorem parentField?_mem (h : c.isResource = true) {f : NodeField}
    (hf : r.parentField? c = some f) : f ∈ c.fields := by
  rw [parentField?_of_isResource h] at hf
  exact List.mem_of_find?_eq_some hf

theorem any_name_iff {name : String} :
    (c.fields.any fun f => f.name == name) = true ↔ c.HasField name := by
  simp [ClassInfo.HasField]

theorem checkNames_cons {qualname name : String} {value : Value} {fields : List NodeField}
    {rest : List (String × Value)} :
    checkNames qualname fields ((name, value) :: rest) =
      if fields.any fun f => f.name == name then checkNames qualname fields rest
      else .error (if name = selfName then .repeatedSelf qualname
        else .unexpectedField qualname name) := by
  unfold checkNames
  conv_lhs => unfold List.forM
  dsimp only
  by_cases hfield : (fields.any fun f => f.name == name) = true
  · rw [if_pos hfield, if_pos hfield]
    rfl
  · rw [if_neg hfield, if_neg hfield]
    by_cases hself : name = selfName
    · rw [if_pos hself, if_pos (by simpa using hself)]
      rfl
    · rw [if_neg hself, if_neg (by simpa using hself)]
      rfl

/-- Only names of fields may be given, and the first that is none is at fault. -/
theorem checkNames_of_known {qualname : String} (h : ∀ entry ∈ given, c.HasField entry.1) :
    checkNames qualname c.fields given = .ok () := by
  induction given with
  | nil => rfl
  | cons entry rest ih =>
    rw [checkNames_cons, if_pos (any_name_iff.mpr (h entry List.mem_cons_self))]
    exact ih fun other hother => h other (List.mem_cons_of_mem _ hother)

theorem checkNames_of_unknown {qualname name : String} {value : Value}
    {before after : List (String × Value)} (hknown : ∀ entry ∈ before, c.HasField entry.1)
    (hunknown : ¬ c.HasField name) :
    checkNames qualname c.fields (before ++ (name, value) :: after)
      = .error (if name = selfName then .repeatedSelf qualname
          else .unexpectedField qualname name) := by
  induction before with
  | nil => rw [List.nil_append, checkNames_cons, if_neg (mt any_name_iff.mp hunknown)]
  | cons entry rest ih =>
    rw [List.cons_append, checkNames_cons,
      if_pos (any_name_iff.mpr (hknown entry List.mem_cons_self))]
    exact ih fun other hother => hknown other (List.mem_cons_of_mem _ hother)

/-- Whatever is given, all names in it are those of fields, or there is a first that is not. -/
theorem known_or_unknown (c : ClassInfo) (given : List (String × Value)) :
    (∀ entry ∈ given, c.HasField entry.1) ∨
      ∃ before name value after, given = before ++ (name, value) :: after ∧
        (∀ entry ∈ before, c.HasField entry.1) ∧ ¬ c.HasField name := by
  induction given with
  | nil => exact .inl fun entry h => absurd h List.not_mem_nil
  | cons entry rest ih =>
    by_cases hentry : c.HasField entry.1
    · rcases ih with hknown | ⟨before, name, value, after, rfl, hbefore, hname⟩
      · exact .inl (List.forall_mem_cons.mpr ⟨hentry, hknown⟩)
      · have hfirst : ∀ other ∈ entry :: before, c.HasField other.1 :=
          List.forall_mem_cons.mpr ⟨hentry, hbefore⟩
        exact .inr ⟨entry :: before, name, value, after, rfl, hfirst, hname⟩
    · exact .inr ⟨[], entry.1, entry.2, rest, rfl, fun other h => absurd h List.not_mem_nil, hentry⟩

/-- The fields have entries unless one is missing that has no default. -/
theorem exists_filled_of_complete {fields : List NodeField}
    (h : absentFields fields given = []) :
    ∃ values, List.Forall₂ (FieldEntry given) fields values := by
  unfold absentFields at h
  induction fields with
  | nil => exact ⟨[], .nil⟩
  | cons f rest ih =>
    rw [List.filter_cons] at h
    split at h
    · cases h
    · next hthere =>
      obtain ⟨values, hvalues⟩ := ih h
      -- the field is given, or it has a default
      cases hgiven : given.lookup f.name with
      | some value => exact ⟨(f.name, value) :: values, .cons ⟨rfl, .inl hgiven⟩ hvalues⟩
      | none =>
        cases hdefault : f.default with
        | some value =>
          exact ⟨(f.name, value) :: values, .cons ⟨rfl, .inr ⟨hgiven, hdefault⟩⟩ hvalues⟩
        | none => simp [hgiven, hdefault] at hthere

theorem FieldEntry.value_eq {f : NodeField} {entry : String × Value}
    (h : FieldEntry given f entry) :
    ((given.lookup f.name).orElse fun _ => f.default) = some entry.2 := by
  obtain ⟨-, hgiven | ⟨hgiven, hdefault⟩⟩ := h
  · simp [hgiven]
  · simp [hgiven, hdefault]

/-- No field is without a value if all have entries. -/
theorem absentFields_eq_nil {fields : List NodeField}
    (h : List.Forall₂ (FieldEntry given) fields values) : absentFields fields given = [] := by
  refine List.filter_eq_nil_iff.mpr fun f hf => ?_
  obtain ⟨entry, -, -, hvalue⟩ := exists_left_of_forall₂ h.flip hf
  rcases hvalue with hgiven | ⟨-, hdefault⟩
  · simp [hgiven]
  · simp [hdefault]

/-- Fields that have entries are filled with them. -/
theorem fill_of_filled {qualname : String} {fields : List NodeField}
    (h : List.Forall₂ (FieldEntry given) fields values) :
    fill qualname fields given = .ok values := by
  have hvalues : (fields.filterMap fun f =>
      ((given.lookup f.name).orElse fun _ => f.default).map fun v => (f.name, v)) = values := by
    induction h with
    | nil => rfl
    | cons hentry _ ih =>
      rw [List.filterMap_cons_some (by rw [hentry.value_eq]; rfl), ih, ← hentry.1]
  have habsent := absentFields_eq_nil h
  unfold absentFields at habsent
  unfold fill
  dsimp only
  rw [habsent, hvalues]
  rfl

/-- Each field has one entry only. -/
theorem Takes.unique {values' : List (String × Value)} (h : Takes c given values)
    (h' : Takes c given values') : values = values' := by
  have hfill : fill "" c.fields given = .ok values := fill_of_filled h.filled
  exact Except.ok.inj (hfill.symm.trans (fill_of_filled h'.filled))

theorem fill_of_missing {qualname : String} {fields : List NodeField}
    (h : absentFields fields given ≠ []) :
    fill qualname fields given
      = .error (.missingFields qualname ((absentFields fields given).map NodeField.name)) := by
  unfold absentFields at h
  unfold fill
  dsimp only
  rw [if_neg (by rwa [List.isEmpty_iff])]
  rfl

theorem Takes.isSome_lookup (h : Takes c given values) {f : NodeField} (hf : f ∈ c.fields) :
    (values.lookup f.name).isSome = true := by
  obtain ⟨entry, hentry, hname, -⟩ := exists_left_of_forall₂ h.filled.flip hf
  exact List.lookup_isSome_iff.mpr ⟨entry, hentry, by simp [hname]⟩

/-! ## Outcomes -/

/-- What is answered where a check has said this of a node. -/
def said (r : Registry) (node : Value) : Option String → Except NodeFault (Registry × Value)
  | some message => .error (.refused message)
  | none => .ok ({ r with objects := r.objects + 1 }, node)

theorem said_injective {node : Value} : Function.Injective (r.said node) := by
  intro first second h
  cases first <;> cases second <;> cases h <;> rfl

/-- Where the fields are given, the parent is checked, and then the class runs its own check. -/
theorem make_of_takes (hc : c.isResource = true) (hmet : r.unmet? c = none)
    (htakes : Takes c given values) :
    r.make c given = (r.checkParent c values).bind fun _ =>
      r.said (.node c.ref r.objects values)
        (refusalBy c.refusal (.node c.ref r.objects values)) := by
  have hcheck : r.check c values = (r.checkParent c values).bind fun _ =>
      match refusalBy c.refusal (.node c.ref r.objects values) with
      | some message => .error (.refused message)
      | none => .ok () := by
    -- the search for a class with a check ends at the resource itself
    unfold check lineage
    rw [List.find?_cons_of_pos (by simp [hc])]
    simp only [hc, if_true]
    rfl
  unfold make instantiate
  rw [resource?_of_isResource hc]
  dsimp only
  rw [hmet]
  simp only [checkNames_of_known htakes.known, fill_of_filled htakes.filled, bind, Except.bind,
    hcheck]
  cases r.checkParent c values with
  | error fault => rfl
  | ok _ => cases refusalBy c.refusal (.node c.ref r.objects values) <;> rfl

theorem checkParent_of_seated (hc : c.isResource = true) (htakes : Takes c given values)
    (hseated : r.Seated c values) : r.checkParent c values = .ok () := by
  unfold checkParent
  split
  · next outer f houter hf =>
    obtain ⟨value, hvalue⟩ :=
      Option.isSome_iff_exists.mp (htakes.isSome_lookup (parentField?_mem hc hf))
    rw [hvalue, Option.getD_some, if_pos (hseated outer f value houter hf hvalue)]
  · rfl

theorem checkParent_of_misplaced {outer : ClassRef} {f : NodeField} {value : Value}
    (houter : c.parent = some outer) (hf : r.parentField? c = some f)
    (hvalue : values.lookup f.name = some value) (hother : r.isInstance value outer = false) :
    r.checkParent c values
      = .error (.wrongParent c.ref.qualname f.name outer.qualname value.typeName) := by
  unfold checkParent
  rw [houter, hf]
  simp only [hvalue, Option.getD_some, hother]
  rfl

/-- Making a node of a resource comes to nothing but the answer with its own check. -/
theorem make_of_answer {out : Except NodeFault (Registry × Value)} (hc : c.isResource = true)
    (h : r.Answer c given c.refusal out) : r.make c given = out := by
  -- each answer says how far the construction gets
  cases h with
  | unmet hcontract =>
    unfold make instantiate
    rw [resource?_of_isResource hc, hcontract]
    rfl
  | unexpected hmet hentries hknown hunknown =>
    unfold make instantiate
    rw [resource?_of_isResource hc, hmet, hentries]
    simp only [checkNames_of_unknown hknown hunknown]
    rfl
  | missing hmet hknown habsent =>
    unfold make instantiate
    rw [resource?_of_isResource hc, hmet]
    simp only [checkNames_of_known hknown, fill_of_missing habsent]
    rfl
  | misplaced hmet htakes hchild hf hvalue hother =>
    rw [make_of_takes hc hmet htakes, checkParent_of_misplaced hchild hf hvalue hother]
    rfl
  | refused hmet htakes hseated hrefuses =>
    rw [make_of_takes hc hmet htakes, checkParent_of_seated hc htakes hseated, hrefuses]
    rfl
  | made hmet htakes hseated hpasses =>
    rw [make_of_takes hc hmet htakes, checkParent_of_seated hc htakes hseated, hpasses]
    rfl

/-- There is an answer in any case. -/
theorem exists_answer (r : Registry) (c : ClassInfo) (given : List (String × Value))
    (check : Option NodeCheck) : ∃ out, r.Answer c given check out := by
  cases hmet : r.unmet? c with
  | some verb => exact ⟨_, .unmet hmet⟩
  | none =>
    rcases known_or_unknown c given with
      hknown | ⟨before, name, value, after, hentries, hbefore, hname⟩
    · by_cases habsent : absentFields c.fields given = []
      · obtain ⟨values, hvalues⟩ := exists_filled_of_complete habsent
        have htakes : Takes c given values := ⟨hknown, hvalues⟩
        -- all that is left to check is the parent, and after it the check of the class
        by_cases hseated : r.Seated c values
        · cases hrefusal : refusalBy check (.node c.ref r.objects values) with
          | some message => exact ⟨_, .refused hmet htakes hseated hrefusal⟩
          | none => exact ⟨_, .made hmet htakes hseated hrefusal⟩
        · unfold Seated at hseated
          push Not at hseated
          obtain ⟨outer, f, value, hchild, hf, hvalue, hother⟩ := hseated
          exact ⟨_, .misplaced hmet htakes hchild hf hvalue (Bool.eq_false_iff.mpr hother)⟩
      · exact ⟨_, .missing hmet hknown habsent⟩
    · exact ⟨_, .unexpected hmet hentries hbefore hname⟩

/-- **What making a node of a resource comes to.** -/
theorem make_eq_iff (hc : c.isResource = true) {out : Except NodeFault (Registry × Value)} :
    r.make c given = out ↔ r.Answer c given c.refusal out := by
  refine ⟨?_, make_of_answer hc⟩
  rintro rfl
  obtain ⟨out, hout⟩ := exists_answer r c given c.refusal
  rwa [make_of_answer hc hout]

/-- Checks that say the same of a node that gets as far as that have the same answers. -/
theorem Answer.congr {check check' : Option NodeCheck} {out : Except NodeFault (Registry × Value)}
    (h : r.Answer c given check out)
    (hsame : ∀ values, r.unmet? c = none → Takes c given values → r.Seated c values →
      refusalBy check (.node c.ref r.objects values)
        = refusalBy check' (.node c.ref r.objects values)) : r.Answer c given check' out := by
  cases h with
  | unmet hcontract => exact .unmet hcontract
  | unexpected hmet hentries hknown hunknown => exact .unexpected hmet hentries hknown hunknown
  | missing hmet hknown habsent => exact .missing hmet hknown habsent
  | misplaced hmet htakes hchild hf hvalue hother =>
    exact .misplaced hmet htakes hchild hf hvalue hother
  | refused hmet htakes hseated hrefuses =>
    exact .refused hmet htakes hseated (hsame _ hmet htakes hseated ▸ hrefuses)
  | made hmet htakes hseated hpasses =>
    exact .made hmet htakes hseated (hsame _ hmet htakes hseated ▸ hpasses)

/-- Of a node that gets as far as that, the answer is what the check says. -/
theorem Answer.eq_said {check : Option NodeCheck} {out : Except NodeFault (Registry × Value)}
    (h : r.Answer c given check out) (hmet : r.unmet? c = none) (htakes : Takes c given values)
    (hseated : r.Seated c values) :
    out = r.said (.node c.ref r.objects values)
      (refusalBy check (.node c.ref r.objects values)) := by
  -- of the other answers, each is at odds with one of the three conditions
  cases h with
  | unmet hcontract =>
    rw [hmet] at hcontract
    cases hcontract
  | unexpected _ hentries _ hunknown =>
    exact absurd (htakes.known _ (hentries ▸ List.mem_append_cons_self)) hunknown
  | missing _ _ habsent =>
    have hfill : fill "" c.fields given = .ok values := fill_of_filled htakes.filled
    cases hfill.symm.trans (fill_of_missing habsent)
  | misplaced _ htakes' hchild hf hvalue hother =>
    obtain rfl := htakes.unique htakes'
    rw [hseated _ _ _ hchild hf hvalue] at hother
    cases hother
  | refused _ htakes' _ hrefuses =>
    obtain rfl := htakes.unique htakes'
    rw [hrefuses]
    rfl
  | made _ htakes' _ hpasses =>
    obtain rfl := htakes.unique htakes'
    rw [hpasses]
    rfl

/-- **The answer with one check is that with another one** exactly if they say the same of a node
    that gets as far as that. -/
theorem answer_iff {check check' : Option NodeCheck} {out : Except NodeFault (Registry × Value)}
    (h : r.Answer c given check out) :
    r.Answer c given check' out ↔
      ∀ values, r.unmet? c = none → Takes c given values → r.Seated c values →
        refusalBy check (.node c.ref r.objects values)
          = refusalBy check' (.node c.ref r.objects values) := by
  refine ⟨fun h' values hmet htakes hseated => ?_, h.congr⟩
  exact said_injective ((h.eq_said hmet htakes hseated).symm.trans (h'.eq_said hmet htakes hseated))

/-! ## Method resolution -/

/-- The check of a class comes before those of the classes it extends. -/
theorem nearestCheck?_of_isSome (h : c.refusal.isSome = true) : r.nearestCheck? c = c.refusal := by
  obtain ⟨check, hcheck⟩ := Option.isSome_iff_exists.mp h
  unfold nearestCheck? lineage
  rw [List.findSome?_cons, hcheck]

theorem nearestCheck?_of_alone (h : c.ancestors = []) : r.nearestCheck? c = c.refusal := by
  unfold nearestCheck? lineage
  rw [h]
  cases hcheck : c.refusal <;> simp [hcheck]

/-- Without a check of its own, a class has that of the class it extends. -/
theorem nearestCheck?_of_extends {b : ClassInfo} (hb : r.info? b.ref.serial = some b)
    (h : c.ancestors = b.ref.serial :: b.ancestors) :
    r.nearestCheck? c = c.refusal.or (r.nearestCheck? b) := by
  have hlineage : r.lineage c = c :: r.lineage b := by
    unfold lineage
    rw [h, List.filterMap_cons_some hb]
  unfold nearestCheck?
  rw [hlineage, List.findSome?_cons]
  cases c.refusal <;> rfl

/-- **A resource that checks itself is checked as by method resolution.** One that does not is
    checked so only where the check it inherits has nothing against the node. -/
theorem answer_nearest_iff (hc : c.isResource = true) :
    r.Answer c given (r.nearestCheck? c) (r.make c given) ↔
      c.refusal.isSome = true ∨ ∀ values, r.unmet? c = none → Takes c given values →
        r.Seated c values →
        refusalBy (r.nearestCheck? c) (.node c.ref r.objects values) = none := by
  rw [answer_iff ((make_eq_iff hc).mp rfl)]
  cases hown : c.refusal with
  | none => simp [refusalBy, eq_comm]
  | some check => simp [nearestCheck?_of_isSome, hown]

end Registry

open Registry

section

variable {ε φ : Type} {evaluate : ε → StateT Registry (Except φ) Value}
  {fault : DefinitionFault → φ} {module : String} {r r' : Registry} {c : ClassInfo}

/-- A class that has been defined has the check of its definition. If it extends another one, it
    was there before, and is followed by those which that one extends. -/
theorem define_refusal (hevaluate : ∀ e r v r', evaluate e r = .ok (v, r') → r.Keeps r')
    (hsound : r.Sound) {outer base segment : Option String} {name : String}
    {refusal : Option NodeCheck} {members : List (Member ε)}
    (h : define evaluate fault module outer (.mk name base segment refusal members) r
      = .ok (c, r')) :
    c.segment = segment ∧ c.refusal = refusal ∧
      (∃ parent, r'.info? c.ref.serial = some { c with parent }) ∧
      (base = none → c.ancestors = []) ∧
      ∀ n, base = some n → ∃ b : ClassInfo, b.ref.qualname = n ∧
        c.ancestors = b.ref.serial :: b.ancestors ∧
        ∃ parent, r'.info? b.ref.serial = some { b with parent } := by
  rw [define] at h
  obtain ⟨body, r₁, hbody, hlater⟩ := run_bind_eq_ok h
  obtain ⟨found, r₂, hfound, hsettle⟩ := run_bind_eq_ok hlater
  have hread := (keeps_defineMembers hevaluate members hbody).sound hsound
  obtain ⟨k, hdraft, rfl, hadded⟩ := settle_eq_ok hsettle
  -- since the class was added, classes have been adopted at most
  have hgrows : (r₂.add k).1.Grows r' := by
    rcases hadded with ⟨-, rfl⟩ | ⟨-, hadopt⟩
    · exact grows_of_classes_eq rfl
    · exact (keeps_adopt hadopt).grows
  refine ⟨hdraft.segment, hdraft.refusal, hgrows _ _ (info?_add _ _), ?_, ?_⟩
  · rintro rfl
    cases hfound
    exact hdraft.ancestors
  · rintro n rfl
    unfold baseOf at hfound
    dsimp only at hfound
    split at hfound
    · next b hnamed =>
      cases hfound
      have hmem := List.mem_of_find?_eq_some hnamed
      obtain ⟨serial, hserial⟩ := List.mem_iff_getElem?.mp (List.mem_reverse.mp hmem)
      obtain rfl := hread.own serial b hserial
      exact ⟨b, by simpa using List.find?_some hnamed, hdraft.ancestors,
        ((grows_add _ k).trans hgrows) _ _ hserial⟩
    · cases hfound

/-- **What comes of making a node of a resource**, once it has been defined and whatever has been
    defined and made since. Its own check runs, after the one of the parent; that of the nearest
    class that has one would run by method resolution. So the answer is as by method resolution
    exactly if the class has a check itself, or if the one it inherits lets the node pass. -/
theorem resource_answers (hevaluate : ∀ e r v r', evaluate e r = .ok (v, r') → r.Keeps r')
    (hsound : r.Sound) {outer base : Option String} {name segment : String}
    {refusal : Option NodeCheck} {members : List (Member ε)}
    (hdefined : define evaluate fault module outer (.mk name base (some segment) refusal members) r
      = .ok (c, r'))
    {now : Registry} (hsince : r'.Grows now) :
    ∃ k, now.info? c.ref.serial = some k ∧
      (base = none → now.nearestCheck? k = refusal) ∧
      (∀ n, base = some n → ∃ b : ClassInfo, now.info? b.ref.serial = some b ∧ b.ref.qualname = n ∧
        now.nearestCheck? k = refusal.or (now.nearestCheck? b)) ∧
      ∀ given,
        (∀ out, now.make k given = out ↔ now.Answer k given refusal out) ∧
        (now.Answer k given (now.nearestCheck? k) (now.make k given) ↔
          refusal.isSome = true ∨ ∀ values, now.unmet? k = none → Takes k given values →
            now.Seated k values →
            refusalBy (now.nearestCheck? k) (.node k.ref now.objects values) = none) := by
  obtain ⟨hsegment, rfl, ⟨parent, hthere⟩, halone, hextends⟩ :=
    define_refusal hevaluate hsound hdefined
  -- what has been defined since may have changed its parent, and nothing else
  obtain ⟨parent', hnow⟩ := hsince _ _ hthere
  have hresource : ClassInfo.isResource { c with parent := parent' } = true := by
    unfold ClassInfo.isResource
    rw [hsegment]
    rfl
  refine ⟨_, hnow, fun hbase => ?_, fun n hbase => ?_, fun given => ⟨fun out => ?_, ?_⟩⟩
  · exact nearestCheck?_of_alone (halone hbase)
  · obtain ⟨b, hn, hancestors, above, hb⟩ := hextends n hbase
    obtain ⟨above', hb'⟩ := hsince _ _ hb
    exact ⟨{ b with parent := above' }, hb', hn, nearestCheck?_of_extends hb' hancestors⟩
  · exact make_eq_iff hresource
  · exact answer_nearest_iff hresource

end

/-! ## Counters and desks -/

namespace Sample

/-- An office that is closed: nothing can be made of it. -/
def office : ClassInfo :=
  { ref := ⟨0, "app.api", "Office", "type"⟩, refusal := some fun _ => some "closed" }

/-- A desk has a check of its own. -/
def deskDefinition : Definition Value :=
  .mk "Desk" (some "Office") (some "desk") (some fun _ => some "taken") []

def desk : ClassInfo :=
  { ref := ⟨1, "app.api", "Desk", "type"⟩, ancestors := [0], segment := some "desk"
    refusal := some fun _ => some "taken" }

/-- A counter has none. -/
def counterDefinition : Definition Value :=
  .mk "Counter" (some "Office") (some "counter") none []

def counter : ClassInfo :=
  { ref := ⟨1, "app.api", "Counter", "type"⟩, ancestors := [0], segment := some "counter" }

def withDesk : Registry :=
  { classes := [office, desk] }

def withCounter : Registry :=
  { classes := [office, counter] }

/-- Defines a class, where values stand for themselves. -/
def defineHere (d : Definition Value) (classes : List ClassInfo) :
    Except DefinitionFault (ClassInfo × Registry) :=
  define (fun v r => .ok (v, r)) id "app.api" none d { classes }

theorem define_desk :
    defineHere deskDefinition [office] = .ok (desk, withDesk) := rfl

theorem define_counter :
    defineHere counterDefinition [office] = .ok (counter, withCounter) := rfl

end Sample

open Api.Sample in
/-- A desk in a closed office is not refused for being closed, but for being taken. -/
theorem resource_answers_sample :
    defineHere deskDefinition [office] = .ok (desk, withDesk) ∧
    ∃ k, withDesk.info? 1 = some k ∧
      withDesk.make k [] = .error (.refused "taken") ∧
      withDesk.Answer k [] (withDesk.nearestCheck? k) (.error (.refused "taken")) := by
  have hsound : ({ classes := [office] } : Registry).Sound :=
    sound_of_places (by simp [office])
  have hevaluate : ∀ (e : Value) (r : Registry) v r',
      (Except.ok (e, r) : Except DefinitionFault _) = .ok (v, r') → r.Keeps r' := by
    rintro e r v r' h
    cases h
    exact keeps_refl r
  obtain ⟨k, hk, -, -, hanswers⟩ :=
    resource_answers hevaluate hsound define_desk (grows_of_classes_eq rfl)
  obtain ⟨hmake, hnearest⟩ := hanswers []
  obtain rfl : desk = k := Option.some.inj hk
  -- the inherited check is the nearest one, and it refuses
  have htaken : withDesk.make desk [] = .error (.refused "taken") := by
    refine (hmake _).mpr (.refused rfl ⟨fun _ h => absurd h List.not_mem_nil, .nil⟩ ?_ rfl)
    intro outer f value houter
    cases houter
  rw [htaken] at hnearest
  exact ⟨define_desk, desk, hk, htaken, hnearest.mpr (.inl rfl)⟩

open Api.Sample in
/-- A counter in a closed office is made, though the check that it inherits refuses it. -/
theorem Sample.counter_made_though_closed :
    defineHere counterDefinition [office] = .ok (counter, withCounter) ∧
    withCounter.make counter []
      = .ok ({ withCounter with objects := 1 }, .node counter.ref 0 []) ∧
    refusalBy (withCounter.nearestCheck? counter) (.node counter.ref 0 []) = some "closed" ∧
    ¬ withCounter.Answer counter [] (withCounter.nearestCheck? counter)
        (withCounter.make counter []) := by
  have hrefusal : refusalBy (withCounter.nearestCheck? counter) (.node counter.ref 0 [])
      = some "closed" := rfl
  refine ⟨define_counter, rfl, hrefusal, fun hanswer => ?_⟩
  have hseated : withCounter.Seated counter [] := by
    intro outer f value houter
    cases houter
  have hpasses := ((answer_nearest_iff rfl).mp hanswer).resolve_left (by decide) [] rfl
    ⟨fun _ h => absurd h List.not_mem_nil, .nil⟩ hseated
  cases hrefusal.symm.trans hpasses

end Waymark.Api

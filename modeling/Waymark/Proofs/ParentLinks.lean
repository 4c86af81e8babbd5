import Mathlib
import Waymark.Proofs.NodeChecks

/-! # Parents and children

    A resource encloses the classes among its attributes. Those that are resources are its
    children, and when it is defined it becomes their parent. The child keeps the parent, the
    parent does not keep the child: a class can be an attribute of several others, and the last
    one is its parent.

    * Whatever is defined, one class is added after the other (`Registry.Step`). What one step
      keeps (`Linked.step`) therefore holds of every registry that definitions lead to
      (`History.linked`).
    * A class that has a parent is enclosed by it, and a resource that is enclosed has a parent
      that is no older than what encloses it (`Registry.Linked`).

    The main result is `parent_is_last`: what the parent of a class is after any sequence of
    definitions, when later ones change it, and over which nodes instances of the class can be
    made.
-/

namespace Waymark.Api

/-- The class with the number is among the attributes of this one. Names that start with two
    underscores do not count. -/
def ClassInfo.Encloses (p : ClassInfo) (serial : Nat) : Prop :=
  ∃ name ref, (name, Attribute.value (.cls ref)) ∈ p.attributes ∧ name.startsWith "__" = false ∧
    ref.serial = serial

namespace Registry

/-- The class is there. -/
def Has (r : Registry) (c : ClassInfo) : Prop :=
  r.info? c.ref.serial = some c

/-- The class is there, and is a resource. -/
def HasResource (r : Registry) (c : ClassInfo) : Prop :=
  r.Has c ∧ c.isResource = true

/-- All classes among the attributes are there. -/
def Knows (r : Registry) (attributes : List (String × Attribute)) : Prop :=
  ∀ name ref, (name, .value (.cls ref)) ∈ attributes → (r.info? ref.serial).isSome = true

/-- The class can be added: what it extends and what it encloses is there, and it has no parent
    yet. -/
structure Fits (r : Registry) (c : ClassInfo) : Prop where
  above : ∀ a ∈ c.ancestors, (r.info? a).isSome = true
  known : r.Knows c.attributes
  free : c.parent = none

/-- One class is added, or none. A resource adopts its children. -/
inductive Step (r : Registry) : Registry → Prop
  | same {r' : Registry} (classes : r'.classes = r.classes) : Step r r'
  | plain {c : ClassInfo} (fits : r.Fits c) (plain : c.isResource = false) : Step r (r.add c).1
  | resource {c : ClassInfo} {r' : Registry} (fits : r.Fits c) (resource : c.isResource = true)
    (adopts : (r.add c).1.adopt (r.add c).2 ((r.add c).1.children (r.add c).2) = .ok r') : Step r r'

/-- Several steps, one after the other. -/
abbrev Steps : Registry → Registry → Prop :=
  Relation.ReflTransGen Step

variable {r r' : Registry} {c p outer : ClassInfo} {serial : Nat}

/-! ## Children -/

theorem mem_children_iff :
    c ∈ r.children p ↔
      c.isResource = true ∧ ∃ serial, p.Encloses serial ∧ r.info? serial = some c := by
  unfold children nestedClasses
  rw [List.mem_filter, and_comm, List.mem_filterMap]
  refine and_congr_right fun _ => ⟨?_, ?_⟩
  · rintro ⟨⟨name, a⟩, hentry, hfound⟩
    dsimp only at hfound
    split at hfound
    · next ref =>
      split at hfound
      · cases hfound
      · next hshown => exact ⟨_, ⟨name, ref, hentry, by simpa using hshown, rfl⟩, hfound⟩
    · cases hfound
  · rintro ⟨_, ⟨name, ref, hentry, hshown, rfl⟩, hfound⟩
    exact ⟨(name, .value (.cls ref)), hentry, by simpa [hshown] using hfound⟩

/-- What is enclosed by a class that fits is there already. -/
theorem Fits.lt_of_encloses (h : r.Fits c) (hencloses : c.Encloses serial) :
    serial < r.classes.length := by
  obtain ⟨name, ref, hentry, -, rfl⟩ := hencloses
  obtain ⟨k, hk⟩ := Option.isSome_iff_exists.mp (h.known name ref hentry)
  exact (List.getElem?_eq_some_iff.mp hk).1

theorem lt_of_info? (h : r.info? serial = some c) : serial < r.classes.length :=
  (List.getElem?_eq_some_iff.mp h).1

/-- Adopted classes get a parent, and the others stay as they are. -/
theorem info?_adopt {children : List ClassInfo} (h : r.adopt outer children = .ok r')
    (serial : Nat) :
    r'.info? serial = (r.info? serial).map fun k =>
      if serial ∈ children.map (·.ref.serial) then { k with parent := some outer.ref } else k := by
  induction children generalizing r with
  | nil =>
    obtain rfl := Except.ok.inj h
    simp
  | cons child rest ih =>
    unfold adopt at h
    split at h
    · cases h
    · rw [ih h]
      unfold info? modify
      dsimp only
      rw [List.getElem?_modify, Option.map_eq_map, Option.map_map]
      refine Option.map_congr fun k _ => ?_
      by_cases hchild : child.ref.serial = serial
      · simp [hchild]
      · simp [hchild, Ne.symm hchild]

/-- Classes that are adopted have a field for the parent. -/
theorem parentField?_of_adopt {children : List ClassInfo} (h : r.adopt outer children = .ok r')
    {child : ClassInfo} (hchild : child ∈ children) (hresource : child.isResource = true) :
    (child.fields.find? NodeField.isParent).isSome = true := by
  induction children generalizing r with
  | nil => cases hchild
  | cons first rest ih =>
    unfold adopt at h
    split at h
    · cases h
    · next hfield =>
      rcases List.mem_cons.mp hchild with rfl | hchild
      · rw [parentField?_of_isResource hresource] at hfield
        simpa [← Option.isSome_iff_ne_none] using hfield
      · exact ih h hchild

/-! ## Links -/

/-- How parents and children are linked. Nothing encloses what is younger. A class that has a
    parent is a resource with a field for it, and its parent is a resource that encloses it; if
    any resource encloses it, then its parent is that one or a younger one. -/
structure Linked (r : Registry) : Prop where
  sound : r.Sound
  older : ∀ serial c, r.info? serial = some c → ∀ inner, c.Encloses inner → inner < serial
  up : ∀ serial c outer, r.info? serial = some c → c.parent = some outer →
    c.isResource = true ∧ (c.fields.find? NodeField.isParent).isSome = true ∧
      ∃ p, r.info? outer.serial = some p ∧ p.ref = outer ∧ p.isResource = true ∧ p.Encloses serial
  down : ∀ place p serial c, r.info? place = some p → p.isResource = true → p.Encloses serial →
    r.info? serial = some c → c.isResource = true → ∃ outer, c.parent = some outer ∧
      place ≤ outer.serial

theorem linked_empty : ({} : Registry).Linked where
  sound := sound_empty
  older := by
    intro serial c h
    cases h
  up := by
    intro serial c outer h
    cases h
  down := by
    intro place p serial c h
    cases h

theorem Linked.of_classes_eq (h : r.Linked) (hclasses : r'.classes = r.classes) : r'.Linked := by
  have hinfo : r'.info? = r.info? := by
    funext serial
    unfold info?
    rw [hclasses]
  refine ⟨(keeps_of_classes_eq hclasses).sound h.sound, ?_, ?_, ?_⟩
  · rw [hinfo]
    exact h.older
  · rw [hinfo]
    exact h.up
  · rw [hinfo]
    exact h.down

/-- A class that is no resource leaves all links as they are. -/
theorem Linked.add (h : r.Linked) (hfits : r.Fits c) (hplain : c.isResource = false) :
    (r.add c).1.Linked := by
  have hkeeps : r.Keeps (r.add c).1 := keeps_add fun _ => hfits.above
  refine { sound := hkeeps.sound h.sound, older := ?older, up := ?up, down := ?down }
  case older =>
    intro serial k hk inner hinner
    rcases info?_add_cases hk with hold | ⟨rfl, rfl⟩
    · exact h.older serial k hold inner hinner
    · exact hfits.lt_of_encloses hinner
  case up =>
    intro serial k outer hk houter
    rcases info?_add_cases hk with hold | ⟨rfl, rfl⟩
    · obtain ⟨hresource, hfield, p, hp, hencloses⟩ := h.up serial k outer hold houter
      obtain ⟨above, hp'⟩ := hkeeps.grows _ _ hp
      exact ⟨hresource, hfield, { p with parent := above }, hp', hencloses⟩
    · cases hfits.free.symm.trans houter
  -- the new class is no resource, so nothing is asked of its children
  case down =>
    intro place p serial k hp hresource hencloses hk hchild
    rcases info?_add_cases hp with hpold | ⟨rfl, rfl⟩
    · rcases info?_add_cases hk with hkold | ⟨rfl, rfl⟩
      · exact h.down place p serial k hpold hresource hencloses hkold hchild
      · -- an old class does not enclose the new one
        have hinner := h.older place p hpold _ hencloses
        have hplace := lt_of_info? hpold
        omega
    · cases hplain.symm.trans hresource

/-- What is found after a resource has been added and has adopted its children: a child, with the
    new class for a parent; something else, as it was before; or the new class. -/
theorem info?_resource_cases (hsound : (r.add c).1.Sound) (hfits : r.Fits c)
    (h : (r.add c).1.adopt (r.add c).2 ((r.add c).1.children (r.add c).2) = .ok r')
    {k : ClassInfo} (hk : r'.info? serial = some k) :
    (∃ k₀, r.info? serial = some k₀ ∧ k₀.isResource = true ∧ c.Encloses serial ∧
      (k₀.fields.find? NodeField.isParent).isSome = true ∧
      k = { k₀ with parent := some (r.add c).2.ref }) ∨
    (r.info? serial = some k ∧ (k.isResource = true → ¬ c.Encloses serial)) ∨
    (serial = r.classes.length ∧ k = (r.add c).2) := by
  rw [info?_adopt h] at hk
  obtain ⟨k₀, hk₀, hk⟩ := Option.map_eq_some_iff.mp hk
  split at hk
  · next hchild =>
    -- a child is found where it was enclosed
    obtain ⟨child, hmem, rfl⟩ := List.mem_map.mp hchild
    obtain ⟨hresource, inner, hencloses, hinner⟩ := mem_children_iff.mp hmem
    obtain rfl := hsound.own inner child hinner
    obtain rfl := Option.some.inj (hinner.symm.trans hk₀)
    have hlt : child.ref.serial < r.classes.length := hfits.lt_of_encloses hencloses
    rcases info?_add_cases hk₀ with hold | ⟨heq, -⟩
    · have hfield := parentField?_of_adopt h hmem hresource
      exact .inl ⟨child, hold, hresource, hencloses, hfield, hk.symm⟩
    · omega
  · next hother =>
    subst hk
    rcases info?_add_cases hk₀ with hold | hnew
    · refine .inr (.inl ⟨hold, fun hresource hencloses => hother ?_⟩)
      refine List.mem_map.mpr ⟨k₀, mem_children_iff.mpr ⟨hresource, serial, hencloses, hk₀⟩, ?_⟩
      exact hsound.own serial k₀ hk₀
    · exact .inr (.inr hnew)

/-- So what is found is an old class, but for the parent, or the new one. -/
theorem info?_resource_old (hsound : (r.add c).1.Sound) (hfits : r.Fits c)
    (h : (r.add c).1.adopt (r.add c).2 ((r.add c).1.children (r.add c).2) = .ok r')
    {k : ClassInfo} (hk : r'.info? serial = some k) :
    (∃ k₀ parent, r.info? serial = some k₀ ∧ k = { k₀ with parent }) ∨
      (serial = r.classes.length ∧ k = (r.add c).2) := by
  rcases info?_resource_cases hsound hfits h hk with ⟨k₀, hold, -, -, -, rfl⟩ | ⟨hold, -⟩ | hnew
  · exact .inl ⟨k₀, _, hold, rfl⟩
  · exact .inl ⟨k, k.parent, hold, rfl⟩
  · exact .inr hnew

/-- A resource becomes the parent of what it encloses, and all other links stay. -/
theorem Linked.resource (h : r.Linked) (hfits : r.Fits c) (hresource : c.isResource = true)
    (hadopt : (r.add c).1.adopt (r.add c).2 ((r.add c).1.children (r.add c).2) = .ok r') :
    r'.Linked := by
  have hkeeps : r.Keeps (r.add c).1 := keeps_add fun _ => hfits.above
  have hsound := hkeeps.sound h.sound
  have hgrows := hkeeps.grows.trans (keeps_adopt hadopt).grows
  have hcases := fun {place : Nat} {k : ClassInfo} (hk : r'.info? place = some k) =>
    info?_resource_cases hsound hfits hadopt hk
  have holds := fun {place : Nat} {k : ClassInfo} (hk : r'.info? place = some k) =>
    info?_resource_old hsound hfits hadopt hk
  have hnew : r'.info? r.classes.length = some (r.add c).2 := by
    obtain ⟨above, hnew⟩ := (keeps_adopt hadopt).grows _ _ (info?_add r c)
    rcases holds hnew with ⟨k₀, _, hold, -⟩ | ⟨-, heq⟩
    · exact absurd (lt_of_info? hold) (Nat.lt_irrefl _)
    · rw [← heq]
      exact hnew
  refine { sound := (keeps_adopt hadopt).sound hsound, older := ?older, up := ?up, down := ?down }
  case older =>
    intro serial k hk inner hinner
    rcases holds hk with ⟨k₀, _, hold, rfl⟩ | ⟨rfl, rfl⟩
    · exact h.older serial k₀ hold inner hinner
    · exact hfits.lt_of_encloses hinner
  case up =>
    intro serial k outer hk houter
    rcases hcases hk with ⟨k₀, hold, hchild, hencloses, hfield, rfl⟩ | ⟨hold, -⟩ | ⟨rfl, rfl⟩
    · -- adopted: the parent is the new class
      obtain rfl := Option.some.inj houter
      exact ⟨hchild, hfield, (r.add c).2, hnew, rfl, hresource, hencloses⟩
    · obtain ⟨hchild, hfield, p, hp, hencloses⟩ := h.up serial k outer hold houter
      obtain ⟨above, hp'⟩ := hgrows _ _ hp
      exact ⟨hchild, hfield, { p with parent := above }, hp', hencloses⟩
    · cases hfits.free.symm.trans houter
  case down =>
    intro place p serial k hp hpresource hencloses hk hchild
    -- nothing is younger than the new class
    have hplace : place ≤ r.classes.length := by
      rcases holds hp with ⟨p₀, _, hold, -⟩ | ⟨rfl, -⟩
      · exact (lt_of_info? hold).le
      · exact le_rfl
    rcases hcases hk with ⟨k₀, -, -, -, -, rfl⟩ | ⟨hkold, hother⟩ | ⟨rfl, rfl⟩
    · exact ⟨(r.add c).2.ref, rfl, hplace⟩
    · rcases holds hp with ⟨p₀, _, hpold, rfl⟩ | ⟨rfl, rfl⟩
      · exact h.down place p₀ serial k hpold hpresource hencloses hkold hchild
      · exact absurd hencloses (hother hchild)
    · -- the new class is younger than all that is enclosed
      have hinner : r.classes.length < place := by
        rcases holds hp with ⟨p₀, _, hpold, rfl⟩ | ⟨rfl, rfl⟩
        · exact h.older place p₀ hpold _ hencloses
        · exact hfits.lt_of_encloses hencloses
      omega

/-- **One step keeps the links.** -/
theorem Linked.step (h : r.Linked) (hstep : Step r r') : r'.Linked := by
  cases hstep with
  | same hclasses => exact h.of_classes_eq hclasses
  | plain hfits hplain => exact h.add hfits hplain
  | resource hfits hresource hadopt => exact h.resource hfits hresource hadopt

theorem Linked.steps (h : r.Linked) (hsteps : Steps r r') : r'.Linked := by
  induction hsteps with
  | refl => exact h
  | tail _ hstep ih => exact ih.step hstep

theorem Step.grows (h : Step r r') : r.Grows r' := by
  cases h with
  | same hclasses => exact grows_of_classes_eq hclasses
  | plain _ _ => exact grows_add _ _
  | resource _ _ hadopt => exact (grows_add _ _).trans (keeps_adopt hadopt).grows

theorem grows_of_steps (h : Steps r r') : r.Grows r' := by
  induction h with
  | refl => exact grows_of_classes_eq rfl
  | tail _ hstep ih => exact ih.trans hstep.grows

theorem Linked.mem_children_iff (h : r.Linked) (hc : r.Has c) :
    c ∈ r.children p ↔ c.isResource = true ∧ p.Encloses c.ref.serial := by
  rw [Registry.mem_children_iff]
  refine and_congr_right fun _ => ⟨?_, fun hencloses => ⟨_, hencloses, hc⟩⟩
  rintro ⟨serial, hencloses, hserial⟩
  obtain rfl := h.sound.own serial c hserial
  exact hencloses

/-- **The parent of a class is the last resource that encloses it.** -/
theorem Linked.parent_iff (h : r.Linked) (hp : r.HasResource p) (hc : r.Has c) :
    c.parent = some p.ref ↔
      c ∈ r.children p ∧ ∀ q, r.HasResource q → c ∈ r.children q → q.ref.serial ≤ p.ref.serial := by
  constructor
  · intro hparent
    -- the parent encloses the class, and whatever else does is not younger
    obtain ⟨hchild, -, p', hp', -, -, hencloses⟩ := h.up _ c p.ref hc hparent
    obtain rfl := Option.some.inj (hp'.symm.trans hp.1)
    refine ⟨(h.mem_children_iff hc).mpr ⟨hchild, hencloses⟩, fun q hq hmem => ?_⟩
    obtain ⟨outer, houter, hle⟩ :=
      h.down _ q _ c hq.1 hq.2 ((h.mem_children_iff hc).mp hmem).2 hc hchild
    obtain rfl := Option.some.inj (houter.symm.trans hparent)
    exact hle
  · rintro ⟨hmem, hlast⟩
    obtain ⟨hchild, hencloses⟩ := (h.mem_children_iff hc).mp hmem
    obtain ⟨outer, houter, hle⟩ := h.down _ p _ c hp.1 hp.2 hencloses hc hchild
    obtain ⟨-, -, q, hq, rfl, hresource, hq'⟩ := h.up _ c outer hc houter
    have hge := hlast q ⟨hq, hresource⟩ ((h.mem_children_iff hc).mpr ⟨hchild, hq'⟩)
    -- neither is younger than the other, so the two have the same number
    have hsame := hp.1
    unfold Has at hsame
    rw [Nat.le_antisymm hle hge] at hsame
    rw [houter, Option.some.inj (hsame.symm.trans hq)]

/-- Parents and children agree exactly where no class is the child of two resources. -/
theorem Linked.agree_iff (h : r.Linked) :
    (∀ p c, r.HasResource p → r.Has c → (c ∈ r.children p ↔ c.parent = some p.ref)) ↔
      ∀ p q c, r.HasResource p → r.HasResource q → c ∈ r.children p → c ∈ r.children q → p = q := by
  constructor
  · intro hagree p q c hp hq hmem hmem'
    obtain ⟨-, serial, -, hserial⟩ := Registry.mem_children_iff.mp hmem
    obtain rfl := h.sound.own serial c hserial
    have hparent := (hagree p c hp hserial).mp hmem
    have hparent' := (hagree q c hq hserial).mp hmem'
    have hsame := hp.1
    unfold Has at hsame
    rw [Option.some.inj (hparent.symm.trans hparent'), hq.1] at hsame
    exact (Option.some.inj hsame).symm
  · intro hunique p c hp hc
    -- the parent is the last one that has it as a child, so it is the only one
    rw [h.parent_iff hp hc]
    refine ⟨fun hmem => ⟨hmem, fun q hq hmem' => ?_⟩, And.left⟩
    rw [hunique p q c hp hq hmem hmem']

/-- A class that has a parent never goes without one, nor back to an older one. -/
theorem Linked.parent_grows (h : r.Linked) (h' : r'.Linked) (hgrows : r.Grows r') (hc : r.Has c)
    {parent : Option ClassRef} (hlater : r'.info? c.ref.serial = some { c with parent })
    {before : ClassRef} (hbefore : c.parent = some before) :
    ∃ after, parent = some after ∧ before.serial ≤ after.serial := by
  obtain ⟨hchild, -, p, hp, -, hresource, hencloses⟩ := h.up _ c before hc hbefore
  obtain ⟨above, hp'⟩ := hgrows _ _ hp
  exact h'.down _ _ _ _ hp' hresource hencloses hlater hchild

/-- **The parent of a class changes exactly if a new resource encloses the class.** -/
theorem Linked.changed_iff (h : r.Linked) (h' : r'.Linked) (hgrows : r.Grows r') (hc : r.Has c)
    {c' : ClassInfo} (hc' : r'.info? c.ref.serial = some c') :
    c'.parent ≠ c.parent ↔
      ∃ q, r'.HasResource q ∧ r.classes.length ≤ q.ref.serial ∧ c' ∈ r'.children q := by
  obtain ⟨parent, hlater⟩ := hgrows _ _ hc
  obtain rfl : { c with parent } = c' := Option.some.inj (hlater.symm.trans hc')
  show parent ≠ c.parent ↔ _
  constructor
  · intro hchanged
    cases parent with
    | none =>
      cases hbefore : c.parent with
      | none => exact absurd hbefore.symm hchanged
      | some before =>
        obtain ⟨_, hnone, -⟩ := h.parent_grows h' hgrows hc hlater hbefore
        cases hnone
    | some after =>
      obtain ⟨hchild, -, q, hq, rfl, hresource, hencloses⟩ := h'.up _ _ after hlater rfl
      refine ⟨q, ⟨hq, hresource⟩, ?_, Registry.mem_children_iff.mpr ⟨hchild, _, hencloses, hlater⟩⟩
      by_contra hold
      -- if it is an old one, it is the parent that there was
      obtain ⟨q₀, hq₀⟩ : ∃ q₀, r.info? q.ref.serial = some q₀ :=
        ⟨_, List.getElem?_eq_getElem (Nat.lt_of_not_le hold)⟩
      obtain ⟨above, hq'⟩ := hgrows _ _ hq₀
      obtain rfl : { q₀ with parent := above } = q := Option.some.inj (hq'.symm.trans hq)
      obtain ⟨before, hbefore, hle⟩ := h.down _ q₀ _ c hq₀ hresource hencloses hc hchild
      obtain ⟨_, hsame, hge⟩ := h.parent_grows h' hgrows hc hlater hbefore
      cases hsame
      obtain ⟨-, -, p, hp, rfl, -⟩ := h.up _ c before hc hbefore
      rw [← Nat.le_antisymm hle hge, hq₀] at hp
      exact hchanged (by rw [hbefore, ← Option.some.inj hp])
  · rintro ⟨q, hq, hnew, hmem⟩ hsame
    -- its parent is now at least as young as the new resource, and cannot have been there
    obtain ⟨hchild, serial, hencloses, hserial⟩ := Registry.mem_children_iff.mp hmem
    obtain rfl := h'.sound.own serial _ hserial
    obtain ⟨outer, houter, hle⟩ := h'.down _ q _ _ hq.1 hq.2 hencloses hserial hchild
    obtain ⟨-, -, p, hp, -⟩ := h.up _ c outer hc (hsame ▸ houter)
    have hlt := lt_of_info? hp
    omega

/-- Over which nodes instances of a class with a parent can be made. -/
theorem Linked.make_iff (h : r.Linked) (hc : r.Has c) {outer : ClassRef}
    (houter : c.parent = some outer) :
    ∃ f, r.parentField? c = some f ∧ ∀ given values u, r.unmet? c = none → Takes c given values →
      values.lookup f.name = some u → refusalBy c.refusal (.node c.ref r.objects values) = none →
      ((∃ made, r.make c given = .ok made) ↔ r.isInstance u outer = true) := by
  obtain ⟨hresource, hfield, -⟩ := h.up _ c outer hc houter
  obtain ⟨f, hf⟩ := Option.isSome_iff_exists.mp hfield
  rw [← parentField?_of_isResource (r := r) hresource] at hf
  refine ⟨f, hf, fun given values u hmet htakes hu hpasses => ⟨?_, fun hinstance => ?_⟩⟩
  · rintro ⟨made, hmade⟩
    -- the parent is checked before anything else can be refused
    by_contra hother
    rw [make_of_takes hresource hmet htakes,
      checkParent_of_misplaced houter hf hu (Bool.eq_false_iff.mpr hother)] at hmade
    cases hmade
  · have hseated : r.Seated c values := by
      intro outer' f' value houter' hf' hvalue
      obtain rfl := Option.some.inj (houter.symm.trans houter')
      obtain rfl := Option.some.inj (hf.symm.trans hf')
      obtain rfl := Option.some.inj (hu.symm.trans hvalue)
      exact hinstance
    exact ⟨_, make_of_answer hresource (.made hmet htakes hseated hpasses)⟩

end Registry

open Registry

/-! ## Sequences of definitions -/

section

variable {ε φ : Type}

/-- Expressions that add classes, if they change anything. A class that they give is there. -/
def Lawful (evaluate : ε → StateT Registry (Except φ) Value) : Prop :=
  ∀ e r v r', Steps {} r → evaluate e r = .ok (v, r') →
    Steps r r' ∧ ∀ ref, v = .cls ref → (r'.info? ref.serial).isSome = true

/-- Classes are defined and instances are made, one after the other. -/
inductive History (evaluate : ε → StateT Registry (Except φ) Value) (fault : DefinitionFault → φ)
    (module : String) (r : Registry) : Registry → Prop
  | start : History evaluate fault module r r
  | define {r₁ r₂ : Registry} {d : Definition ε} {c : ClassInfo}
    (before : History evaluate fault module r r₁)
    (done : Api.define evaluate fault module none d r₁ = .ok (c, r₂)) :
    History evaluate fault module r r₂
  | make {r₁ r₂ : Registry} {c : ClassInfo} {given : List (String × Value)} {v : Value}
    (before : History evaluate fault module r r₁) (done : r₁.make c given = .ok (r₂, v)) :
    History evaluate fault module r r₂

variable {evaluate : ε → StateT Registry (Except φ) Value} {fault : DefinitionFault → φ}
  {module : String} {r r' : Registry} {b : Body}

theorem mem_putMember {α : Type} {name other : String} {a a' : α} {entries : List (String × α)}
    (h : (other, a') ∈ Wire.putMember name a entries) : (other, a') ∈ entries ∨ a' = a := by
  induction entries with
  | nil =>
    cases List.mem_singleton.mp h
    exact .inr rfl
  | cons entry rest ih =>
    unfold Wire.putMember at h
    split at h
    · rcases List.mem_cons.mp h with heq | h
      · cases heq
        exact .inr rfl
      · exact .inl (List.mem_cons_of_mem _ h)
    · rcases List.mem_cons.mp h with heq | h
      · exact .inl (heq ▸ List.mem_cons_self)
      · exact (ih h).imp_left (List.mem_cons_of_mem _)

theorem Registry.Knows.set (h : r.Knows b.attributes) (name : String) {a : Attribute}
    (ha : ∀ ref, a = .value (.cls ref) → (r.info? ref.serial).isSome = true) :
    r.Knows (b.set name a).attributes := by
  intro other ref hmem
  rcases mem_putMember hmem with hmem | heq
  · exact h other ref hmem
  · exact ha ref heq.symm

/-- A class that is settled is added by one step. -/
theorem step_of_settle {qualname : String} {base : Option ClassInfo} {segment : Option String}
    {refusal : Option NodeCheck} {c : ClassInfo} (hsound : r.Sound) (hknown : r.Knows b.attributes)
    (hbase : ∀ k, base = some k → ∃ n, r.named? n = some k)
    (h : settle fault module qualname base segment refusal b r = .ok (c, r')) :
    Step r r' ∧ (r'.info? c.ref.serial).isSome = true := by
  obtain ⟨k, hdraft, rfl, hadded⟩ := settle_eq_ok h
  -- what the class refers to was there before it
  have hfits : r.Fits k := by
    refine ⟨fun a ha => ?_, fun name ref hmem => hknown name ref (hdraft.attributes _ hmem),
      hdraft.parent⟩
    rw [hdraft.ancestors] at ha
    cases base with
    | none => cases ha
    | some found =>
      obtain ⟨n, hn⟩ := hbase found rfl
      exact isSome_info?_of_named? hsound hn a ha
  have hthere : ((r.add k).1.info? (r.add k).2.ref.serial).isSome = true := by
    rw [info?_add]
    rfl
  rcases hadded with ⟨hplain, rfl⟩ | ⟨hresource, hadopt⟩
  · exact ⟨.plain hfits hplain, hthere⟩
  · exact ⟨.resource hfits hresource hadopt, (keeps_adopt hadopt).grows.isSome_info? hthere⟩

/-- Definitions add one class after the other, and bodies hold no classes but such as are there. -/
theorem steps_rule (hevaluate : Lawful evaluate) :
    DefinitionRule evaluate fault module Steps fun r b => Steps {} r ∧ r.Knows b.attributes where
  refl _ := .refl
  trans := .trans
  mono grown held := ⟨held.1.trans grown, fun name ref hmem =>
    (grows_of_steps grown).isSome_info? (held.2 name ref hmem)⟩
  empty held := ⟨held.1, fun _ _ hmem => absurd hmem List.not_mem_nil⟩
  declare _ held := held
  mark name held := ⟨held.1, held.2.set name fun _ heq => by cases heq⟩
  value name held done := by
    -- the class that an expression gives may have been added by it
    obtain ⟨hsteps, hthere⟩ := hevaluate _ _ _ _ held.1 done
    refine ⟨hsteps, held.1.trans hsteps, Knows.set (fun other ref hmem => ?_) name ?_⟩
    · exact (grows_of_steps hsteps).isSome_info? (held.2 other ref hmem)
    · rintro ref heq
      cases heq
      exact hthere ref rfl
  capability {r _ _ _ _ _ _} name held done := by
    obtain ⟨k, hancestors, hattributes, hplain, hfree, rfl, rfl⟩ := defineCapability_eq_ok done
    have hfits : r.Fits k := ⟨by simp [hancestors], by simp [Knows, hattributes], hfree⟩
    have hstep : Step r (r.add k).1 := .plain hfits hplain
    refine ⟨.single hstep, held.1.tail hstep, Knows.set (fun other ref hmem => ?_) name ?_⟩
    · exact hstep.grows.isSome_info? (held.2 other ref hmem)
    · rintro ref heq
      cases heq
      rw [info?_add]
      rfl
  settle held found done := by
    obtain ⟨hstep, hthere⟩ :=
      step_of_settle (linked_empty.steps held.1).sound held.2 found done
    refine ⟨.single hstep, fun b' held' => ⟨held'.1, held'.2.set _ ?_⟩⟩
    rintro ref heq
    cases heq
    exact hthere

/-- Making an instance leaves the classes as they are. -/
theorem Registry.classes_of_make {c : ClassInfo} {given : List (String × Value)} {v : Value}
    (h : r.make c given = .ok (r', v)) : r'.classes = r.classes := by
  unfold make at h
  cases hinstance : r.instantiate c given with
  | error f =>
    rw [hinstance] at h
    cases h
  | ok made =>
    rw [hinstance] at h
    cases h
    rfl

theorem History.steps (hevaluate : Lawful evaluate) (hr : Steps {} r)
    (h : History evaluate fault module r r') : Steps r r' := by
  induction h with
  | start => exact .refl
  | @define r₁ _ _ _ _ done ih =>
    have hempty : r₁.Knows ({} : Body).attributes := by simp [Knows]
    exact ih.trans ((steps_rule hevaluate).define _ ⟨hr.trans ih, hempty⟩ done).1
  | make _ done ih => exact ih.tail (.same (classes_of_make done))

/-- **Whatever is defined, parents and children are linked.** -/
theorem History.linked (hevaluate : Lawful evaluate) (h : History evaluate fault module {} r) :
    r.Linked :=
  linked_empty.steps (h.steps hevaluate .refl)

/-- **What the parent of a class is**, after any sequence of definitions: the last resource that
    encloses the class. So parents and children agree exactly where no class is the child of two
    resources. What is defined later changes the parent exactly if a new resource encloses the
    class, and instances of a class that has a parent can be made over the instances of this
    parent, and over nothing else. -/
theorem parent_is_last (hevaluate : Lawful evaluate) (h : History evaluate fault module {} r) :
    (∀ p c, r.HasResource p → r.Has c →
      (c.parent = some p.ref ↔ c ∈ r.children p ∧
        ∀ q, r.HasResource q → c ∈ r.children q → q.ref.serial ≤ p.ref.serial)) ∧
    ((∀ p c, r.HasResource p → r.Has c → (c ∈ r.children p ↔ c.parent = some p.ref)) ↔
      ∀ p q c, r.HasResource p → r.HasResource q → c ∈ r.children p → c ∈ r.children q →
        p = q) ∧
    (∀ r', History evaluate fault module r r' → ∀ c, r.Has c →
      ∃ c', r'.info? c.ref.serial = some c' ∧
        (c'.parent ≠ c.parent ↔
          ∃ q, r'.HasResource q ∧ r.classes.length ≤ q.ref.serial ∧ c' ∈ r'.children q)) ∧
    (∀ c outer, r.Has c → c.parent = some outer → ∃ f, r.parentField? c = some f ∧
      ∀ given values u, r.unmet? c = none → Takes c given values →
        values.lookup f.name = some u →
        refusalBy c.refusal (.node c.ref r.objects values) = none →
        ((∃ made, r.make c given = .ok made) ↔ r.isInstance u outer = true)) := by
  have hlinked := h.linked hevaluate
  refine ⟨fun p c hp hc => hlinked.parent_iff hp hc, hlinked.agree_iff, fun r' hlater c hc => ?_,
    fun c outer hc houter => hlinked.make_iff hc houter⟩
  have hsteps := hlater.steps hevaluate (h.steps hevaluate .refl)
  obtain ⟨parent, hc'⟩ := grows_of_steps hsteps _ _ hc
  exact ⟨_, hc', hlinked.changed_iff (hlinked.steps hsteps) (grows_of_steps hsteps) hc hc'⟩

end

/-! ## Stops of a line -/

namespace Sample

/-- Classes by their names. -/
def named (name : String) : StateT Registry (Except DefinitionFault) Value := fun r =>
  match r.named? name with
  | some c => .ok (.cls c.ref, r)
  | none => .error (.unknownBase name)

/-- A line has stops. -/
def lineDefinition : Definition String :=
  .mk "Line" none (some "lines") none
    [.nested (.mk "Stop" none (some "stops") none [.parent "line"])]

def stop : ClassInfo :=
  { ref := ⟨0, "app.api", "Line.Stop", "type"⟩, declared := ["line"], segment := some "stops"
    fields := [{ name := "line", isParent := true }]
    parent := some ⟨1, "app.api", "Line", "type"⟩ }

def line : ClassInfo :=
  { ref := ⟨1, "app.api", "Line", "type"⟩, attributes := [("Stop", .value (.cls stop.ref))]
    segment := some "lines" }

def lines : Registry :=
  { classes := [stop, line] }

/-- A tour knows the class of its first stop. -/
def tourDefinition : Definition String :=
  .mk "Tour" none (some "tours") none [.attribute "first" "Line.Stop"]

def tour : ClassInfo :=
  { ref := ⟨2, "app.api", "Tour", "type"⟩, attributes := [("first", .value (.cls stop.ref))]
    segment := some "tours" }

/-- A stop after the tour has been defined. -/
def tourStop : ClassInfo :=
  { stop with parent := some tour.ref }

def tours : Registry :=
  { classes := [tourStop, line, tour] }

def lineNode : Value :=
  .node line.ref 0 []

theorem lawful_named : Lawful named := by
  intro name r v r' hsteps h
  unfold named at h
  split at h
  · next c hc =>
    cases h
    refine ⟨.refl, fun ref heq => ?_⟩
    cases heq
    exact isSome_info?_of_named? (linked_empty.steps hsteps).sound hc _ List.mem_cons_self
  · cases h

theorem define_line : define named id "app.api" none lineDefinition {} = .ok (line, lines) := by
  cbv

theorem define_tour : define named id "app.api" none tourDefinition lines = .ok (tour, tours) := by
  cbv

theorem history_lines : History named id "app.api" {} lines :=
  .define .start define_line

theorem history_tours : History named id "app.api" lines tours :=
  .define .start define_tour

/-- A node of a line can be given for the stop's line. -/
theorem takes_lineNode (parent : Option ClassRef) :
    Takes { stop with parent } [("line", lineNode)] [("line", lineNode)] where
  known := by
    intro entry hentry
    obtain rfl := List.mem_singleton.mp hentry
    exact ⟨_, List.mem_singleton_self _, rfl⟩
  filled := .cons ⟨rfl, .inl rfl⟩ .nil

end Sample

open Api.Sample in
/-- A stop is a child of its line and can be made over it, until a tour is defined that knows the
    stop. -/
theorem parent_is_last_sample :
    History named id "app.api" {} lines ∧ History named id "app.api" lines tours ∧
      stop ∈ lines.children line ∧ (∃ made, lines.make stop [("line", lineNode)] = .ok made) ∧
      ∃ later, tours.info? 0 = some later ∧ ∃ q, tours.HasResource q ∧ 2 ≤ q.ref.serial ∧
        later ∈ tours.children q := by
  obtain ⟨hparent, -, hchanged, hmake⟩ := parent_is_last lawful_named history_lines
  have hchild := ((hparent line stop ⟨rfl, rfl⟩ rfl).mp rfl).1
  obtain ⟨f, hf, hover⟩ := hmake stop _ rfl rfl
  obtain rfl : { name := "line", isParent := true } = f := Option.some.inj hf
  have hmade := (hover _ _ lineNode rfl (takes_lineNode _) rfl rfl).mpr rfl
  obtain ⟨later, hlater, hiff⟩ := hchanged tours history_tours stop rfl
  obtain rfl : tourStop = later := Option.some.inj hlater
  have hother : tourStop.parent ≠ stop.parent := by simp [tourStop, stop, tour]
  exact ⟨history_lines, history_tours, hchild, hmade, tourStop, rfl, hiff.mp hother⟩

open Api.Sample in
/-- Once a tour is defined that knows the stop, the stop is a child of the line and of the tour,
    and cannot be made over a node of its line any more. -/
theorem Sample.stop_leaves_line :
    History named id "app.api" lines tours ∧ stop.parent = some line.ref ∧
      tours.HasResource line ∧ tourStop ∈ tours.children line ∧
      tours.HasResource tour ∧ tourStop ∈ tours.children tour ∧
      tourStop.parent ≠ some line.ref ∧
      tours.make tourStop [("line", lineNode)]
        = .error (.wrongParent "Line.Stop" "line" "Tour" "Line") := by
  have hline : line.Encloses 0 := ⟨"Stop", stop.ref, List.mem_singleton_self _, by cbv, rfl⟩
  have htour : tour.Encloses 0 := ⟨"first", stop.ref, List.mem_singleton_self _, by cbv, rfl⟩
  refine ⟨history_tours, rfl, ⟨rfl, rfl⟩, mem_children_iff.mpr ⟨rfl, 0, hline, rfl⟩, ⟨rfl, rfl⟩,
    mem_children_iff.mpr ⟨rfl, 0, htour, rfl⟩, by simp [tourStop, tour, line], ?_⟩
  cbv

end Waymark.Api

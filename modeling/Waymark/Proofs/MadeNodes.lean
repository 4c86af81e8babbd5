import Mathlib.Data.List.Basic
import Waymark.Api.Node
import Waymark.Api.Route
import Waymark.Proofs.DefinitionRule

/-! # Nodes that have been made

    Classes are defined and instances are made one after the other. Both only add to the
    registry, so what is known of a node when it is made stays true later on.

    * Each class is found under its serial number, and so are those it extends
      (`Registry.Sound`). Defining a class keeps this, whatever the definition
      (`keeps_define`, by the rule for definitions).
    * A node is made of a class that is there, and the nodes that its fields hold have been made
      before it (`Registry.Made`). It has a value for each field of its class
      (`Registry.Made.whole`).
    * All nodes on the chain of a node have been made (`Registry.Made.of_mem_chain`).
-/

namespace Waymark.Api

variable {ε φ : Type}

namespace Registry

variable {r r' r'' : Registry} {c : ClassInfo}

/-! ## Registries -/

/-- Every class is found under its own serial number, and so are those that it extends. -/
structure Sound (r : Registry) : Prop where
  own : ∀ serial c, r.info? serial = some c → c.ref.serial = serial
  above : ∀ serial c, r.info? serial = some c → ∀ a ∈ c.ancestors, (r.info? a).isSome = true

/-- Classes have been added in a sound way. -/
structure Keeps (r r' : Registry) : Prop where
  sound : r.Sound → r'.Sound
  grows : r.Grows r'

theorem sound_empty : ({} : Registry).Sound where
  own := by
    intro serial c h
    cases h
  above := by
    intro serial c h
    cases h

/-- A registry in which all serial numbers are those of places is sound. -/
theorem sound_of_places (h : ∀ entry ∈ r.classes.zipIdx, entry.1.ref.serial = entry.2 ∧
    ∀ a ∈ entry.1.ancestors, a < r.classes.length) : r.Sound := by
  have hplace : ∀ serial c, r.info? serial = some c → (c, serial) ∈ r.classes.zipIdx := by
    intro serial c hc
    exact List.mk_mem_zipIdx_iff_getElem?.mpr hc
  refine ⟨fun serial c hc => (h _ (hplace serial c hc)).1, fun serial c hc a ha => ?_⟩
  have hlt := (h _ (hplace serial c hc)).2 a ha
  exact Option.isSome_iff_exists.mpr ⟨_, List.getElem?_eq_getElem hlt⟩

theorem Keeps.trans (h : r.Keeps r') (h' : r'.Keeps r'') : r.Keeps r'' :=
  ⟨fun hsound => h'.sound (h.sound hsound), h.grows.trans h'.grows⟩

theorem keeps_of_classes_eq (h : r'.classes = r.classes) : r.Keeps r' := by
  have hinfo : r'.info? = r.info? := by
    funext serial
    unfold info?
    rw [h]
  refine ⟨fun hsound => ⟨?_, ?_⟩, grows_of_classes_eq h⟩
  · rw [hinfo]
    exact hsound.own
  · rw [hinfo]
    exact hsound.above

theorem keeps_refl (r : Registry) : r.Keeps r :=
  keeps_of_classes_eq rfl

theorem Grows.isSome_info? (h : r.Grows r') {serial : Nat}
    (hthere : (r.info? serial).isSome = true) : (r'.info? serial).isSome = true := by
  obtain ⟨c, hc⟩ := Option.isSome_iff_exists.mp hthere
  obtain ⟨parent, hparent⟩ := h serial c hc
  rw [hparent]
  rfl

/-- A class that is found after one has been added was there before, or is the new one. -/
theorem info?_add_cases {serial : Nat} {k : ClassInfo} (h : (r.add c).1.info? serial = some k) :
    r.info? serial = some k ∨ serial = r.classes.length ∧ k = (r.add c).2 := by
  unfold info? add at h
  dsimp only at h
  rw [List.getElem?_append] at h
  split at h
  · exact .inl h
  · obtain ⟨hzero, hlast⟩ := List.getElem?_eq_some_iff.mp h
    simp only [List.length_singleton] at hzero
    simp only [List.getElem_singleton] at hlast
    exact .inr ⟨by omega, hlast.symm⟩

theorem keeps_add (habove : r.Sound → ∀ a ∈ c.ancestors, (r.info? a).isSome = true) :
    r.Keeps (r.add c).1 := by
  have hgrows := grows_add r c
  refine ⟨fun hsound => ⟨?_, ?_⟩, hgrows⟩
  · intro serial k hk
    rcases info?_add_cases hk with hold | ⟨rfl, rfl⟩
    · exact hsound.own serial k hold
    · rfl
  · intro serial k hk a ha
    rcases info?_add_cases hk with hold | ⟨rfl, rfl⟩
    · exact hgrows.isSome_info? (hsound.above serial k hold a ha)
    · exact hgrows.isSome_info? (habove hsound a ha)

theorem keeps_modify (r : Registry) (serial : Nat) (parent : Option ClassRef) :
    r.Keeps (r.modify serial fun c => { c with parent }) := by
  have hgrows := grows_modify r serial parent
  -- what is found has the name and the ancestors that it had
  have hback : ∀ other k, (r.modify serial fun c => { c with parent }).info? other = some k →
      ∃ old, r.info? other = some old ∧ old.ref = k.ref ∧ old.ancestors = k.ancestors := by
    intro other k hk
    unfold info? modify at hk
    unfold info?
    dsimp only at hk
    rw [List.getElem?_modify] at hk
    obtain ⟨old, hold, rfl⟩ := Option.map_eq_some_iff.mp hk
    refine ⟨old, hold, ?_, ?_⟩
    · split <;> rfl
    · split <;> rfl
  refine ⟨fun hsound => ⟨?_, ?_⟩, hgrows⟩
  · intro other k hk
    obtain ⟨old, hold, href, -⟩ := hback other k hk
    rw [← href]
    exact hsound.own other old hold
  · intro other k hk a ha
    obtain ⟨old, hold, -, habove⟩ := hback other k hk
    exact hgrows.isSome_info? (hsound.above other old hold a (habove ▸ ha))

theorem keeps_adopt {outer : ClassInfo} {children : List ClassInfo}
    (h : r.adopt outer children = .ok r') : r.Keeps r' := by
  induction children generalizing r with
  | nil =>
    obtain rfl := Except.ok.inj h
    exact keeps_refl r
  | cons child rest ih =>
    unfold adopt at h
    split at h
    · cases h
    · exact (keeps_modify r child.ref.serial (some outer.ref)).trans (ih h)

/-- The class of a name is there, and in a sound registry so are those it extends. -/
theorem isSome_info?_of_named? {name : String} (hsound : r.Sound) (h : r.named? name = some c) :
    ∀ a ∈ c.ref.serial :: c.ancestors, (r.info? a).isSome = true := by
  have hmem : c ∈ r.classes := List.mem_reverse.mp (List.mem_of_find?_eq_some h)
  obtain ⟨serial, hserial⟩ := List.mem_iff_getElem?.mp hmem
  have hown := hsound.own serial c hserial
  intro a ha
  rcases List.mem_cons.mp ha with rfl | ha
  · rw [hown]
    exact Option.isSome_iff_exists.mpr ⟨c, hserial⟩
  · exact hsound.above serial c hserial a ha

end Registry

open Registry

/-! ## Defining classes -/

section

variable {evaluate : ε → StateT Registry (Except φ) Value} {fault : DefinitionFault → φ}
  {module : String} {r r' : Registry}

theorem keeps_settle {qualname : String} {base : Option ClassInfo}
    {segment : Option String} {refusal : Option NodeCheck} {body : Body} {c : ClassInfo}
    (hbase : ∀ b, base = some b → ∃ name, r.named? name = some b)
    (h : settle fault module qualname base segment refusal body r = .ok (c, r')) : r.Keeps r' := by
  have habove : r.Sound → ∀ a ∈ (base.map fun b => b.ref.serial :: b.ancestors).getD [],
      (r.info? a).isSome = true := by
    intro hsound a ha
    cases base with
    | none => cases ha
    | some b =>
      obtain ⟨name, hname⟩ := hbase b rfl
      exact isSome_info?_of_named? hsound hname a ha
  obtain ⟨k, hdraft, rfl, ⟨-, rfl⟩ | ⟨-, hadopt⟩⟩ := settle_eq_ok h
  · exact keeps_add (hdraft.ancestors ▸ habove)
  · exact (keeps_add (hdraft.ancestors ▸ habove)).trans (keeps_adopt hadopt)

/-- Registries are kept sound by definitions, whatever is in the bodies. -/
theorem keeps_rule (hevaluate : ∀ e r v r', evaluate e r = .ok (v, r') → r.Keeps r') :
    DefinitionRule evaluate fault module Registry.Keeps fun _ _ => True where
  refl := keeps_refl
  trans := Keeps.trans
  mono _ _ := trivial
  empty _ := trivial
  declare _ _ := trivial
  mark _ _ := trivial
  value _ _ done := ⟨hevaluate _ _ _ _ done, trivial⟩
  capability _ _ done := by
    obtain ⟨k, hancestors, -, -, -, rfl, -⟩ := defineCapability_eq_ok done
    exact ⟨keeps_add fun _ a ha => absurd (hancestors ▸ ha) List.not_mem_nil, trivial⟩
  settle _ found done := ⟨keeps_settle found done, fun _ _ => trivial⟩

/-- **Defining a class keeps a registry sound**, and all that is in it. -/
theorem keeps_define (hevaluate : ∀ e r v r', evaluate e r = .ok (v, r') → r.Keeps r')
    (d : Definition ε) {outer : Option String} {r r' : Registry} {c : ClassInfo}
    (h : define evaluate fault module outer d r = .ok (c, r')) : r.Keeps r' :=
  ((keeps_rule hevaluate).define d trivial h).1

theorem keeps_defineMembers (hevaluate : ∀ e r v r', evaluate e r = .ok (v, r') → r.Keeps r')
    (members : List (Member ε)) {path : String} {r r' : Registry} {b b' : Body}
    (h : defineMembers evaluate fault module path members b r = .ok (b', r')) :
    r.Keeps r' :=
  ((keeps_rule hevaluate).defineMembers members trivial h).1

end

namespace Registry

variable {r r' : Registry} {c : ClassInfo}

/-! ## Making nodes -/

/-- The node has been made: of a class that is there, with fields that hold no nodes but such as
    had been made before. -/
inductive Made : Registry → Value → Prop
  | make {r r' : Registry} {c : ClassInfo} {given : List (String × Value)} {ref : ClassRef}
    {serial : Nat} {fields : List (String × Value)} (sound : r.Sound)
    (there : r.info? c.ref.serial = some c)
    (made : r.make c given = .ok (r', .node ref serial fields))
    (parts : ∀ name inner number values, (name, .node inner number values) ∈ fields →
      Made r (.node inner number values)) : Made r' (.node ref serial fields)
  | later {r r' : Registry} {v : Value} (before : Made r v) (grows : r.Grows r') : Made r' v

/-- The class of a node is there, with all that it extends, and the node has a value for each of
    its fields. -/
inductive Whole (r : Registry) : ClassRef → List (String × Value) → Prop
  | intro {ref : ClassRef} {values : List (String × Value)} {c : ClassInfo}
    {declared : List NodeField} (there : r.info? ref.serial = some c)
    (above : ∀ a ∈ c.ancestors, (r.info? a).isSome = true) (fields : r.fields? c = some declared)
    (names : values.map Prod.fst = declared.map NodeField.name) : Whole r ref values

/-- The nearest resource is the same in a registry that has grown, but for its parent. -/
theorem Grows.fields?_eq (h : r.Grows r') (habove : ∀ a ∈ c.ancestors, (r.info? a).isSome = true)
    (parent : Option ClassRef) : r'.fields? { c with parent } = r.fields? c := by
  -- a class may get another parent, but its fields and its segment stay
  have hancestors : ∀ as : List Nat, (∀ a ∈ as, (r.info? a).isSome = true) →
      ((as.filterMap r'.info?).find? ClassInfo.isResource).map ClassInfo.fields
        = ((as.filterMap r.info?).find? ClassInfo.isResource).map ClassInfo.fields := by
    intro as has
    induction as with
    | nil => rfl
    | cons a rest ih =>
      obtain ⟨k, hk⟩ := Option.isSome_iff_exists.mp (has a List.mem_cons_self)
      obtain ⟨parent', hk'⟩ := h a k hk
      have hrest := ih fun b hb => has b (List.mem_cons_of_mem _ hb)
      rw [List.filterMap_cons_some hk, List.filterMap_cons_some hk', List.find?_cons,
        List.find?_cons]
      have hsame : ClassInfo.isResource { k with parent := parent' } = k.isResource := rfl
      rw [hsame]
      cases k.isResource with
      | true => rfl
      | false => exact hrest
  have hlineage := hancestors c.ancestors habove
  unfold fields? resource? lineage
  rw [List.find?_cons, List.find?_cons]
  have hsame : ClassInfo.isResource { c with parent } = c.isResource := rfl
  rw [hsame]
  cases c.isResource with
  | true => rfl
  | false => exact hlineage

theorem Whole.mono {ref : ClassRef} {values : List (String × Value)} (h : r.Whole ref values)
    (hgrows : r.Grows r') : r'.Whole ref values := by
  obtain ⟨there, above, fields, names⟩ := h
  obtain ⟨parent, hparent⟩ := hgrows _ _ there
  refine .intro hparent (fun a ha => hgrows.isSome_info? (above a ha)) ?_ names
  rw [hgrows.fields?_eq above, fields]

/-- Every field has a value, one that is given or the default. -/
theorem map_fst_of_fill {qualname : String} {fields : List NodeField}
    {given values : List (String × Value)} (h : fill qualname fields given = .ok values) :
    values.map Prod.fst = fields.map NodeField.name := by
  unfold fill at h
  dsimp only at h
  split at h
  · next hnone =>
    cases h
    have hall : ∀ f ∈ fields,
        (f.default.isNone && (given.lookup f.name).isNone) = false := by
      rw [List.isEmpty_iff, List.filter_eq_nil_iff] at hnone
      exact fun f hf => Bool.eq_false_iff.mpr (hnone f hf)
    clear hnone
    induction fields with
    | nil => rfl
    | cons f rest ih =>
      have hfirst := hall f List.mem_cons_self
      have hrest := ih fun g hg => hall g (List.mem_cons_of_mem _ hg)
      -- each field is given or has a default, or the values would not be filled in
      obtain ⟨v, hv⟩ : ∃ v, ((given.lookup f.name).orElse fun _ => f.default) = some v := by
        cases hgiven : given.lookup f.name with
        | some v => exact ⟨v, rfl⟩
        | none =>
          cases hdefault : f.default with
          | some v => exact ⟨v, rfl⟩
          | none =>
            rw [hgiven, hdefault] at hfirst
            cases hfirst
      rw [List.filterMap_cons_some (by rw [hv]; rfl), List.map_cons, List.map_cons, hrest]
  · cases h

/-- What making a node comes down to. -/
theorem make_eq_ok {given : List (String × Value)} {ref : ClassRef} {serial : Nat}
    {fields : List (String × Value)} (h : r.make c given = .ok (r', .node ref serial fields)) :
    r'.classes = r.classes ∧ ref = c.ref ∧ ∃ maker, r.resource? c = some maker ∧
      fill maker.ref.qualname maker.fields given = .ok fields := by
  unfold make at h
  cases hinstance : r.instantiate c given with
  | error fault =>
    rw [hinstance] at h
    cases h
  | ok v =>
    rw [hinstance] at h
    obtain ⟨hr, hv⟩ := Prod.mk.inj (Except.ok.inj h)
    subst hr hv
    refine ⟨rfl, ?_⟩
    -- of all ways through the construction only one ends with a node that has fields
    unfold instantiate at hinstance
    split at hinstance
    · unfold makeInert at hinstance
      split at hinstance
      · cases hinstance
      · split at hinstance <;> cases hinstance
    · next maker hmaker =>
      split at hinstance
      · cases hinstance
      · simp only [bind, Except.bind] at hinstance
        split at hinstance
        · cases hinstance
        · split at hinstance
          · cases hinstance
          · next filled hfill =>
            split at hinstance
            · cases hinstance
            · cases hinstance
              exact ⟨rfl, maker, hmaker, hfill⟩

theorem Made.exists_node {v : Value} (h : r.Made v) :
    ∃ ref serial fields, v = .node ref serial fields := by
  induction h with
  | make => exact ⟨_, _, _, rfl⟩
  | later _ _ ih => exact ih

/-- **A node that has been made has a value for each field of its class.** -/
theorem Made.whole {ref : ClassRef} {serial : Nat} {values : List (String × Value)}
    (h : r.Made (.node ref serial values)) : r.Whole ref values := by
  generalize hv : Value.node ref serial values = v at h
  induction h with
  | @make r r' c given ref' serial' fields sound there made parts ih =>
    cases hv
    obtain ⟨hclasses, rfl, maker, hmaker, hfill⟩ := make_eq_ok made
    have hwhole : r.Whole c.ref values := by
      refine .intro there (sound.above _ _ there) ?_ (map_fst_of_fill hfill)
      unfold fields?
      rw [hmaker]
      rfl
    exact hwhole.mono (grows_of_classes_eq hclasses)
  | later _ grows ih => exact (ih hv).mono grows

/-- The nodes that the fields of a node hold have been made. -/
theorem Made.part {ref : ClassRef} {serial : Nat} {values : List (String × Value)}
    (h : r.Made (.node ref serial values)) {name : String} {inner : ClassRef} {number : Nat}
    {fields : List (String × Value)} (hpart : (name, .node inner number fields) ∈ values) :
    r.Made (.node inner number fields) := by
  generalize hv : Value.node ref serial values = v at h
  induction h with
  | @make r r' c given ref' serial' values' sound there made parts ih =>
    cases hv
    exact .later (parts _ _ _ _ hpart) (grows_of_classes_eq (make_eq_ok made).1)
  | later _ grows ih => exact .later (ih hv) grows

/-! ## Chains -/

mutual
/-- **The nodes on the chain of a node have been made.** -/
theorem Made.of_mem_chain (v : Value) (h : ∀ ref serial fields, v = .node ref serial fields →
      r.Made (.node ref serial fields))
    {inner : ClassRef} {number : Nat} {values : List (String × Value)}
    (hmem : .node inner number values ∈ r.chain v) : r.Made (.node inner number values) := by
  match v with
  | .node ref serial fields =>
    rw [chain] at hmem
    rcases List.mem_cons.mp hmem with heq | hmem
    · rw [heq]
      exact h ref serial fields rfl
    -- the rest of the chain is that of the first node among the fields
    · split at hmem
      · next name _ =>
        exact Made.of_mem_chainIn fields (fun _ _ _ _ hpart => (h ref serial fields rfl).part hpart)
          hmem
      · cases hmem
  | .none | .bool _ | .int _ | .float _ | .text _ | .bytes _ | .list _ | .tuple _ | .set _ _
  | .dict _ | .record _ _ | .sealed _ _ | .cls _ | .inert _ _ =>
    rw [chain] at hmem
    · cases List.mem_singleton.mp hmem
    · intro ref serial fields heq
      cases heq

theorem Made.of_mem_chainIn {name : String} (fields : List (String × Value))
    (h : ∀ name ref serial values, (name, .node ref serial values) ∈ fields →
      r.Made (.node ref serial values))
    {inner : ClassRef} {number : Nat} {values : List (String × Value)}
    (hmem : .node inner number values ∈ r.chainIn name fields) :
    r.Made (.node inner number values) := by
  match fields with
  | [] =>
    rw [chainIn] at hmem
    cases hmem
  | (n, v) :: rest =>
    rw [chainIn] at hmem
    split at hmem
    · refine Made.of_mem_chain v (fun ref serial fields heq => ?_) hmem
      subst heq
      exact h n ref serial fields List.mem_cons_self
    · exact Made.of_mem_chainIn rest
        (fun other ref serial fields hpart => h other ref serial fields
          (List.mem_cons_of_mem _ hpart)) hmem
end

end Registry

end Waymark.Api

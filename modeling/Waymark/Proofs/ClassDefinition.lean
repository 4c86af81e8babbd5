import Mathlib.Data.List.TakeWhile
import Waymark.Proofs.ClassShape
import Waymark.Proofs.ItemByItem

/-! # Classes of definitions

    Defining a tree of classes adds one class after the other, the nested ones first. What is
    added stays, and all that changes later on are the parents (`Registry.Grows`).

    * Each class has an attribute for each member that is more than an annotation
      (`Defined`, `Held`). This stays true while the registry grows (`Held.mono`).
    * A definition of the allowed kind can be carried out, and the class is what it says
      (`exists_define`, by induction on definitions and member lists).
    * Going through the classes shows the shape of the definition (`Defined.shows`).
-/

namespace Waymark.Api

variable {ε φ : Type}

/-! ## Registries that grow -/

namespace Registry

variable {r r' r'' : Registry}

/-- All classes are still there. Nothing of them has changed but their parents. -/
def Grows (r r' : Registry) : Prop :=
  ∀ serial c, r.info? serial = some c → ∃ parent, r'.info? serial = some { c with parent }

theorem Grows.trans (h : r.Grows r') (h' : r'.Grows r'') : r.Grows r'' := by
  intro serial c hc
  obtain ⟨parent, hparent⟩ := h serial c hc
  obtain ⟨parent', hparent'⟩ := h' serial _ hparent
  exact ⟨parent', hparent'⟩

theorem grows_of_classes_eq (h : r'.classes = r.classes) : r.Grows r' := by
  intro serial c hc
  refine ⟨c.parent, ?_⟩
  unfold info? at hc ⊢
  rw [h, hc]

theorem grows_add (r : Registry) (c : ClassInfo) : r.Grows (r.add c).1 := by
  intro serial k hk
  refine ⟨k.parent, ?_⟩
  unfold info? at hk ⊢
  have hlt := (List.getElem?_eq_some_iff.mp hk).1
  show (r.classes ++ _)[serial]? = _
  rw [List.getElem?_append_left hlt, hk]

/-- The class that was added is there. -/
theorem info?_add (r : Registry) (c : ClassInfo) :
    (r.add c).1.info? (r.add c).2.ref.serial = some (r.add c).2 := by
  show (r.classes ++ _)[r.classes.length]? = _
  rw [List.getElem?_concat_length]
  rfl

theorem grows_modify (r : Registry) (serial : Nat) (parent : Option ClassRef) :
    r.Grows (r.modify serial fun c => { c with parent }) := by
  intro other c hc
  unfold info? at hc
  unfold info? modify
  rw [List.getElem?_modify, hc]
  by_cases hsame : serial = other
  · exact ⟨parent, by simp [hsame]⟩
  · exact ⟨c.parent, by simp [hsame]⟩

/-- The parent field of a resource is one of its own. -/
theorem parentField?_of_isResource {c : ClassInfo} (h : c.isResource = true) :
    r.parentField? c = c.fields.find? NodeField.isParent := by
  have hresource : r.resource? c = some c := List.find?_cons_of_pos h
  unfold parentField? fields?
  rw [hresource, Option.map_some, Option.bind_some]

/-- Resources with fields for the parent can be adopted. -/
theorem exists_adopt (outer : ClassInfo) (children : List ClassInfo)
    (h : ∀ c ∈ children, c.isResource = true ∧ (c.fields.find? NodeField.isParent).isSome = true) :
    ∃ r', r.adopt outer children = .ok r' ∧ r.Grows r' := by
  induction children generalizing r with
  | nil => exact ⟨r, rfl, grows_of_classes_eq rfl⟩
  | cons child rest ih =>
    obtain ⟨hresource, hparent⟩ := h child List.mem_cons_self
    obtain ⟨r', hadopt, hgrows⟩ := ih (r := r.modify child.ref.serial fun c =>
      { c with parent := some outer.ref }) fun c hc => h c (List.mem_cons_of_mem _ hc)
    refine ⟨r', ?_, (grows_modify r _ _).trans hgrows⟩
    unfold adopt
    rw [parentField?_of_isResource hresource, if_neg, hadopt]
    rw [Option.isNone_iff_eq_none, ← ne_eq, Option.ne_none_iff_isSome]
    exact hparent

/-- A class that extends no other one has its own attributes. -/
theorem attribute?_of_alone {c : ClassInfo} (h : c.ancestors = []) (name : String) :
    r.attribute? c name = c.attributes.lookup name := by
  unfold attribute? lineage
  rw [h, List.filterMap_nil, List.findSome?_singleton]

theorem contract?_of_alone {c : ClassInfo} (h : c.ancestors = []) : r.contract? c = c.verb := by
  unfold contract? lineage
  rw [h, List.filterMap_nil, List.findSome?_singleton]

end Registry

/-! ## Definitions of the allowed kind -/

/-- A class that is found and is neither a resource nor a capability. -/
structure ClassInfo.IsPlain (c : ClassInfo) : Prop where
  segment : c.segment = none
  verb : c.verb = none
  unmarked : c.marked = false
  alone : c.ancestors = []

/-- The value may be the default of a field: it cannot be changed, and it is not a class that
    would be taken for a nested resource or capability. -/
structure Registry.Allows (r : Registry) (v : Value) : Prop where
  fixed : isChangeable v = false
  plain : ∀ ref, v = .cls ref → ∃ c, r.info? ref.serial = some c ∧ c.IsPlain

/-- Wherever classes have been added to the registry, the expression has a value that may be the
    default of a field, and evaluating it defines no class. -/
def Evaluates (evaluate : ε → StateT Registry (Except φ) Value) (start : Registry) (e : ε) : Prop :=
  ∀ r, start.Grows r →
    ∃ v r', evaluate e r = .ok (v, r') ∧ r'.classes = r.classes ∧ r.Allows v

/-- Is there a field for the parent? -/
def Definition.HasParent : Definition ε → Prop
  | .mk _ _ _ _ members => (parentOf members).isSome = true

mutual
/-- The definition is made of classes that extend nothing and check nothing, and all members of a
    class have names of their own. -/
inductive Definition.Sound (P : ε → Prop) : Definition ε → Prop
  | intro {name : String} {segment : Option String} {members : List (Member ε)}
    (identifier : '.' ∉ name.toList) (distinct : (members.map Member.name).Nodup)
    (inner : ∀ m ∈ members, m.Sound P) : Definition.Sound P (.mk name none segment none members)

/-- Members do not have names that start with two underscores, defaults are as they may be, and
    nested resources have a field for the parent. -/
inductive Member.Sound (P : ε → Prop) : Member ε → Prop
  | field {name : String} {default : Option ε} (shown : name.startsWith "__" = false)
    (given : ∀ e, default = some e → P e) : Member.Sound P (.field name default)
  | parent {name : String} (shown : name.startsWith "__" = false) : Member.Sound P (.parent name)
  | nested {d : Definition ε} (shown : d.name.startsWith "__" = false) (sound : d.Sound P)
    (parent : d.segment.isSome = true → d.HasParent) : Member.Sound P (.nested d)
  | capability {name : String} {verb : Option Verb} {marked : Bool}
    (shown : name.startsWith "__" = false) (identifier : '.' ∉ name.toList) :
    Member.Sound P (.capability name verb marked)
end

theorem Member.Sound.shown {P : ε → Prop} {m : Member ε} (h : m.Sound P) :
    m.name.startsWith "__" = false := by
  cases h <;> assumption

/-! ## Classes as they are defined -/

/-- The name that a member declares as a field. -/
def Member.field? : Member ε → Option String
  | .field name _ => some name
  | .parent name => some name
  | _ => none

mutual
/-- The class is what the definition says. -/
inductive Defined (r : Registry) : Option String → Definition ε → ClassInfo → Prop
  | intro {outer : Option String} {name : String} {segment : Option String}
    {members : List (Member ε)} {c : ClassInfo} {attributes : List (String × Attribute)}
    (called : c.ref.qualname = nestedName outer name) (alone : c.ancestors = [])
    (unbound : c.verb = none) (unmarked : c.marked = false) (own : c.segment = segment)
    (parent : segment.isSome = true →
      (c.fields.find? NodeField.isParent).map NodeField.name = parentOf members)
    (has : c.attributes = attributes ∨ c.attributes = Registry.withoutMarks attributes)
    (held : Held r (nestedName outer name) members attributes) :
    Defined r outer (.mk name none segment none members) c

/-- The attributes are those of the members, in order. -/
inductive Held (r : Registry) : String → List (Member ε) → List (String × Attribute) → Prop
  | nil {path : String} : Held r path [] []
  | bare {path name : String} {members : List (Member ε)} {attributes : List (String × Attribute)}
    (later : Held r path members attributes) : Held r path (.field name none :: members) attributes
  | default {path name : String} {e : ε} {v : Value} {members : List (Member ε)}
    {attributes : List (String × Attribute)} (allowed : r.Allows v)
    (later : Held r path members attributes) :
    Held r path (.field name (some e) :: members) ((name, .value v) :: attributes)
  | mark {path name : String} {members : List (Member ε)} {attributes : List (String × Attribute)}
    (later : Held r path members attributes) :
    Held r path (.parent name :: members) ((name, .parentMark) :: attributes)
  | nested {path : String} {d : Definition ε} {c : ClassInfo} {members : List (Member ε)}
    {attributes : List (String × Attribute)} (there : r.info? c.ref.serial = some c)
    (defined : Defined r (some path) d c) (later : Held r path members attributes) :
    Held r path (.nested d :: members) ((d.name, .value (.cls c.ref)) :: attributes)
  | capability {path name : String} {verb : Option Verb} {marked : Bool} {c : ClassInfo}
    {members : List (Member ε)} {attributes : List (String × Attribute)}
    (there : r.info? c.ref.serial = some c) (called : c.ref.qualname = nestedName (some path) name)
    (alone : c.ancestors = []) (extended : c.verb = verb) (mark : c.marked = marked)
    (routeless : c.segment = none) (later : Held r path members attributes) :
    Held r path (.capability name verb marked :: members)
      ((name, .value (.cls c.ref)) :: attributes)
end

variable {r r' : Registry} {path : String} {members : List (Member ε)}
  {attributes : List (String × Attribute)}

theorem Registry.Allows.mono {v : Value} (h : r.Allows v) (hgrows : r.Grows r') : r'.Allows v := by
  refine ⟨h.fixed, ?_⟩
  intro ref hv
  obtain ⟨c, hc, hplain⟩ := h.plain ref hv
  obtain ⟨parent, hthere⟩ := hgrows _ _ hc
  exact ⟨_, hthere, hplain.segment, hplain.verb, hplain.unmarked, hplain.alone⟩

mutual
/-- What the class is does not depend on its parent, and stays while classes are added. -/
theorem Defined.mono {outer : Option String} {d : Definition ε} {c : ClassInfo}
    (h : Defined r outer d c) (hgrows : r.Grows r') (parent : Option ClassRef) :
    Defined r' outer d { c with parent } := by
  match h with
  | .intro called alone unbound unmarked own hparent has held =>
    exact .intro called alone unbound unmarked own hparent has (held.mono hgrows)

theorem Held.mono {path : String} {members : List (Member ε)}
    {attributes : List (String × Attribute)} (h : Held r path members attributes)
    (hgrows : r.Grows r') : Held r' path members attributes := by
  match h with
  | .nil => exact .nil
  | .bare later => exact .bare (later.mono hgrows)
  | .default allowed later => exact .default (allowed.mono hgrows) (later.mono hgrows)
  | .mark later => exact .mark (later.mono hgrows)
  | .nested (c := c) there defined later =>
    obtain ⟨parent, hthere⟩ := hgrows _ _ there
    exact .nested (c := { c with parent }) hthere (defined.mono hgrows parent) (later.mono hgrows)
  | .capability (c := c) there called alone extended mark routeless later =>
    obtain ⟨parent, hthere⟩ := hgrows _ _ there
    exact .capability (c := { c with parent }) hthere called alone extended mark routeless
      (later.mono hgrows)
end

/-- The names of the attributes are names of members, in order. -/
theorem Held.keys (h : Held r path members attributes) :
    (attributes.map Prod.fst).Sublist (members.map Member.name) := by
  induction members generalizing attributes with
  | nil =>
    cases h
    exact .slnil
  | cons m rest ih =>
    cases h with
    | bare later => exact (ih later).cons _
    | default _ later => exact (ih later).cons_cons _
    | mark later => exact (ih later).cons_cons _
    | nested _ _ later => exact (ih later).cons_cons _
    | capability _ _ _ _ _ _ later => exact (ih later).cons_cons _

/-! ## Going through the classes -/

namespace Registry

/-- The class that an attribute holds, unless its name starts with two underscores. -/
def classIn? (r : Registry) : String × Attribute → Option ClassInfo
  | (name, .value (.cls ref)) => if name.startsWith "__" then none else r.info? ref.serial
  | _ => none

def classesIn (r : Registry) (attributes : List (String × Attribute)) : List ClassInfo :=
  attributes.filterMap r.classIn?

theorem nestedClasses_eq (r : Registry) (c : ClassInfo) :
    r.nestedClasses c = r.classesIn c.attributes := by
  unfold nestedClasses classesIn
  congr 1
  funext entry
  obtain ⟨name, a⟩ := entry
  cases a with
  | value v => cases v <;> rfl
  | parentMark => rfl

/-- Marks are no classes. -/
theorem classesIn_withoutMarks (r : Registry) (attributes : List (String × Attribute)) :
    r.classesIn (withoutMarks attributes) = r.classesIn attributes := by
  induction attributes with
  | nil => rfl
  | cons entry rest ih =>
    obtain ⟨name, a⟩ := entry
    cases a with
    | value v =>
      show List.filterMap _ (_ :: withoutMarks rest) = List.filterMap _ (_ :: rest)
      unfold classesIn at ih
      rw [List.filterMap_cons, List.filterMap_cons, ih]
    | parentMark =>
      rw [show r.classesIn ((name, .parentMark) :: rest) = r.classesIn rest from rfl, ← ih]
      rfl

theorem classesIn_cons_of_shown {name : String} {ref : ClassRef} {c : ClassInfo}
    (hshown : name.startsWith "__" = false) (hc : r.info? ref.serial = some c) :
    r.classesIn ((name, .value (.cls ref)) :: attributes) = c :: r.classesIn attributes := by
  have hfound : r.classIn? (name, .value (.cls ref)) = some c := by
    show (if name.startsWith "__" then none else r.info? ref.serial) = some c
    rw [hshown, hc]
    rfl
  unfold classesIn
  rw [List.filterMap_cons_some hfound]

end Registry

theorem ClassInfo.IsPlain.isResource_eq {c : ClassInfo} (h : c.IsPlain) : c.isResource = false := by
  unfold ClassInfo.isResource
  rw [h.segment]
  rfl

theorem ClassInfo.IsPlain.isCapability_eq {c : ClassInfo} (h : c.IsPlain) :
    r.isCapability c = false := by
  unfold Registry.isCapability
  rw [Registry.contract?_of_alone h.alone, h.verb, h.unmarked]
  simp

/-- What going through the attributes finds has the shapes of the members. -/
structure Finds (r : Registry) (path : String) (members : List (Member ε))
    (attributes : List (String × Attribute)) : Prop where
  children : List.Forall₂ r.Shows ((r.classesIn attributes).filter ClassInfo.isResource)
    (childShapes path members)
  capabilities : ((r.classesIn attributes).filter r.isCapability).map r.capabilityShape
    = capabilityShapes path members

/-- The name of a class is the last part of its qualified name. -/
theorem ref_name_eq {ref : ClassRef} {outer : Option String} {name : String}
    (h : ref.qualname = nestedName outer name) (hname : '.' ∉ name.toList) : ref.name = name := by
  -- the name of a class is what stands behind the last dot, and there is none in `name`
  have hall : ∀ c ∈ name.toList.reverse, (c != '.') = true := by
    intro c hc
    rw [bne_iff_ne]
    rintro rfl
    exact hname (List.mem_reverse.mp hc)
  unfold ClassRef.name
  rw [h]
  cases outer with
  | none =>
    show String.ofList (name.toList.reverse.takeWhile _).reverse = name
    rw [List.takeWhile_eq_self_iff.mpr hall, List.reverse_reverse, String.ofList_toList]
  | some path =>
    show String.ofList (((path ++ "." ++ name).toList.reverse).takeWhile _).reverse = name
    rw [String.toList_append, List.reverse_append, List.takeWhile_append_of_pos hall,
      String.toList_append, List.reverse_append]
    simp

/-- A class for a member, in front of what is found for the others. -/
theorem Finds.cons {m : Member ε} {c : ClassInfo} {entry : String × Attribute}
    (hentry : r.classesIn (entry :: attributes) = c :: r.classesIn attributes)
    (hchild : List.Forall₂ r.Shows ([c].filter ClassInfo.isResource) (childShapes path [m]))
    (hcapability : ([c].filter r.isCapability).map r.capabilityShape
      = (m.capability? path).toList)
    (h : Finds r path members attributes) :
    Finds r path (m :: members) (entry :: attributes) where
  children := by
    rw [hentry, childShapes_cons, ← List.singleton_append, List.filter_append]
    exact List.rel_append hchild h.children
  capabilities := by
    rw [hentry, capabilityShapes_cons, ← List.singleton_append, List.filter_append,
      List.map_append, hcapability, h.capabilities]

/-- Nothing is found for a field. -/
theorem Finds.field {name : String} {default : Option ε} {v : Value} (hallowed : r.Allows v)
    (hshown : name.startsWith "__" = false) (h : Finds r path members attributes) :
    Finds r path (.field name default :: members) ((name, .value v) :: attributes) := by
  -- only a class could be found, and one that is allowed as a default is found in vain
  by_cases hclass : ∃ ref, v = .cls ref
  · obtain ⟨ref, rfl⟩ := hclass
    obtain ⟨c, hc, hplain⟩ := hallowed.plain ref rfl
    refine .cons (Registry.classesIn_cons_of_shown hshown hc) ?_ ?_ h
    · rw [List.filter_cons_of_neg (by simp [hplain.isResource_eq])]
      exact .nil
    · rw [List.filter_cons_of_neg (by simp [hplain.isCapability_eq])]
      rfl
  · have hnone : r.classIn? (name, .value v) = none := by
      cases v with
      | cls ref => exact absurd ⟨ref, rfl⟩ hclass
      | _ => rfl
    have hentry : r.classesIn ((name, .value v) :: attributes) = r.classesIn attributes := by
      unfold Registry.classesIn
      rw [List.filterMap_cons_none hnone]
    refine ⟨?_, ?_⟩
    · rw [hentry]
      exact h.children
    · rw [hentry]
      exact h.capabilities

/-- A capability is found if it extends a contract or is marked. -/
theorem Finds.capability {name : String} {verb : Option Verb} {marked : Bool} {c : ClassInfo}
    (there : r.info? c.ref.serial = some c) (called : c.ref.qualname = nestedName (some path) name)
    (alone : c.ancestors = []) (extended : c.verb = verb) (mark : c.marked = marked)
    (routeless : c.segment = none) (hshown : name.startsWith "__" = false)
    (hname : '.' ∉ name.toList) (h : Finds r path members attributes) :
    Finds r path (.capability name verb marked :: members)
      ((name, .value (.cls c.ref)) :: attributes) := by
  -- without a route the class is no endpoint, so all depends on its contract and its mark
  have hresource : c.isResource = false := by
    unfold ClassInfo.isResource
    rw [routeless]
    rfl
  have hcontract : r.contract? c = verb := by
    rw [Registry.contract?_of_alone alone, extended]
  have hcapability : r.isCapability c = (verb.isSome || marked) := by
    unfold Registry.isCapability
    rw [hresource, hcontract, mark]
    rfl
  have hshape : r.capabilityShape c
      = { name, qualname := nestedName (some path) name, verb, marked } := by
    unfold Registry.capabilityShape
    rw [ref_name_eq called hname, called, hcontract, mark]
  refine .cons (Registry.classesIn_cons_of_shown hshown there) ?_ ?_ h
  · rw [List.filter_cons_of_neg (by simp [hresource])]
    exact .nil
  · simp only [Member.capability?]
    cases htaken : verb.isSome || marked with
    | true =>
      rw [List.filter_cons_of_pos (by rw [hcapability, htaken]), List.map_cons, hshape]
      rfl
    | false =>
      rw [List.filter_cons_of_neg (by rw [hcapability, htaken]; simp)]
      rfl

/-- A nested resource is found, and a nested class that is none is not. -/
theorem Finds.nested {d : Definition ε} {c : ClassInfo} (there : r.info? c.ref.serial = some c)
    (hdefined : Defined r (some path) d c)
    (hshows : ∀ shape, d.shape? (some path) = some shape → r.Shows c shape)
    (hshown : d.name.startsWith "__" = false) (h : Finds r path members attributes) :
    Finds r path (.nested d :: members) ((d.name, .value (.cls c.ref)) :: attributes) := by
  obtain @⟨_, name, segment, inner, c, own, -, alone, unbound, unmarked, hsegment, -, -, -⟩ :=
    hdefined
  refine .cons (Registry.classesIn_cons_of_shown hshown there) ?_ ?_ h
  -- a nested class is a child exactly if it has a segment
  · cases segment with
    | none =>
      have hresource : c.isResource = false := by
        unfold ClassInfo.isResource
        rw [hsegment]
        rfl
      rw [List.filter_cons_of_neg (by simp [hresource])]
      exact .nil
    | some text =>
      have hresource : c.isResource = true := by
        unfold ClassInfo.isResource
        rw [hsegment]
        rfl
      rw [List.filter_cons_of_pos hresource]
      exact .cons (hshows _ rfl) .nil
  -- whatever it is, it is no capability
  · have hcapability : r.isCapability c = false := by
      unfold Registry.isCapability
      rw [Registry.contract?_of_alone alone, unbound, unmarked]
      simp
    rw [List.filter_cons_of_neg (by simp [hcapability])]
    rfl

variable {P : ε → Prop}

mutual
/-- **Going through the classes of a resource shows the shape of its definition.** -/
theorem Defined.shows {outer : Option String} {d : Definition ε} {c : ClassInfo}
    (h : Defined r outer d c) (hsound : d.Sound P) {shape : ClassShape}
    (hshape : d.shape? outer = some shape) : r.Shows c shape := by
  match h, hsound with
  | @Defined.intro _ _ _ name segment members _ attributes called _ _ _ own hparent has held,
      .intro identifier _ inner =>
    cases segment with
    | none => cases hshape
    | some text =>
      obtain rfl := Option.some.inj hshape
      have hfinds := held.finds inner
      -- the marks that may have been taken away are no classes
      have hnested : r.nestedClasses c = r.classesIn attributes := by
        rw [Registry.nestedClasses_eq]
        rcases has with hall | hwithout
        · rw [hall]
        · rw [hwithout, Registry.classesIn_withoutMarks]
      have hresource : c.isResource = true := by
        unfold ClassInfo.isResource
        rw [own]
        rfl
      have hcapabilities : (r.capabilities c).map r.capabilityShape
          = capabilityShapes (nestedName outer name) members := by
        unfold Registry.capabilities
        rw [hnested, hfinds.capabilities]
      have hshows : r.Shows c _ := .intro own (by
        unfold Registry.children
        rw [hnested]
        exact hfinds.children)
      rwa [ref_name_eq called identifier, called, Registry.parentField?_of_isResource hresource,
        hparent rfl, hcapabilities] at hshows

/-- Going through the attributes of members shows their shapes. -/
theorem Held.finds {path : String} {members : List (Member ε)}
    {attributes : List (String × Attribute)} (h : Held r path members attributes)
    (hsound : ∀ m ∈ members, m.Sound P) : Finds r path members attributes := by
  -- the attributes follow the members one by one
  match h with
  | .nil => exact ⟨.nil, rfl⟩
  | .bare later =>
    have hlater := later.finds fun m hm => hsound m (List.mem_cons_of_mem _ hm)
    exact ⟨hlater.children, hlater.capabilities⟩
  | .default allowed later =>
    exact .field allowed (hsound _ List.mem_cons_self).shown
      (later.finds fun m hm => hsound m (List.mem_cons_of_mem _ hm))
  | .mark later =>
    have hlater := later.finds fun m hm => hsound m (List.mem_cons_of_mem _ hm)
    exact ⟨hlater.children, hlater.capabilities⟩
  | .nested there defined later =>
    have hlater := later.finds fun m hm => hsound m (List.mem_cons_of_mem _ hm)
    cases hsound _ List.mem_cons_self with
    | nested shown sound _ =>
      exact .nested there defined (fun shape hshape => defined.shows sound hshape) shown hlater
  | .capability there called alone extended mark routeless later =>
    have hlater := later.finds fun m hm => hsound m (List.mem_cons_of_mem _ hm)
    cases hsound _ List.mem_cons_self with
    | capability shown identifier =>
      exact .capability there called alone extended mark routeless shown identifier hlater
end

/-! ## Resources -/

/-- Nested resources have a field for the parent. -/
theorem isSome_parent_of_mem {shape : ClassShape} (hsound : ∀ m ∈ members, m.Sound P)
    (h : shape ∈ childShapes path members) : shape.parent.isSome = true := by
  induction members with
  | nil => cases h
  | cons m rest ih =>
    rw [childShapes_cons] at h
    rcases List.mem_append.mp h with hhere | hlater
    · cases hsound m List.mem_cons_self with
      -- only a nested class with a segment is a child
      | nested shown sound parent =>
        rename_i d
        obtain ⟨name, base, segment, refusal, inner⟩ := d
        cases segment with
        | none => cases hhere
        | some text =>
          obtain rfl := List.mem_singleton.mp hhere
          exact parent rfl
      | _ => cases hhere
    · exact ih (fun m hm => hsound m (List.mem_cons_of_mem _ hm)) hlater

/-- The resources that are found for members have a field for the parent. -/
theorem Held.isSome_parentField (h : Held r path members attributes)
    (hsound : ∀ m ∈ members, m.Sound P) {c : ClassInfo}
    (hc : c ∈ (r.classesIn attributes).filter ClassInfo.isResource) :
    c.isResource = true ∧ (c.fields.find? NodeField.isParent).isSome = true := by
  have hresource := (List.mem_filter.mp hc).2
  refine ⟨hresource, ?_⟩
  obtain ⟨shape, hshape, hshows⟩ := exists_left_of_forall₂ (h.finds hsound).children.flip hc
  have hparent := isSome_parent_of_mem hsound hshape
  cases hshows with
  | intro own nested =>
    rw [← Registry.parentField?_of_isResource (r := r) hresource]
    rwa [ClassShape.parent, Option.isSome_map] at hparent

/-- The fields that a class gets for members: their names, the one for the parent, and whether
    all fields for parents have attributes. -/
structure OwnFields (r : Registry) (c : ClassInfo) (members : List (Member ε))
    (own : List NodeField) : Prop where
  made : (members.filterMap Member.field?).mapM (r.ownField c) = .ok own
  names : own.map NodeField.name = members.filterMap Member.field?
  parent : (own.find? NodeField.isParent).map NodeField.name = parentOf members
  marked : ∀ f ∈ own, f.isParent = true → (c.attributes.lookup f.name).isSome = true

namespace OwnFields

variable {c : ClassInfo} {m : Member ε} {own : List NodeField}

/-- A member that is no field. -/
theorem skip (hfield : m.field? = none) (h : OwnFields r c members own) :
    OwnFields r c (m :: members) own := by
  have hfields : (m :: members).filterMap Member.field? = members.filterMap Member.field? :=
    List.filterMap_cons_none hfield
  have hparent : m.parent? = none := by
    cases m <;> first | rfl | cases hfield
  refine ⟨?_, ?_, ?_, h.marked⟩
  · rw [hfields, h.made]
  · rw [hfields, h.names]
  · rw [parentOf_cons, hparent, h.parent, Option.none_or]

/-- A member that is a field. -/
theorem cons {f : NodeField} (hfield : m.field? = some f.name)
    (hmade : r.ownField c f.name = .ok f)
    (hparent : m.parent? = if f.isParent then some f.name else none)
    (hmarked : f.isParent = true → (c.attributes.lookup f.name).isSome = true)
    (h : OwnFields r c members own) : OwnFields r c (m :: members) (f :: own) := by
  have hfields : (m :: members).filterMap Member.field?
      = f.name :: members.filterMap Member.field? := List.filterMap_cons_some hfield
  refine ⟨?_, ?_, ?_, ?_⟩
  · rw [hfields, List.mapM_cons, hmade, h.made]
    rfl
  · rw [hfields, List.map_cons, h.names]
  · rw [parentOf_cons, hparent]
    -- the first parent field among them counts
    cases hf : f.isParent with
    | true =>
      rw [List.find?_cons_of_pos hf]
      rfl
    | false =>
      rw [List.find?_cons_of_neg (by simp [hf]), h.parent]
      rfl
  · intro g hg
    rcases List.mem_cons.mp hg with rfl | hg
    · exact hmarked
    · exact h.marked g hg

end OwnFields

/-- Each field is made by the attribute of its name, if there is one. -/
theorem Held.exists_ownFields (h : Held r path members attributes)
    (hdistinct : (members.map Member.name).Nodup) {c : ClassInfo} (halone : c.ancestors = [])
    (hlookup : ∀ m ∈ members, c.attributes.lookup m.name = attributes.lookup m.name) :
    ∃ own, OwnFields r c members own := by
  induction members generalizing attributes with
  | nil => exact ⟨[], rfl, rfl, rfl, fun f hf => by cases hf⟩
  | cons m rest ih =>
    obtain ⟨hnew, hrest⟩ := List.nodup_cons.mp hdistinct
    have hhere := hlookup m List.mem_cons_self
    -- the attribute of this member is none of those that the other members look for
    have hothers : ∀ {name : String} {a : Attribute} {later : List (String × Attribute)},
        attributes = (name, a) :: later → name = m.name →
        ∀ other ∈ rest, c.attributes.lookup other.name = later.lookup other.name := by
      rintro name a later rfl rfl other hother
      have hne : (other.name == m.name) = false := by
        rw [beq_eq_false_iff_ne]
        intro hsame
        exact hnew (hsame ▸ List.mem_map_of_mem hother)
      rw [hlookup other (List.mem_cons_of_mem _ hother), List.lookup_cons, hne]
    cases h with
    | bare later =>
      rename_i name
      obtain ⟨own, hown⟩ := ih later hrest fun other hother =>
        hlookup other (List.mem_cons_of_mem _ hother)
      have hnone : attributes.lookup name = none := by
        rw [List.lookup_eq_none_iff]
        intro entry hentry
        rw [bne_iff_ne]
        rintro rfl
        exact hnew (later.keys.subset (List.mem_map_of_mem hentry))
      have hvalue : c.attributes.lookup name = none := hhere.trans hnone
      refine ⟨{ name } :: own, hown.cons rfl ?_ rfl fun hparent => by cases hparent⟩
      unfold Registry.ownField
      rw [Registry.attribute?_of_alone halone, hvalue]
    | default allowed later =>
      rename_i name e v attributes
      obtain ⟨own, hown⟩ := ih later hrest (hothers rfl rfl)
      have hvalue : c.attributes.lookup name = some (.value v) :=
        hhere.trans List.lookup_cons_self
      refine ⟨{ name, default := some v } :: own,
        hown.cons rfl ?_ rfl fun hparent => by cases hparent⟩
      unfold Registry.ownField
      rw [Registry.attribute?_of_alone halone, hvalue]
      simp [allowed.fixed]
    | mark later =>
      rename_i name attributes
      obtain ⟨own, hown⟩ := ih later hrest (hothers rfl rfl)
      have hmark : c.attributes.lookup name = some .parentMark :=
        hhere.trans List.lookup_cons_self
      refine ⟨{ name, isParent := true } :: own, hown.cons rfl ?_ rfl fun _ => ?_⟩
      · unfold Registry.ownField
        rw [Registry.attribute?_of_alone halone, hmark]
      · rw [hmark]
        rfl
    | nested there defined later =>
      obtain ⟨own, hown⟩ := ih later hrest (hothers rfl rfl)
      exact ⟨own, hown.skip rfl⟩
    | capability there called alone extended mark routeless later =>
      obtain ⟨own, hown⟩ := ih later hrest (hothers rfl rfl)
      exact ⟨own, hown.skip rfl⟩

/-- Marks that the class has itself can be used. -/
theorem marksUsed_eq_ok {c : ClassInfo} {own : List NodeField}
    (h : ∀ f ∈ own, f.isParent = true → (c.attributes.lookup f.name).isSome = true) :
    Registry.marksUsed c own = .ok () := by
  unfold Registry.marksUsed
  induction own with
  | nil => rfl
  | cons f rest ih =>
    have hhere : ¬ (f.isParent && (c.attributes.lookup f.name).isNone) = true := by
      rw [Bool.and_eq_true, not_and]
      intro hparent
      have hsome := h f List.mem_cons_self hparent
      simp [Option.isSome_iff_ne_none.mp hsome]
    unfold List.forM
    rw [if_neg hhere]
    exact ih fun g hg => h g (List.mem_cons_of_mem _ hg)

/-- Fields with names of their own are put behind each other. -/
theorem foldl_putField {fields own : List NodeField}
    (hdistinct : (own.map NodeField.name).Nodup)
    (hnew : ∀ f ∈ own, ∀ g ∈ fields, g.name ≠ f.name) :
    own.foldl Registry.putField fields = fields ++ own := by
  induction own generalizing fields with
  | nil => simp
  | cons f rest ih =>
    obtain ⟨hf, hrest⟩ := List.nodup_cons.mp hdistinct
    -- a field with a new name comes last
    have hput : Registry.putField fields f = fields ++ [f] := by
      unfold Registry.putField
      rw [if_neg]
      rw [List.any_eq_true]
      rintro ⟨g, hg, hsame⟩
      exact hnew f List.mem_cons_self g hg (by simpa using hsame)
    rw [List.foldl_cons, hput, ih hrest, List.append_assoc, List.singleton_append]
    intro g hg other hother
    rcases List.mem_append.mp hother with hother | hother
    · exact hnew g (List.mem_cons_of_mem _ hg) other hother
    · obtain rfl := List.mem_singleton.mp hother
      intro hsame
      exact hf (hsame ▸ List.mem_map_of_mem hg)

/-- The fields are among the members. -/
theorem filterMap_field?_sublist (members : List (Member ε)) :
    (members.filterMap Member.field?).Sublist (members.map Member.name) := by
  induction members with
  | nil => exact .slnil
  | cons m rest ih =>
    rw [List.filterMap_cons]
    cases m with
    | field name default => exact ih.cons_cons name
    | parent name => exact ih.cons_cons name
    | _ => exact ih.cons _

/-- A class as it is before it is added: it has the attributes of members, and extends
    nothing. -/
structure Bare (c : ClassInfo) (qualname : String) (members : List (Member ε))
    (attributes : List (String × Attribute)) : Prop where
  called : c.ref.qualname = qualname
  alone : c.ancestors = []
  unbound : c.verb = none
  unmarked : c.marked = false
  routeless : c.segment = none
  attributes : c.attributes = attributes
  declared : c.declared = members.filterMap Member.field?

/-- The definition was carried out: the class is there, and it is what the definition says. -/
structure Outcome (r r' : Registry) (outer : Option String) (d : Definition ε) (c : ClassInfo) :
    Prop where
  grows : r.Grows r'
  there : ∃ parent, r'.info? c.ref.serial = some { c with parent }
  defined : Defined r' outer d c

variable {outer : Option String} {name : String} {c : ClassInfo}

/-- A class that is no resource is just added. -/
theorem Held.outcome_add (h : Held r (nestedName outer name) members attributes)
    (hc : Bare c (nestedName outer name) members attributes) :
    Outcome r (r.add c).1 outer (.mk name none none none members) (r.add c).2 where
  grows := Registry.grows_add r c
  there := ⟨c.parent, Registry.info?_add r c⟩
  defined := .intro hc.called hc.alone hc.unbound hc.unmarked hc.routeless
    (fun hnone => by cases hnone) (.inl hc.attributes) (h.mono (Registry.grows_add r c))

/-- A class whose members are allowed can be made a resource. -/
theorem Held.exists_makeResource (h : Held r (nestedName outer name) members attributes)
    (hc : Bare c (nestedName outer name) members attributes) (hsound : ∀ m ∈ members, m.Sound P)
    (hdistinct : (members.map Member.name).Nodup) (text : String) :
    ∃ r' c', r.makeResource c text = .ok (r', c') ∧
      Outcome r r' outer (.mk name none (some text) none members) c' := by
  obtain ⟨own, hown⟩ := h.exists_ownFields hdistinct hc.alone fun m _ => by rw [hc.attributes]
  have hmade : c.declared.mapM (r.ownField c) = .ok own := by
    rw [hc.declared]
    exact hown.made
  have hmarks := marksUsed_eq_ok hown.marked
  have hinherited : r.fields? c = none := by
    unfold Registry.fields? Registry.resource? Registry.lineage
    rw [hc.alone, List.filterMap_nil, List.find?_singleton]
    unfold ClassInfo.isResource
    rw [hc.routeless]
    rfl
  have hfields : own.foldl Registry.putField [] = own := by
    rw [foldl_putField, List.nil_append]
    · rw [hown.names]
      exact (filterMap_field?_sublist members).nodup hdistinct
    · intro f _ g hg
      cases hg
  -- the class is added, and then it adopts what was found among its attributes
  generalize hresult : { c with
    attributes := Registry.withoutMarks c.attributes, segment := some text, fields := own } = made
  have hadd := Registry.grows_add r made
  have hchildren : (r.add made).1.children (r.add made).2
      = ((r.add made).1.classesIn attributes).filter ClassInfo.isResource := by
    unfold Registry.children
    rw [Registry.nestedClasses_eq]
    show List.filter _ (Registry.classesIn _ made.attributes) = _
    rw [← hresult, Registry.classesIn_withoutMarks, hc.attributes]
  obtain ⟨r', hadopt, hadopted⟩ := Registry.exists_adopt (r := (r.add made).1) (r.add made).2
    ((r.add made).1.children (r.add made).2) (by
      rw [hchildren]
      intro child hchild
      exact (h.mono hadd).isSome_parentField hsound hchild)
  have hgrows := hadd.trans hadopted
  refine ⟨r', (r.add made).2, ?_, hgrows, hadopted _ _ (Registry.info?_add r made), ?_⟩
  · unfold Registry.makeResource
    simp only [bind, Except.bind, hmade, hmarks, hinherited, Option.getD_none, hfields]
    rw [hresult, hadopt]
    rfl
  · subst hresult
    exact .intro hc.called hc.alone hc.unbound hc.unmarked rfl (fun _ => hown.parent)
      (.inr (congrArg Registry.withoutMarks hc.attributes)) (h.mono hgrows)

/-! ## Carrying definitions out -/

/-- Nothing in the body is called like one of the members. -/
structure Body.Fresh (b : Body) (members : List (Member ε)) : Prop where
  attributes : ∀ m ∈ members, m.name ∉ b.attributes.map Prod.fst
  declared : ∀ m ∈ members, m.name ∉ b.declared
  distinct : (members.map Member.name).Nodup

/-- The body with attributes and fields put behind it. -/
def Body.extend (b : Body) (attributes : List (String × Attribute)) (declared : List String) :
    Body :=
  { attributes := b.attributes ++ attributes, declared := b.declared ++ declared }

theorem putMember_of_not_mem {α : Type} {name : String} {entries : List (String × α)}
    (h : name ∉ entries.map Prod.fst) (a : α) :
    Wire.putMember name a entries = entries ++ [(name, a)] := by
  induction entries with
  | nil => rfl
  | cons entry rest ih =>
    obtain ⟨other, v⟩ := entry
    rw [List.map_cons, List.mem_cons, not_or] at h
    unfold Wire.putMember
    rw [if_neg (by simpa using Ne.symm h.1), ih h.2]
    rfl

namespace Body.Fresh

variable {b : Body} {m : Member ε}

/-- A new attribute and a new field are put behind the others. -/
theorem extend_eq (h : b.Fresh (m :: members)) (a : Attribute) :
    b.set m.name a = b.extend [(m.name, a)] [] ∧ b.declare m.name = b.extend [] [m.name] ∧
      (b.declare m.name).set m.name a = b.extend [(m.name, a)] [m.name] := by
  have hattribute := h.attributes m List.mem_cons_self
  have hdeclared := h.declared m List.mem_cons_self
  unfold Body.set Body.declare Body.extend
  rw [putMember_of_not_mem hattribute]
  simp [hdeclared]

/-- What is put into the body for a member does not get in the way of the others. -/
theorem tail (h : b.Fresh (m :: members)) {attributes : List (String × Attribute)}
    {declared : List String} (hattributes : ∀ entry ∈ attributes, entry.1 = m.name)
    (hdeclared : ∀ name ∈ declared, name = m.name) :
    (b.extend attributes declared).Fresh members := by
  obtain ⟨hnew, hrest⟩ := List.nodup_cons.mp h.distinct
  -- members have distinct names, so what one adds is not the name of another
  have hne : ∀ other ∈ members, other.name ≠ m.name := fun other hother hsame =>
    hnew (hsame ▸ List.mem_map_of_mem hother)
  refine ⟨?_, ?_, hrest⟩
  · intro other hother hmem
    unfold Body.extend at hmem
    rw [List.map_append, List.mem_append] at hmem
    rcases hmem with hmem | hmem
    · exact h.attributes other (List.mem_cons_of_mem _ hother) hmem
    · obtain ⟨entry, hentry, hsame⟩ := List.mem_map.mp hmem
      exact hne other hother (hsame.symm.trans (hattributes entry hentry))
  · intro other hother hmem
    rcases List.mem_append.mp hmem with hmem | hmem
    · exact h.declared other (List.mem_cons_of_mem _ hother) hmem
    · exact hne other hother (hdeclared _ hmem)

end Body.Fresh

section

variable {evaluate : ε → StateT Registry (Except φ) Value} {fault : DefinitionFault → φ}
  {module : String} {b : Body} {m : Member ε}

/-- The members can be read into the body, which then has their attributes and fields. -/
def Carried (evaluate : ε → StateT Registry (Except φ) Value) (fault : DefinitionFault → φ)
    (module path : String) (members : List (Member ε)) (b : Body) (r : Registry) : Prop :=
  ∃ attributes r', defineMembers evaluate fault module path members b r
      = .ok (b.extend attributes (members.filterMap Member.field?), r') ∧
    r.Grows r' ∧ Held r' path members attributes

/-- One member, and then the others. -/
theorem Carried.cons (attributes : List (String × Attribute)) {r₁ : Registry}
    (hstep : defineMembers evaluate fault module path (m :: members) b r
      = defineMembers evaluate fault module path members (b.extend attributes m.field?.toList) r₁)
    (hgrows : r.Grows r₁)
    (hheld : ∀ later r', r₁.Grows r' → Held r' path members later →
      Held r' path (m :: members) (attributes ++ later))
    (h : Carried evaluate fault module path members (b.extend attributes m.field?.toList) r₁) :
    Carried evaluate fault module path (m :: members) b r := by
  obtain ⟨later, r', hdone, hlater, hmembers⟩ := h
  refine ⟨attributes ++ later, r', ?_, hgrows.trans hlater, hheld later r' hlater hmembers⟩
  rw [hstep, hdone]
  have hfields : (m :: members).filterMap Member.field?
      = m.field?.toList ++ members.filterMap Member.field? := by
    rw [List.filterMap_cons]
    cases m.field? <;> rfl
  unfold Body.extend
  simp only [hfields, List.append_assoc]

theorem Carried.nil : Carried evaluate fault module path [] b r := by
  refine ⟨[], r, ?_, Registry.grows_of_classes_eq rfl, .nil⟩
  rw [defineMembers]
  show Except.ok (b, r) = _
  unfold Body.extend
  simp

theorem Carried.bare {name : String} (hfresh : b.Fresh (.field name none :: members))
    (h : Carried evaluate fault module path members (b.extend [] [name]) r) :
    Carried evaluate fault module path (.field name none :: members) b r := by
  refine .cons [] ?_ (Registry.grows_of_classes_eq rfl)
    (fun _ _ _ hlater => .bare hlater) h
  rw [defineMembers]
  exact congrArg (fun body => defineMembers evaluate fault module path members body r)
    (hfresh.extend_eq .parentMark).2.1

theorem Carried.default {name : String} {e : ε} {v : Value} {r₁ : Registry}
    (hfresh : b.Fresh (.field name (some e) :: members)) (hv : evaluate e r = .ok (v, r₁))
    (hclasses : r₁.classes = r.classes) (hallowed : r.Allows v)
    (h : Carried evaluate fault module path members (b.extend [(name, .value v)] [name]) r₁) :
    Carried evaluate fault module path (.field name (some e) :: members) b r := by
  have hgrows := Registry.grows_of_classes_eq hclasses
  refine .cons [(name, .value v)] ?_ hgrows
    (fun _ _ hmore hlater => .default (hallowed.mono (hgrows.trans hmore)) hlater) h
  rw [defineMembers]
  simp only [bind, StateT.bind, hv, Except.bind]
  exact congrArg (fun body => defineMembers evaluate fault module path members body r₁)
    (hfresh.extend_eq (.value v)).2.2

theorem Carried.mark {name : String} (hfresh : b.Fresh (.parent name :: members))
    (h : Carried evaluate fault module path members (b.extend [(name, .parentMark)] [name]) r) :
    Carried evaluate fault module path (.parent name :: members) b r := by
  refine .cons [(name, .parentMark)] ?_ (Registry.grows_of_classes_eq rfl)
    (fun _ _ _ hlater => .mark hlater) h
  rw [defineMembers]
  exact congrArg (fun body => defineMembers evaluate fault module path members body r)
    (hfresh.extend_eq .parentMark).2.2

theorem Carried.nested {d : Definition ε} {c : ClassInfo} {r₁ : Registry}
    (hfresh : b.Fresh (.nested d :: members))
    (hc : define evaluate fault module (some path) d r = .ok (c, r₁))
    (hout : Outcome r r₁ (some path) d c) (hname : c.ref.name = d.name)
    (h : Carried evaluate fault module path members
      (b.extend [(d.name, .value (.cls c.ref))] []) r₁) :
    Carried evaluate fault module path (.nested d :: members) b r := by
  refine .cons [(d.name, .value (.cls c.ref))] ?_ hout.grows ?_ h
  · rw [defineMembers]
    simp only [bind, StateT.bind, hc, Except.bind, hname]
    exact congrArg (fun body => defineMembers evaluate fault module path members body r₁)
      (hfresh.extend_eq (.value (.cls c.ref))).1
  · intro later r' hmore hlater
    obtain ⟨parent, hthere⟩ := hout.there
    obtain ⟨parent', hthere'⟩ := hmore _ _ hthere
    exact .nested (c := { c with parent := parent' }) hthere' (hout.defined.mono hmore parent')
      hlater

theorem Carried.capability {name : String} {verb : Option Verb} {marked : Bool}
    (hfresh : b.Fresh (.capability name verb marked :: members))
    (h : ∀ {c : ClassInfo} {r₁ : Registry}, r.Grows r₁ →
      Carried evaluate fault module path members (b.extend [(name, .value (.cls c.ref))] []) r₁) :
    Carried evaluate fault module path (.capability name verb marked :: members) b r := by
  generalize hmade : ({ ref := ⟨0, module, nestedName (some path) name,
    if verb.isSome then "ABCMeta" else "type"⟩, verb, marked } : ClassInfo) = made
  have hgrows := Registry.grows_add r made
  refine .cons [(name, .value (.cls (r.add made).2.ref))] ?_ hgrows ?_ (h hgrows)
  · rw [defineMembers]
    subst hmade
    simp only [bind, StateT.bind, defineCapability, Except.bind]
    exact congrArg (fun body => defineMembers evaluate fault module path members body _)
      (hfresh.extend_eq _).1
  -- by then the class may have been given a parent
  · intro later r' hmore hlater
    obtain ⟨parent, hthere⟩ := hmore _ _ (Registry.info?_add r made)
    subst hmade
    exact .capability (c := { (r.add _).2 with parent }) hthere rfl rfl rfl rfl rfl hlater

/-- A class whose members have been read can be settled. -/
theorem Held.exists_settle {outer : Option String} {name : String}
    (h : Held r (nestedName outer name) members attributes)
    (hsound : ∀ m ∈ members, m.Sound P) (hdistinct : (members.map Member.name).Nodup)
    (segment : Option String) :
    ∃ c r', settle fault module (nestedName outer name) none segment none
        (({} : Body).extend attributes (members.filterMap Member.field?)) r = .ok (c, r') ∧
      Outcome r r' outer (.mk name none segment none members) c := by
  generalize hmade :
    ({ ref := ⟨0, module, nestedName outer name, "type"⟩, attributes
       declared := members.filterMap Member.field? } : ClassInfo) = made
  have hbare : Bare made (nestedName outer name) members attributes := by
    subst hmade
    exact ⟨rfl, rfl, rfl, rfl, rfl, rfl, rfl⟩
  -- without a segment the class is only added, with one it is made a resource
  cases segment with
  | none =>
    refine ⟨_, _, ?_, h.outcome_add hbare⟩
    subst hmade
    rfl
  | some text =>
    obtain ⟨r', c, hresource, hout⟩ := h.exists_makeResource hbare hsound hdistinct text
    refine ⟨c, r', ?_, hout⟩
    subst hmade
    unfold settle Body.extend
    simp only [List.nil_append, Option.map_none, Option.getD_none]
    rw [hresource]

variable {start : Registry}

mutual
/-- **A definition of the allowed kind can be carried out**, wherever classes have been added. -/
theorem exists_define (d : Definition ε) (hsound : d.Sound (Evaluates evaluate start))
    (outer : Option String) {r : Registry} (hgrows : start.Grows r) :
    ∃ c r', define evaluate fault module outer d r = .ok (c, r') ∧ Outcome r r' outer d c := by
  match d, hsound with
  | .mk name _ segment _ members, .intro identifier distinct inner =>
    have hfresh : ({} : Body).Fresh members := by
      refine ⟨?_, ?_, distinct⟩
      · intro m _ hm
        cases hm
      · intro m _ hm
        cases hm
    obtain ⟨attributes, r₁, hbody, hgrows₁, hheld⟩ :=
      carried members inner (nestedName outer name) hfresh hgrows
    obtain ⟨c, r', hsettled, hout⟩ := hheld.exists_settle inner distinct segment
    refine ⟨c, r', ?_, hgrows₁.trans hout.grows, hout.there, hout.defined⟩
    rw [define]
    simp only [bind, StateT.bind, hbody, Except.bind, baseOf]
    exact hsettled

/-- The members of such a definition can be read, one after the other. -/
theorem carried (members : List (Member ε))
    (hsound : ∀ m ∈ members, m.Sound (Evaluates evaluate start)) (path : String) {b : Body}
    (hfresh : b.Fresh members) {r : Registry} (hgrows : start.Grows r) :
    Carried evaluate fault module path members b r := by
  match members with
  | [] => exact .nil
  | m :: rest =>
    -- whatever this member adds, the others can still be read
    have hrest : ∀ {r₁ : Registry} {entries : List (String × Attribute)} {declared : List String},
        r.Grows r₁ → (∀ entry ∈ entries, entry.1 = m.name) → (∀ name ∈ declared, name = m.name) →
        Carried evaluate fault module path rest (b.extend entries declared) r₁ := by
      intro r₁ entries declared hgrows₁ hentries hdeclared
      exact carried rest (fun other hother => hsound other (List.mem_cons_of_mem _ hother)) path
        (hfresh.tail hentries hdeclared) (hgrows.trans hgrows₁)
    have hsame := Registry.grows_of_classes_eq (r := r) rfl
    match m, hsound m List.mem_cons_self with
    | .field name none, _ => exact .bare hfresh (hrest hsame (by simp) (by simp [Member.name]))
    | .field name (some e), .field _ given =>
      obtain ⟨v, r₁, hv, hclasses, hallowed⟩ := given e rfl r hgrows
      exact .default hfresh hv hclasses hallowed
        (hrest (Registry.grows_of_classes_eq hclasses) (by simp [Member.name])
          (by simp [Member.name]))
    | .parent name, _ =>
      exact .mark hfresh (hrest hsame (by simp [Member.name]) (by simp [Member.name]))
    | .nested definition, .nested shown sound parent =>
      obtain ⟨c, r₁, hc, hout⟩ := exists_define definition sound (some path) hgrows
      have hname : c.ref.name = definition.name := by
        obtain ⟨identifier, -, -⟩ := sound
        obtain ⟨called, -⟩ := hout.defined
        exact ref_name_eq called identifier
      exact .nested hfresh hc hout hname (hrest hout.grows (by simp [Member.name]) (by simp))
    | .capability name verb marked, _ =>
      exact .capability hfresh fun hgrows₁ => hrest hgrows₁ (by simp [Member.name]) (by simp)
end

end

end Waymark.Api

import Waymark.Proofs.ClassDefinition

/-! # A rule for definitions

    Definitions run through the members of a class, and through those of the classes nested in it.
    What holds all along is shown once for each kind of member and for the class in the end
    (`DefinitionRule`); that it holds of the whole definition then follows by induction on
    definitions and member lists (`DefinitionRule.define`).
-/

namespace Waymark.Api

variable {ε φ : Type} {evaluate : ε → StateT Registry (Except φ) Value}
  {fault : DefinitionFault → φ} {module : String}

/-! ## Single steps -/

section

variable {r r' : Registry}

/-- Where one step after another succeeds, both do. -/
theorem run_bind_eq_ok {α β : Type} {first : StateT Registry (Except φ) α}
    {next : α → StateT Registry (Except φ) β} {b : β} (h : (first >>= next) r = .ok (b, r')) :
    ∃ a r₁, first r = .ok (a, r₁) ∧ next a r₁ = .ok (b, r') := by
  cases hfirst : first r with
  | error f =>
    simp only [bind, StateT.bind, hfirst, Except.bind] at h
    cases h
  | ok done =>
    simp only [bind, StateT.bind, hfirst, Except.bind] at h
    exact ⟨done.1, done.2, rfl, h⟩

theorem baseOf_eq_ok {name : Option String} {base : Option ClassInfo}
    (h : baseOf fault name r = .ok (base, r')) :
    r' = r ∧ ∀ b, base = some b → ∃ n, name = some n ∧ r.named? n = some b := by
  unfold baseOf at h
  split at h
  · cases h
    exact ⟨rfl, fun b hb => by cases hb⟩
  · split at h
    · next hnamed =>
      cases h
      exact ⟨rfl, fun b hb => ⟨_, rfl, by rw [hnamed, hb]⟩⟩
    · cases h

/-- A class is made a resource by adding it with its fields and without its marks, and adopting
    the resources nested in it. -/
theorem Registry.makeResource_eq_ok {c c' : ClassInfo} {segment : String}
    (h : r.makeResource c segment = .ok (r', c')) :
    ∃ fields, let k := { c with attributes := withoutMarks c.attributes
                                segment := some segment
                                fields }
      c' = (r.add k).2 ∧ (r.add k).1.adopt c' ((r.add k).1.children c') = .ok r' := by
  unfold makeResource at h
  -- the fields are made first, then the marks are checked, and last the children are adopted
  cases hown : c.declared.mapM (r.ownField c) with
  | error fault =>
    rw [hown] at h
    cases h
  | ok own =>
    rw [hown] at h
    cases hmarks : marksUsed c own with
    | error fault =>
      simp [hmarks, bind, Except.bind] at h
    | ok _ =>
      simp only [hmarks, bind, Except.bind] at h
      split at h
      · cases h
      · next hadopt =>
        cases h
        exact ⟨_, rfl, hadopt⟩

/-- A capability is a class of its own, without attributes. -/
theorem defineCapability_eq_ok {qualname : String} {verb : Option Verb} {marked : Bool}
    {c : ClassInfo}
    (h : (defineCapability module qualname verb marked : StateT Registry (Except φ) _) r
      = .ok (c, r')) :
    ∃ k : ClassInfo, k.ancestors = [] ∧ k.attributes = [] ∧ k.isResource = false ∧
      k.parent = none ∧ r' = (r.add k).1 ∧ c = (r.add k).2 := by
  cases h
  exact ⟨_, rfl, rfl, rfl, rfl, rfl, rfl⟩

/-- The class is to be added for a body: it extends the base, has the segment and the check, and
    its attributes are from the body. -/
structure Drafted (base : Option ClassInfo) (segment : Option String) (refusal : Option NodeCheck)
    (body : Body) (c : ClassInfo) : Prop where
  ancestors : c.ancestors = (base.map fun b => b.ref.serial :: b.ancestors).getD []
  segment : c.segment = segment
  refusal : c.refusal = refusal
  parent : c.parent = none
  attributes : ∀ entry ∈ c.attributes, entry ∈ body.attributes

/-- A class that is settled has been added. If it is a resource, it has adopted those nested in
    it. -/
theorem settle_eq_ok {qualname : String} {base : Option ClassInfo} {segment : Option String}
    {refusal : Option NodeCheck} {body : Body} {c : ClassInfo}
    (h : settle fault module qualname base segment refusal body r = .ok (c, r')) :
    ∃ k, Drafted base segment refusal body k ∧ c = (r.add k).2 ∧
      (k.isResource = false ∧ r' = (r.add k).1 ∨
        k.isResource = true ∧ (r.add k).1.adopt c ((r.add k).1.children c) = .ok r') := by
  unfold settle at h
  dsimp only at h
  cases segment with
  | none =>
    cases h
    exact ⟨_, ⟨rfl, rfl, rfl, rfl, fun _ => id⟩, rfl, .inl ⟨rfl, rfl⟩⟩
  | some text =>
    dsimp only at h
    split at h
    · next hmade =>
      cases h
      obtain ⟨fields, rfl, hadopt⟩ := Registry.makeResource_eq_ok hmade
      -- some marks may have been taken away from the attributes
      refine ⟨_, ⟨rfl, rfl, rfl, rfl, fun entry hentry => ?_⟩, rfl, .inr ⟨rfl, hadopt⟩⟩
      exact List.mem_of_mem_filter hentry
    · cases h

end

/-! ## Whole definitions -/

/-- What goes on throughout definitions: the registries before and after are in the relation `R`,
    and of a body that is being read the property `B` holds. A class that has been defined may be
    an attribute of any body. -/
structure DefinitionRule (evaluate : ε → StateT Registry (Except φ) Value)
    (fault : DefinitionFault → φ) (module : String) (R : Registry → Registry → Prop)
    (B : Registry → Body → Prop) : Prop where
  refl (r : Registry) : R r r
  trans {r r' r'' : Registry} (before : R r r') (after : R r' r'') : R r r''
  mono {r r' : Registry} {b : Body} (grown : R r r') (held : B r b) : B r' b
  empty {r : Registry} {b : Body} (held : B r b) : B r {}
  declare {r : Registry} {b : Body} (name : String) (held : B r b) : B r (b.declare name)
  mark {r : Registry} {b : Body} (name : String) (held : B r b) : B r (b.set name .parentMark)
  value {r r' : Registry} {b : Body} {e : ε} {v : Value} (name : String) (held : B r b)
    (done : evaluate e r = .ok (v, r')) : R r r' ∧ B r' (b.set name (.value v))
  capability {r r' : Registry} {b : Body} {c : ClassInfo} {qualname : String} {verb : Option Verb}
    {marked : Bool} (name : String) (held : B r b)
    (done : (defineCapability module qualname verb marked : StateT Registry (Except φ) _) r
      = .ok (c, r')) :
    R r r' ∧ B r' (b.set name (.value (.cls c.ref)))
  settle {r r' : Registry} {b : Body} {c : ClassInfo} {qualname : String} {base : Option ClassInfo}
    {segment : Option String} {refusal : Option NodeCheck} (held : B r b)
    (found : ∀ k, base = some k → ∃ n, r.named? n = some k)
    (done : settle fault module qualname base segment refusal b r = .ok (c, r')) :
    R r r' ∧ ∀ b', B r' b' → B r' (b'.set c.ref.name (.value (.cls c.ref)))

namespace DefinitionRule

variable {R : Registry → Registry → Prop} {B : Registry → Body → Prop}

mutual
/-- **What holds of each member holds of the definition.** -/
theorem define (rule : DefinitionRule evaluate fault module R B) (d : Definition ε)
    {outer : Option String} {r r' : Registry} {c : ClassInfo} (held : B r {})
    (h : Api.define evaluate fault module outer d r = .ok (c, r')) :
    R r r' ∧ ∀ b, B r' b → B r' (b.set c.ref.name (.value (.cls c.ref))) := by
  match d with
  | .mk name base segment refusal members =>
    rw [Api.define] at h
    -- the members first, then the base, then the class itself
    obtain ⟨body, r₁, hbody, hlater⟩ := run_bind_eq_ok h
    obtain ⟨found, r₂, hfound, hsettle⟩ := run_bind_eq_ok hlater
    obtain ⟨rfl, hbase⟩ := baseOf_eq_ok hfound
    obtain ⟨hread, hheld⟩ := rule.defineMembers members held hbody
    have hnamed : ∀ k, found = some k → ∃ n, r₂.named? n = some k := by
      intro k hk
      obtain ⟨n, -, hn⟩ := hbase k hk
      exact ⟨n, hn⟩
    obtain ⟨hsettled, hset⟩ := rule.settle hheld hnamed hsettle
    exact ⟨rule.trans hread hsettled, hset⟩

theorem defineMembers (rule : DefinitionRule evaluate fault module R B) (members : List (Member ε))
    {path : String} {r r' : Registry} {b b' : Body} (held : B r b)
    (h : Api.defineMembers evaluate fault module path members b r = .ok (b', r')) :
    R r r' ∧ B r' b' := by
  match members with
  | [] =>
    rw [Api.defineMembers] at h
    cases h
    exact ⟨rule.refl r, held⟩
  | .field name none :: rest =>
    rw [Api.defineMembers] at h
    exact rule.defineMembers rest (rule.declare name held) h
  | .field name (some e) :: rest =>
    rw [Api.defineMembers] at h
    obtain ⟨v, r₁, hv, h⟩ := run_bind_eq_ok h
    obtain ⟨hhere, hheld⟩ := rule.value name (rule.declare name held) hv
    obtain ⟨hrest, hlast⟩ := rule.defineMembers rest hheld h
    exact ⟨rule.trans hhere hrest, hlast⟩
  | .parent name :: rest =>
    rw [Api.defineMembers] at h
    exact rule.defineMembers rest (rule.mark name (rule.declare name held)) h
  | .nested definition :: rest =>
    rw [Api.defineMembers] at h
    obtain ⟨c, r₁, hc, h⟩ := run_bind_eq_ok h
    -- the nested class has a body of its own; the one around it is taken up again afterwards
    obtain ⟨hhere, hset⟩ := rule.define definition (rule.empty held) hc
    obtain ⟨hrest, hlast⟩ := rule.defineMembers rest (hset b (rule.mono hhere held)) h
    exact ⟨rule.trans hhere hrest, hlast⟩
  | .capability name verb marked :: rest =>
    rw [Api.defineMembers] at h
    obtain ⟨c, r₁, hc, h⟩ := run_bind_eq_ok h
    obtain ⟨hhere, hheld⟩ := rule.capability name held hc
    obtain ⟨hrest, hlast⟩ := rule.defineMembers rest hheld h
    exact ⟨rule.trans hhere hrest, hlast⟩
  | .attribute name e :: rest =>
    rw [Api.defineMembers] at h
    obtain ⟨v, r₁, hv, h⟩ := run_bind_eq_ok h
    obtain ⟨hhere, hheld⟩ := rule.value name held hv
    obtain ⟨hrest, hlast⟩ := rule.defineMembers rest hheld h
    exact ⟨rule.trans hhere hrest, hlast⟩
end

end DefinitionRule

end Waymark.Api

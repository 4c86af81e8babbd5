import Mathlib.Data.List.Chain
import Waymark.Proofs.FieldPlacement
import Waymark.Proofs.ParentLinks

/-! # Nodes that have a route

    When a node is made, its parent is checked to be an instance of the class around its own, as
    that was known then. A route asks for more: each node on the chain must be of a class that is
    itself a resource, and an instance of a class that extends one need not be.

    * The nodes of a chain hang from each other. Each was made of a class
      (`Registry.MadeOf`), and where the class had a parent, the next one on the chain is an
      instance of it (`Registry.Attached`). The last one has no field for a parent.
    * A value is on a route if it was made of a resource (`Registry.ofResource_iff`).

    The main result is `session_routable_iff`: which nodes have a route and a query.
-/

namespace Waymark.Api

namespace Registry

variable {r r' : Registry} {c : ClassInfo} {v above : Value}

/-- The value has been made of the class, as it was then. -/
inductive MadeOf : Registry → Value → ClassInfo → Prop
  | make {r r' : Registry} {c : ClassInfo} {given : List (String × Value)} {v : Value}
    (there : r.info? c.ref.serial = some c) (made : r.make c given = .ok (r', v)) : MadeOf r' v c
  | later {r r' : Registry} {c : ClassInfo} {v : Value} (before : MadeOf r v c)
    (grows : r.Grows r') : MadeOf r' v c

/-- The node hangs from the other one. If it was made of a resource that had a parent, the other
    one is an instance of that. -/
def Attached (r : Registry) (node above : Value) : Prop :=
  r.Hangs node above ∧ ∃ c, r.MadeOf node c ∧
    (c.isResource = true → ∀ outer, c.parent = some outer → r.isInstance above outer = true)

/-- The value is a node of a class that is itself a resource. -/
def OfResource (r : Registry) (v : Value) : Prop :=
  ∃ segment, r.HasSegment v segment

/-! ## What nodes are made of -/

theorem Made.exists_madeOf (h : r.Made v) : ∃ c, r.MadeOf v c := by
  induction h with
  | make _ there made _ _ => exact ⟨_, .make there made⟩
  | later _ grows ih =>
    obtain ⟨c, hc⟩ := ih
    exact ⟨c, .later hc grows⟩

/-- The class of which a node has been made is still that of the node. -/
theorem MadeOf.info? {ref : ClassRef} {serial : Nat} {fields : List (String × Value)}
    (h : r.MadeOf (.node ref serial fields) c) :
    ref = c.ref ∧ ∃ parent, r.info? ref.serial = some { c with parent } := by
  generalize hv : Value.node ref serial fields = v at h
  induction h with
  | make there made =>
    subst hv
    obtain ⟨hclasses, rfl, -⟩ := make_eq_ok made
    exact ⟨rfl, grows_of_classes_eq hclasses _ _ there⟩
  | later _ grows ih =>
    obtain ⟨href, parent, hparent⟩ := ih hv
    obtain ⟨parent', hparent'⟩ := grows _ _ hparent
    exact ⟨href, parent', hparent'⟩

/-- What has been made of a resource is a node. -/
theorem MadeOf.exists_node (h : r.MadeOf v c) (hc : c.isResource = true) :
    ∃ serial fields, v = .node c.ref serial fields := by
  induction h with
  | make _ made =>
    cases (make_eq_iff hc).mp made with
    | made => exact ⟨_, _, rfl⟩
  | later _ _ ih => exact ih hc

/-- **A value is a node of a resource exactly if it has been made of one.** -/
theorem ofResource_iff (h : ∀ ref serial fields, v = .node ref serial fields → r.Made v) :
    r.OfResource v ↔ ∃ c, r.MadeOf v c ∧ c.isResource = true := by
  constructor
  · rintro ⟨segment, k, fields, hstands⟩
    cases hstands with
    | intro hclass hsegment =>
      obtain ⟨c, hc⟩ := (h _ _ _ rfl).exists_madeOf
      obtain ⟨-, parent, hparent⟩ := hc.info?
      obtain rfl := Option.some.inj (hparent.symm.trans hclass)
      exact ⟨c, hc, Option.isSome_iff_exists.mpr ⟨segment, hsegment⟩⟩
  · rintro ⟨c, hc, hresource⟩
    obtain ⟨serial, fields, rfl⟩ := hc.exists_node hresource
    obtain ⟨-, parent, hparent⟩ := hc.info?
    obtain ⟨segment, hsegment⟩ := Option.isSome_iff_exists.mp hresource
    exact ⟨segment, _, fields, .intro hparent hsegment⟩

/-- An instance of a class stays one. -/
theorem Grows.isInstance (h : r.Grows r') {outer : ClassRef} (hv : r.isInstance v outer = true) :
    r'.isInstance v outer = true := by
  have hclass : ∀ k, r.classOf? v = some k → ∃ parent, r'.classOf? v = some { k with parent } := by
    intro k hk
    unfold classOf? at hk ⊢
    split at hk
    · exact h _ _ hk
    · exact h _ _ hk
    · cases hk
  unfold Registry.isInstance at hv ⊢
  obtain ⟨k, hk, hdescends⟩ := (Option.any_eq_true _ _).mp hv
  obtain ⟨parent, hk'⟩ := hclass k hk
  refine (Option.any_eq_true _ _).mpr ⟨_, hk', ?_⟩
  -- the classes that it extends are all there, under the numbers that they had
  unfold descends lineage at hdescends ⊢
  rw [List.any_cons, Bool.or_eq_true, List.any_eq_true] at hdescends ⊢
  refine hdescends.imp id ?_
  rintro ⟨a, ha, hsame⟩
  obtain ⟨serial, hserial, ha⟩ := List.mem_filterMap.mp ha
  obtain ⟨above, ha'⟩ := h _ _ ha
  exact ⟨_, List.mem_filterMap.mpr ⟨serial, hserial, ha'⟩, hsame⟩

/-- A node that has been made of a resource with a parent holds an instance of the parent. -/
theorem MadeOf.isInstance {serial : Nat} {fields : List (String × Value)}
    (h : r.MadeOf (.node c.ref serial fields) c) (hc : c.isResource = true) {outer : ClassRef}
    (houter : c.parent = some outer) {f : NodeField}
    (hf : c.fields.find? NodeField.isParent = some f) (habove : fields.lookup f.name = some above) :
    r.isInstance above outer = true := by
  generalize hv : Value.node c.ref serial fields = v at h
  induction h with
  | @make r r' c given v there made =>
    subst hv
    have hclasses := (make_eq_ok made).1
    cases (make_eq_iff hc).mp made with
    | made _ _ seated _ =>
      have hinstance := seated outer f above houter (parentField?_of_isResource hc ▸ hf) habove
      exact (grows_of_classes_eq hclasses).isInstance hinstance
  | later _ grows ih => exact grows.isInstance (ih hc houter hf hv)

/-- A node is attached to what it hangs from. -/
theorem Made.attached (hmade : r.Made v) (h : r.Hangs v above) : r.Attached v above := by
  refine ⟨h, ?_⟩
  obtain ⟨c, hc⟩ := hmade.exists_madeOf
  refine ⟨c, hc, fun hresource outer houter => ?_⟩
  obtain ⟨ref, serial, fields, name, rfl, hup, habove⟩ := h
  obtain ⟨rfl, parent, hparent⟩ := hc.info?
  -- the field that leads up is the one that was checked
  have hfield : r.parentField? { c with parent } = c.fields.find? NodeField.isParent :=
    parentField?_of_isResource hresource
  unfold upField? at hup
  rw [hparent, Option.bind_some, hfield] at hup
  obtain ⟨f, hf, rfl⟩ := Option.map_eq_some_iff.mp hup
  exact hc.isInstance hresource houter hf habove

/-! ## Chains -/

theorem head?_chain (r : Registry) (v : Value) : (r.chain v).head? = some v := by
  cases v <;> rw [chain] <;> first | rfl | (intro _ _ _ h; cases h)

/-- A value hangs from nothing if it is alone on its chain. -/
theorem not_hangs_of_chain_eq (h : r.chain v = [v]) : ¬ r.Hangs v above := by
  intro hhangs
  rw [hhangs.chain_eq] at h
  exact chain_ne_nil r above (List.cons.inj h).2

/-- A value is alone on its chain, or hangs from another one. -/
theorem chain_eq_or_hangs (h : ∀ ref serial fields, v = .node ref serial fields → r.Made v) :
    r.chain v = [v] ∨ ∃ above, r.Hangs v above := by
  cases v with
  | node ref serial fields =>
    cases (h _ _ _ rfl).whole with
    | @intro c declared there _ hdeclared hnames =>
      cases hup : r.upField? ref with
      | none =>
        rw [chain, hup]
        exact .inl rfl
      | some name =>
        -- the field is one of the class, and has a value
        have hfield : name ∈ declared.map NodeField.name := by
          unfold upField? parentField? at hup
          rw [there, Option.bind_some, hdeclared, Option.bind_some] at hup
          obtain ⟨f, hf, rfl⟩ := Option.map_eq_some_iff.mp hup
          exact List.mem_map_of_mem (List.mem_of_find?_eq_some hf)
        obtain ⟨entry, hentry, rfl⟩ := List.mem_map.mp (hnames ▸ hfield)
        have hsome : (fields.lookup entry.1).isSome = true :=
          List.lookup_isSome_iff.mpr ⟨entry, hentry, by simp⟩
        obtain ⟨above, habove⟩ := Option.isSome_iff_exists.mp hsome
        exact .inr ⟨above, ref, serial, fields, entry.1, rfl, hup, habove⟩
  | _ =>
    rw [chain]
    · exact .inl rfl
    · intro _ _ _ heq
      cases heq

/-- **Along a chain each node is attached to the next**, and the last value hangs from nothing. -/
theorem isChain_attached (h : ∀ ref serial fields, v = .node ref serial fields → r.Made v) :
    List.IsChain r.Attached (r.chain v) ∧
      ∀ last, (r.chain v).getLast? = some last → ∀ above, ¬ r.Hangs last above := by
  -- by the length of the chain, since what the value hangs from has a shorter one
  induction hlength : (r.chain v).length generalizing v with
  | zero => exact absurd (List.length_eq_zero_iff.mp hlength) (chain_ne_nil r v)
  | succ n ih =>
    rcases chain_eq_or_hangs h with halone | ⟨above, hhangs⟩
    · rw [halone]
      refine ⟨.singleton v, fun last hlast other => ?_⟩
      obtain rfl := Option.some.inj hlast
      exact not_hangs_of_chain_eq halone
    · have hmade : r.Made v := by
        obtain ⟨ref, serial, fields, -, heq, -⟩ := hhangs
        exact h ref serial fields heq
      have habove : ∀ ref serial fields, above = .node ref serial fields → r.Made above := by
        rintro ref serial fields rfl
        obtain ⟨_, _, _, _, rfl, -, hlookup⟩ := hhangs
        obtain ⟨before, after, rfl, -⟩ := List.lookup_eq_some_iff.mp hlookup
        exact hmade.part List.mem_append_cons_self
      rw [hhangs.chain_eq, List.length_cons] at hlength
      obtain ⟨hchain, hlast⟩ := ih habove (Nat.succ.inj hlength)
      rw [hhangs.chain_eq]
      refine ⟨List.isChain_cons.mpr ⟨fun next hnext => ?_, hchain⟩, fun last hend => hlast last ?_⟩
      · rw [head?_chain] at hnext
        obtain rfl := Option.some.inj hnext
        exact hmade.attached hhangs
      · rw [List.getLast?_cons_of_ne_nil (chain_ne_nil r above)] at hend
        exact hend

/-! ## Routes and queries -/

/-- What is made of something is there exactly if this is. -/
theorem exists_return_iff {ε α β : Type} {x : Except ε α} {f : α → β} :
    (∃ b, (do return f (← x)) = Except.ok b) ↔ ∃ a, x = .ok a := by
  cases x with
  | error fault => simp [bind, Except.bind]
  | ok a => simp [bind, Except.bind, pure, Except.pure]

/-- A value has a route exactly if all that is on its chain is a node of a resource. -/
theorem exists_route_iff (h : ∀ ref serial fields, v = .node ref serial fields → r.Made v)
    (hnames : ∀ node ∈ r.chain v, r.NamesFields node) :
    (∃ path, r.route v = .ok path) ↔ ∀ node ∈ r.chain v, r.OfResource node := by
  unfold route
  rw [exists_return_iff, exists_mapM_iff]
  refine forall₂_congr fun node hnode => ⟨?_, ?_⟩
  · rintro ⟨text, htext⟩
    obtain ⟨k, fields, segment, hstands, -⟩ := segmentText_eq_ok_iff.mp htext
    exact ⟨segment, k, fields, hstands⟩
  · rintro ⟨segment, hsegment⟩
    -- each node of the chain was made, as the one at its end was
    have hmade : r.Made node := by
      obtain ⟨k, fields, hstands⟩ := hsegment
      cases hstands with
      | intro => exact Made.of_mem_chain v (fun _ _ _ heq => heq ▸ h _ _ _ heq) hnode
    obtain ⟨text, htext, -⟩ := exists_segmentText hmade hsegment (hnames node hnode)
    exact ⟨text, htext⟩

/-- A value adds a part to a query exactly if it is a node of a resource. -/
theorem exists_queryPart_iff :
    (r.hasFields v = true ∧ ∃ part, r.queryPart v = .ok part) ↔ r.OfResource v := by
  constructor
  · rintro ⟨-, part, hpart⟩
    unfold queryPart at hpart
    split at hpart
    · next k ref serial values hclass =>
      split at hpart
      · cases hpart
      · next segment hsegment => exact ⟨segment, k, values, .intro hclass hsegment⟩
    · cases hpart
  · rintro ⟨segment, k, fields, hstands⟩
    -- a resource has fields of its own, which are its query
    cases hstands with
    | intro hclass hsegment =>
      have hresource : k.isResource = true := Option.isSome_iff_exists.mpr ⟨segment, hsegment⟩
      refine ⟨?_, ?_⟩
      · unfold hasFields fields?
        rw [hclass, Option.bind_some, resource?_of_isResource hresource]
        rfl
      · unfold queryPart
        rw [hclass]
        dsimp only
        rw [hsegment]
        exact ⟨_, rfl⟩

/-- A value has a query exactly if all that is on its chain is a node of a resource, or none. -/
theorem exists_query_iff :
    (∃ params, r.query v = .ok params) ↔
      ∀ node ∈ r.chain v, node = .none ∨ r.OfResource node := by
  have hnone : ∀ node : Value, (!node.isNone) = true ↔ node ≠ .none := by
    intro node
    cases node <;> simp [Value.isNone]
  -- the query leaves a last none out and looks at everything else
  have hquery : (∃ params, r.query v = .ok params) ↔
      ∀ node ∈ (r.chain v).filter (fun node => !node.isNone),
        r.hasFields node = true ∧ ∃ part, r.queryPart node = .ok part := by
    unfold query
    dsimp only
    split
    · next hall =>
      rw [List.all_eq_true] at hall
      rw [exists_return_iff, exists_mapM_iff]
      simp only [List.mem_reverse]
      exact forall₂_congr fun node hnode => (and_iff_right (hall node hnode)).symm
    · next hnot =>
      refine iff_of_false (by simp) fun hall => hnot (List.all_eq_true.mpr fun node hnode => ?_)
      exact (hall node hnode).1
  rw [hquery]
  simp only [List.mem_filter, hnone, exists_queryPart_iff, and_imp]
  refine forall₂_congr fun node _ => ?_
  rw [← or_iff_not_imp_left]

end Registry

open Registry

/-! ## Sessions -/

section

variable {ε φ : Type}

/-- The value is a node that holds the other one in a field. -/
def Holds (v inner : Value) : Prop :=
  ∃ ref serial fields name, v = .node ref serial fields ∧ (name, inner) ∈ fields

/-- Classes are defined and instances are made, one after the other. The nodes that an instance
    holds have been made before it. -/
inductive Session (evaluate : ε → StateT Registry (Except φ) Value) (fault : DefinitionFault → φ)
    (module : String) : Registry → List Value → Prop
  | start : Session evaluate fault module {} []
  | define {r r' : Registry} {made : List Value} {d : Definition ε} {c : ClassInfo}
    (before : Session evaluate fault module r made)
    (done : Api.define evaluate fault module none d r = .ok (c, r')) :
    Session evaluate fault module r' made
  | make {r r' : Registry} {made : List Value} {c : ClassInfo} {given : List (String × Value)}
    {v : Value} (before : Session evaluate fault module r made) (there : r.Has c)
    (done : r.make c given = .ok (r', v))
    (parts : ∀ ref serial fields, Holds v (.node ref serial fields) →
      .node ref serial fields ∈ made) :
    Session evaluate fault module r' (v :: made)

variable {evaluate : ε → StateT Registry (Except φ) Value} {fault : DefinitionFault → φ}
  {module : String} {r : Registry} {made : List Value} {v : Value}

/-- All nodes of a session have been made in it. -/
theorem Session.all_made (hevaluate : ∀ e r v r', evaluate e r = .ok (v, r') → r.Keeps r')
    (h : Session evaluate fault module r made) :
    r.Sound ∧ ∀ v ∈ made, ∀ ref serial fields, v = .node ref serial fields → r.Made v := by
  induction h with
  | start => exact ⟨sound_empty, fun v hv => absurd hv List.not_mem_nil⟩
  | define _ done ih =>
    have hkeeps := keeps_define hevaluate _ done
    exact ⟨hkeeps.sound ih.1, fun v hv _ _ _ heq => .later (ih.2 v hv _ _ _ heq) hkeeps.grows⟩
  | make _ there done parts ih =>
    have hkeeps := keeps_of_classes_eq (classes_of_make done)
    refine ⟨hkeeps.sound ih.1, fun v hv => ?_⟩
    rcases List.mem_cons.mp hv with rfl | hv
    -- the nodes among its fields were made before it
    · rintro ref serial fields rfl
      refine .make ih.1 there done fun name inner number values hpart => ?_
      exact ih.2 _ (parts _ _ _ ⟨_, _, _, name, rfl, hpart⟩) _ _ _ rfl
    · exact fun _ _ _ heq => .later (ih.2 v hv _ _ _ heq) hkeeps.grows

/-- **Which nodes have a route**, after any sequence of definitions and constructions. From each
    node a chain leads to a value that hangs from nothing, and each node on it that was made of a
    resource with a parent hangs from an instance of the parent. The node has a route exactly if
    all that is on its chain was made of resources, and a query exactly if nothing else is there,
    unless it is none. -/
theorem session_routable_iff (hevaluate : ∀ e r v r', evaluate e r = .ok (v, r') → r.Keeps r')
    (h : Session evaluate fault module r made) (hv : v ∈ made)
    (hnames : ∀ node ∈ r.chain v, r.NamesFields node) :
    (r.chain v).head? = some v ∧ List.IsChain r.Attached (r.chain v) ∧
      (∀ last, (r.chain v).getLast? = some last → ∀ above, ¬ r.Hangs last above) ∧
      ((∃ path, r.route v = .ok path) ↔
        ∀ node ∈ r.chain v, ∃ c, r.MadeOf node c ∧ c.isResource = true) ∧
      ((∃ params, r.query v = .ok params) ↔
        ∀ node ∈ r.chain v, node = .none ∨ ∃ c, r.MadeOf node c ∧ c.isResource = true) := by
  have hmade := (h.all_made hevaluate).2 v hv
  have hparts : ∀ node ∈ r.chain v, ∀ ref serial fields, node = .node ref serial fields →
      r.Made node := by
    rintro node hnode ref serial fields rfl
    exact Made.of_mem_chain v (fun _ _ _ heq => heq ▸ hmade _ _ _ heq) hnode
  obtain ⟨hchain, hlast⟩ := isChain_attached hmade
  refine ⟨head?_chain r v, hchain, hlast, ?_, ?_⟩
  · rw [exists_route_iff hmade hnames]
    exact forall₂_congr fun node hnode => ofResource_iff (hparts node hnode)
  · rw [exists_query_iff]
    exact forall₂_congr fun node hnode => or_congr_right (ofResource_iff (hparts node hnode))

end

/-! ## Stops of a branch -/

namespace Sample

/-- A branch of a line is a line, but no resource itself. -/
def branchDefinition : Definition String :=
  .mk "Branch" (some "Line") none none []

def branch : ClassInfo :=
  { ref := ⟨2, "app.api", "Branch", "type"⟩, ancestors := [1] }

def branches : Registry :=
  { classes := [stop, line, branch] }

/-- The registries after two nodes have been made. -/
def usedLines : Registry :=
  { lines with objects := 2 }

def usedBranches : Registry :=
  { branches with objects := 2 }

def branchNode : Value :=
  .node branch.ref 0 []

def stopNode (above : Value) : Value :=
  .node stop.ref 1 [("line", above)]

theorem keeps_named (name : String) (r : Registry) (v : Value) (r' : Registry)
    (h : named name r = .ok (v, r')) : r.Keeps r' := by
  unfold named at h
  split at h
  · cases h
    exact keeps_refl _
  · cases h

theorem define_branch :
    define named id "app.api" none branchDefinition lines = .ok (branch, branches) := by
  cbv

/-- A stop that is made over the first node. -/
theorem session_stop {r : Registry} {c : ClassInfo} (h : Session named id "app.api" r [])
    (hc : r.Has c) (hstop : r.Has stop)
    (hmake : r.make c [] = .ok ({ r with objects := 1 }, .node c.ref 0 []))
    (hover : ({ r with objects := 1 } : Registry).make stop [("line", .node c.ref 0 [])]
      = .ok ({ r with objects := 2 }, stopNode (.node c.ref 0 []))) :
    Session named id "app.api" { r with objects := 2 }
      [stopNode (.node c.ref 0 []), .node c.ref 0 []] := by
  have hfirst : Session named id "app.api" { r with objects := 1 } [.node c.ref 0 []] :=
    .make h hc hmake fun _ _ _ hpart => by
      obtain ⟨_, _, _, _, heq, hpart⟩ := hpart
      cases heq
      cases hpart
  refine .make (r := { r with objects := 1 }) hfirst hstop hover fun _ _ _ hpart => ?_
  obtain ⟨_, _, _, _, heq, hpart⟩ := hpart
  cases heq
  cases List.mem_singleton.mp hpart
  exact List.mem_singleton_self _

theorem session_lines : Session named id "app.api" usedLines [stopNode lineNode, lineNode] :=
  session_stop (.define .start define_line) rfl rfl rfl rfl

theorem session_branches :
    Session named id "app.api" usedBranches [stopNode branchNode, branchNode] :=
  session_stop (.define (.define .start define_line) define_branch) rfl rfl rfl rfl

/-- Where no class has placeholders, all of them are names of fields. -/
theorem namesFields_of_none {r : Registry}
    (h : ∀ k ∈ r.classes, placeholders (k.segment.getD "") = []) (node : Value) :
    r.NamesFields node := by
  intro k fields segment hstands name hname
  cases hstands with
  | intro hclass hsegment =>
    have hnone := h k (List.mem_of_getElem? hclass)
    rw [hsegment, Option.getD_some] at hnone
    rw [← mem_placeholders_iff, hnone] at hname
    cases hname

end Sample

open Api.Sample in
/-- A stop of a line has a route and a query. -/
theorem session_routable_iff_sample :
    Session named id "app.api" usedLines [stopNode lineNode, lineNode] ∧
      (∃ path, usedLines.route (stopNode lineNode) = .ok path) ∧
      ∃ params, usedLines.query (stopNode lineNode) = .ok params := by
  have hmade : ∀ node ∈ [stopNode lineNode, lineNode],
      ∃ c, usedLines.MadeOf node c ∧ c.isResource = true := by
    have hline : ({ lines with objects := 1 } : Registry).MadeOf lineNode line :=
      .make (r := lines) rfl (rfl : lines.make line [] = _)
    have hstop : usedLines.MadeOf (stopNode lineNode) stop :=
      .make (r := { lines with objects := 1 }) rfl
        (rfl : ({ lines with objects := 1 } : Registry).make stop [("line", lineNode)] = _)
    intro node hnode
    rcases List.mem_cons.mp hnode with rfl | hnode
    · exact ⟨stop, hstop, rfl⟩
    · obtain rfl := List.mem_singleton.mp hnode
      exact ⟨line, hline.later (grows_of_classes_eq rfl), rfl⟩
  obtain ⟨-, -, -, hroute, hquery⟩ := session_routable_iff keeps_named session_lines
    List.mem_cons_self fun node _ => namesFields_of_none (by decide) node
  exact ⟨session_lines, hroute.mpr hmade, hquery.mpr fun node hnode => .inr (hmade node hnode)⟩

open Api.Sample in
/-- A stop can be made over a branch of its line, and then has no route and no query. -/
theorem Sample.stop_of_branch_has_no_route :
    Session named id "app.api" usedBranches [stopNode branchNode, branchNode] ∧
      stop.parent = some line.ref ∧ (∀ node, usedBranches.NamesFields node) ∧
      usedBranches.route (stopNode branchNode) = .error (.notResource "Branch") ∧
      usedBranches.query (stopNode branchNode) = .error .noSegment :=
  ⟨session_branches, rfl, namesFields_of_none (by decide), by cbv, by cbv⟩

end Waymark.Api

import Mathlib.Data.List.Forall2
import Waymark.Proofs.RouteForm

/-! # Where fields are sent

    A request carries the fields of all nodes on a chain, each of them in one place only: in the
    route if a placeholder of the node's own segment goes by its name, and in the query otherwise
    (`Placed`). The route and the query are made in different ways, and here they are taken
    together node by node (`Sent`), so that fields of the same name in other nodes make no
    difference.

    The main result is `Registry.fields_sent_once`: whenever a node that has been made has a route,
    it has a query as well, and both are what the fields on its chain come to, from the outermost
    node inwards and in the order of the fields.
-/

namespace Waymark.Api

/-- The values that a value holds one after the other, if it is a collection. -/
def itemsOf? : Value → Option (List Value)
  | .list items => some items
  | .tuple items => some items
  | .set _ items => some items
  | _ => none

/-- What a field with a value adds to the query, where the node has the segment. -/
inductive Placed (segment : String) (v : Value) (f : NodeField) : List (String × String) → Prop
  | parent (above : f.isParent = true) : Placed segment v f []
  | path (own : f.isParent = false) (used : HasPlaceholder segment f.name) : Placed segment v f []
  | missing (own : f.isParent = false) (unused : ¬ HasPlaceholder segment f.name)
    (nothing : v = .none) : Placed segment v f []
  | each {items : List Value} (own : f.isParent = false)
    (unused : ¬ HasPlaceholder segment f.name) (held : itemsOf? v = some items) :
    Placed segment v f (items.map fun item => (f.name, routeText item))
  | one (own : f.isParent = false) (unused : ¬ HasPlaceholder segment f.name)
    (something : v ≠ .none) (single : itemsOf? v = none) :
    Placed segment v f [(f.name, routeText v)]

namespace Registry

/-- The node's segment is filled with what the node has itself, of which its fields are a part,
    and the fields one after the other add to the query. -/
inductive Sent (r : Registry) : Value → String → List (String × String) → Prop
  | intro {node : Value} {c : ClassInfo} {fields : List (String × Value)} {segment text : String}
    {declared : List NodeField} {parts : List (List (String × String))}
    (stands : r.Stands node c fields segment) (ofClass : r.fields? c = some declared)
    (filled : Fills (r.member? c fields) segment.toList text.toList)
    (placed : List.Forall₂ (fun f part => ∃ value, fields.lookup f.name = some value ∧
      r.member? c fields f.name = some value ∧ Placed segment value f part) declared parts) :
    Sent r node text parts.flatten

variable {r : Registry} {node v : Value} {text path : String}

/-- A field that takes part in the query is listed by its value. -/
theorem placed_entriesOf {segment : String} {f : NodeField} (value : Value)
    (own : f.isParent = false) (unused : ¬ HasPlaceholder segment f.name) :
    Placed segment value f (entriesOf f.name value) := by
  cases value with
  | none => exact .missing own unused rfl
  | list items => exact .each own unused rfl
  | tuple items => exact .each own unused rfl
  | set kind items => exact .each own unused rfl
  | _ => exact .one own unused (by simp) rfl

/-- What a field of a node with these fields adds to the query. -/
def partOf (segment : String) (fields : List (String × Value)) (f : NodeField) :
    List (String × String) :=
  if f.isParent || (placeholders segment).contains f.name then []
  else entriesOf f.name ((fields.lookup f.name).getD .none)

theorem placed_partOf {segment : String} {fields : List (String × Value)} {f : NodeField}
    {value : Value} (hvalue : fields.lookup f.name = some value) :
    Placed segment value f (partOf segment fields f) := by
  unfold partOf
  cases hparent : f.isParent with
  | true =>
    rw [Bool.true_or, if_pos rfl]
    exact .parent hparent
  | false =>
    rw [Bool.false_or]
    by_cases hused : f.name ∈ placeholders segment
    · rw [if_pos (List.contains_iff_mem.mpr hused)]
      exact .path hparent (mem_placeholders_iff.mp hused)
    · rw [if_neg (mt List.contains_iff_mem.mp hused), hvalue, Option.getD_some]
      exact placed_entriesOf value hparent (mt mem_placeholders_iff.mpr hused)

/-- A node whose segment has a text has a part of the query as well. -/
theorem exists_sent (hmade : r.Made node) (htext : r.segmentText node = .ok text) :
    ∃ part, r.queryPart node = .ok part ∧ r.hasFields node = true ∧ r.Sent node text part := by
  obtain ⟨c, fields, segment, hstands, hfills⟩ := segmentText_eq_ok_iff.mp htext
  have hstands' := hstands
  cases hstands with
  | @intro ref serial _ _ _ hclass hsegment =>
    cases hmade.whole with
    | @intro c' declared there above hdeclared hnames =>
      obtain rfl : c' = c := Option.some.inj (there.symm.trans hclass)
      -- each declared field has a value, which stands in the segment or in the query
      have hplaced : List.Forall₂ (fun f part => ∃ value, fields.lookup f.name = some value ∧
          r.member? c' fields f.name = some value ∧ Placed segment value f part)
          declared (declared.map (partOf segment fields)) := by
        rw [List.forall₂_map_right_iff, List.forall₂_same]
        intro f hf
        obtain ⟨value, hvalue⟩ := Option.isSome_iff_exists.mp
          (hmade.isSome_lookup hstands' hdeclared hf)
        exact ⟨value, hvalue, member?_of_lookup hvalue, placed_partOf hvalue⟩
      refine ⟨_, ?_, ?_, .intro hstands' hdeclared hfills hplaced⟩
      · unfold queryPart
        rw [hclass]
        dsimp only
        rw [hsegment, hdeclared]
        rfl
      · unfold hasFields
        rw [hclass, Option.bind_some, hdeclared]
        rfl

/-- Items that correspond, each together with what comes of it. -/
theorem exists_pairs {α β γ : Type} {R : α → β → γ → Prop} {xs : List α} {ys : List β}
    (h : List.Forall₂ (fun x y => ∃ z, R x y z) xs ys) :
    ∃ pairs : List (β × γ), List.Forall₂ (fun x pair => R x pair.1 pair.2) xs pairs ∧
      pairs.map Prod.fst = ys := by
  induction h with
  | nil => exact ⟨[], .nil, rfl⟩
  | cons hfirst _ ih =>
    obtain ⟨z, hz⟩ := hfirst
    obtain ⟨later, hlater, rfl⟩ := ih
    exact ⟨(_, z) :: later, .cons hz hlater, rfl⟩

/-- A query is made of the parts that the nodes of a chain contribute. -/
theorem query_of_forall₂ {parts : List (List (String × String))}
    (hchain : ∀ node ∈ r.chain v, node.isNone = false ∧ r.hasFields node = true)
    (hparts : List.Forall₂ (fun node part => r.queryPart node = .ok part) (r.chain v).reverse parts) :
    r.query v = .ok parts.flatten := by
  have hkeep : (r.chain v).filter (fun node => !node.isNone) = r.chain v :=
    List.filter_eq_self.mpr fun node hnode => by rw [(hchain node hnode).1]; rfl
  have hall : (r.chain v).all r.hasFields = true :=
    List.all_eq_true.mpr fun node hnode => (hchain node hnode).2
  unfold query
  simp only [hkeep, hall, if_true]
  rw [mapM_of_forall₂ _ hparts]
  rfl

/-- **Every field is sent in one place.** Where a node that has been made has a route, it has a
    query too. The route is made of the segments on its chain, each filled from its own node, and
    the query is made of what the fields of these nodes add to it, the outermost node first and
    each with its fields in order. -/
theorem fields_sent_once (hmade : r.Made v) (hroute : r.route v = .ok path) :
    ∃ sent : List (String × List (String × String)),
      List.Forall₂ (fun node s => r.Sent node s.1 s.2) (r.chain v).reverse sent ∧
        path = Route.normal (sent.map Prod.fst) ∧ r.query v = .ok (sent.flatMap Prod.snd) := by
  unfold route at hroute
  cases hmap : (r.chain v).mapM r.segmentText with
  | error fault =>
    rw [hmap] at hroute
    cases hroute
  | ok texts =>
    rw [hmap] at hroute
    obtain rfl := Except.ok.inj hroute
    -- every node of the chain that has a text was made, and so has a part of the query
    have hnode : ∀ node ∈ r.chain v, ∀ text ∈ texts, r.segmentText node = .ok text →
        ∃ part, r.queryPart node = .ok part ∧ (node.isNone = false ∧ r.hasFields node = true) ∧
          r.Sent node text part := by
      intro node hmem text _ htext
      have hmade' : r.Made node := by
        obtain ⟨c, fields, segment, hstands, -⟩ := segmentText_eq_ok_iff.mp htext
        cases hstands with
        | intro => exact Made.of_mem_chain v (fun ref serial fields heq => heq ▸ hmade) hmem
      obtain ⟨part, hpart, hfields, hsent⟩ := exists_sent hmade' htext
      obtain ⟨ref, serial, fields, rfl⟩ := hmade'.exists_node
      exact ⟨part, hpart, ⟨rfl, hfields⟩, hsent⟩
    have hsent := forall₂_imp_of_mem (forall₂_of_mapM hmap) hnode
    have hne : texts ≠ [] := by
      rintro rfl
      exact chain_ne_nil r v (List.forall₂_nil_right_iff.mp hsent)
    have hchain : ∀ node ∈ r.chain v, node.isNone = false ∧ r.hasFields node = true := by
      intro node hmem
      obtain ⟨text, -, part, -, hthere, -⟩ :=
        exists_left_of_forall₂ (List.Forall₂.flip (R := flip _) hsent) hmem
      exact hthere
    obtain ⟨sent, hall, htexts⟩ := exists_pairs hsent
    -- the chain goes up, routes and queries go down
    have hback := List.forall₂_reverse_iff.mpr hall
    refine ⟨sent.reverse, hback.imp fun _ _ h => h.2.2, ?_, ?_⟩
    · rw [List.map_reverse, htexts, Route.ofSegments_eq_normal (by simpa using hne)]
    · rw [List.flatMap_def]
      refine query_of_forall₂ hchain ?_
      rw [List.forall₂_map_right_iff]
      exact hback.imp fun _ _ h => h.1

/-- An item and its shop both go by a field of the same name; the tags are listed, and there is no
    note. -/
theorem fields_sent_once_sample :
    Sample.stocked.Made Sample.itemNode ∧
      Sample.stocked.route Sample.itemNode = .ok "/shops/7/a%20b" ∧
      Sample.stocked.query Sample.itemNode = .ok [("tags", "true"), ("tags", "2")] ∧
      ∃ sent : List (String × List (String × String)),
        List.Forall₂ (fun node s => Sample.stocked.Sent node s.1 s.2)
          [Sample.shopNode, Sample.itemNode] sent ∧
        "/shops/7/a%20b" = Route.normal (sent.map Prod.fst) ∧
        [("tags", "true"), ("tags", "2")] = sent.flatMap Prod.snd := by
  have hroute : Sample.stocked.route Sample.itemNode = .ok "/shops/7/a%20b" := by cbv
  have hquery : Sample.stocked.query Sample.itemNode = .ok [("tags", "true"), ("tags", "2")] := by
    rfl
  obtain ⟨sent, hsent, hpath, hentries⟩ := fields_sent_once Sample.made_itemNode hroute
  exact ⟨Sample.made_itemNode, hroute, hquery, sent, hsent, hpath,
    Except.ok.inj (hquery.symm.trans hentries)⟩

end Registry

end Waymark.Api

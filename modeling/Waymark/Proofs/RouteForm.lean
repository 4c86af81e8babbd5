import Mathlib.Data.List.Basic
import Waymark.Client.Source
import Waymark.Proofs.MadeNodes
import Waymark.Proofs.Placeholders

/-! # The form of routes

    A route is put together twice: when a client is written, from the units down to the one that
    it documents, and when a request is sent, from the node up to the outermost one. In between,
    slashes are taken off what there is so far. Both come to the same, which can be said without
    going step by step: a slash, and the bare segments that are left between single slashes
    (`Route.normal`).

    The main result is `documented_and_sent_routes`. Routes of this form start with one slash,
    end with one only if there is nothing else (`Route.IsShaped`), and with one more segment they
    get longer by that segment (`Route.Extends`).
-/

namespace Waymark

namespace Route

/-- A slash, and the segments without slashes at their ends, of which those that are left empty
    do not count. -/
def normal (segments : List String) : String :=
  "/" ++ "/".intercalate ((segments.map bare).filter (· ≠ ""))

/-- There is one slash in front, and one at the end only if there is nothing else. -/
structure IsShaped (path : String) : Prop where
  rooted : ∃ rest, path = "/" ++ rest ∧ rest.toList.head? ≠ some '/'
  ended : path.toList.getLast? = some '/' → path = "/"

/-- The path is the other one with the bare segment behind it, and at most a slash between. -/
def Extends (path outer segment : String) : Prop :=
  ∃ between, (between = "" ∨ between = "/") ∧ path = outer ++ between ++ bare segment

/-- A segment has no steps if there is nothing but slashes in it. -/
theorem stepsOfSegment_eq_nil_iff (segment : String) :
    stepsOfSegment segment = [] ↔ bare segment = "" := by
  constructor
  · intro h
    rw [← intercalate_stepsOfSegment, h]
    rfl
  · exact fun h => if_pos h

/-- Segments without steps are the ones that do not count. -/
theorem intercalate_flatMap_stepsOfSegment (segments : List String) :
    "/".intercalate (segments.flatMap stepsOfSegment)
      = "/".intercalate ((segments.map bare).filter (· ≠ "")) := by
  induction segments with
  | nil => rfl
  | cons segment rest ih =>
    rw [List.flatMap_cons, List.map_cons]
    by_cases hsegment : bare segment = ""
    · rw [(stepsOfSegment_eq_nil_iff segment).mpr hsegment, List.nil_append, ih,
        List.filter_cons_of_neg (by simpa using hsegment)]
    · have hsteps : stepsOfSegment segment ≠ [] :=
        mt (stepsOfSegment_eq_nil_iff segment).mp hsegment
      rw [List.filter_cons_of_pos (by simpa using hsegment)]
      -- nothing counts among the others exactly if they have no steps
      have hrest : rest.flatMap stepsOfSegment = [] ↔
          (rest.map bare).filter (· ≠ "") = [] := by
        rw [List.flatMap_eq_nil_iff, List.filter_eq_nil_iff]
        simp [stepsOfSegment_eq_nil_iff]
      by_cases hnone : rest.flatMap stepsOfSegment = []
      · rw [hnone, hrest.mp hnone, List.append_nil, String.intercalate_singleton,
          intercalate_stepsOfSegment]
      · rw [String.intercalate_append_of_ne_nil hsteps hnone,
          String.intercalate_cons_of_ne_nil (mt hrest.mpr hnone), ih, intercalate_stepsOfSegment]

/-- **A route has the normal form**, however it has been put together. -/
theorem ofSegments_eq_normal {segments : List String} (hne : segments ≠ []) :
    ofSegments segments = normal segments := by
  rw [ofSegments_eq hne, intercalate_flatMap_stepsOfSegment]
  rfl

theorem isShaped_normal (segments : List String) : IsShaped (normal segments) := by
  have htrimmed := trimmed_flatMap segments
  unfold normal
  rw [← intercalate_flatMap_stepsOfSegment]
  -- no slash is left at the ends of what stands behind the first one
  have hbare : Text.dropAround (· == '/')
      ("/".intercalate (segments.flatMap stepsOfSegment)).toList
        = ("/".intercalate (segments.flatMap stepsOfSegment)).toList := by
    rw [← toList_bare, htrimmed.bare]
  generalize "/".intercalate (segments.flatMap stepsOfSegment) = rest at hbare
  refine ⟨⟨rest, rfl, fun hhead => ?_⟩, fun hlast => ?_⟩
  · rw [← hbare] at hhead
    exact absurd (Text.head?_dropAround (· == '/') _ '/' hhead) (by simp)
  · by_cases hempty : rest = ""
    · rw [hempty]
      rfl
    · have hne : rest.toList ≠ [] := fun hnil => hempty (String.toList_injective hnil)
      rw [String.toList_append, List.getLast?_append_of_ne_nil _ hne, ← hbare] at hlast
      exact absurd (Text.getLast?_dropAround hlast) (by simp)

/-- One more segment makes a route longer by that segment. -/
theorem extends_normal (segments : List String) (segment : String) :
    Extends (normal (segments ++ [segment])) (normal segments) segment := by
  unfold Extends normal
  rw [List.map_append, List.filter_append, List.map_singleton]
  -- a bare segment that is empty adds nothing, and the first one that is not adds no slash
  by_cases hsegment : bare segment = ""
  · refine ⟨"", .inl rfl, ?_⟩
    rw [List.filter_cons_of_neg (by simpa using hsegment), List.filter_nil, List.append_nil,
      hsegment, String.append_empty, String.append_empty]
  · rw [List.filter_cons_of_pos (by simpa using hsegment), List.filter_nil]
    by_cases hnone : (segments.map bare).filter (· ≠ "") = []
    · refine ⟨"", .inl rfl, ?_⟩
      rw [hnone, List.nil_append, String.intercalate_singleton, String.append_empty]
      rfl
    · refine ⟨"/", .inr rfl, ?_⟩
      rw [String.intercalate_append_of_ne_nil hnone (List.cons_ne_nil _ _),
        String.intercalate_singleton, String.append_assoc, String.append_assoc,
        String.append_assoc]

theorem ofSegments_concat (segments : List String) (segment : String) :
    ofSegments (segments ++ [segment]) = join (ofSegments segments) segment := by
  unfold ofSegments
  rw [List.foldl_append]
  rfl

end Route

/-! ## Routes that are documented -/

/-- The unit lies in the tree at the end of the segments, and its class has the name: a name of its
    own for the outermost one, that of the unit for all others. -/
inductive ClientUnit.Along (root : ClientUnit) : String → List String → ClientUnit → Prop
  | root : Along root (Client.className root.name) [root.segment] root
  | child {name : String} {segments : List String} {outer u : ClientUnit}
    (before : Along root name segments outer) (nested : u ∈ outer.children) :
    Along root u.name (segments ++ [u.segment]) u

namespace Client

/-- Somewhere in the lines a class starts, and a route documents it. -/
def Documented (lines : List String) (depth : Nat) (name : String) (ops : List Operation)
    (route : String) : Prop :=
  ∃ before after, lines = before ++ classHeader (padding depth) name ops
    :: routeLine (padding depth) route :: after

variable {depth : Nat} {route name : String} {lines : List String}

/-- The classes of nested units stand among the lines, each as a whole. -/
theorem exists_unitLines_of_mem {us : List ClientUnit}
    (h : nestedLines depth route us = .ok lines) {u : ClientUnit} (hu : u ∈ us) :
    ∃ before inner after, unitLines depth route u.name u = .ok inner ∧
      lines = before ++ inner ++ after := by
  -- along the nested units; in front of each stands a blank line
  induction us generalizing lines with
  | nil => cases hu
  | cons other rest ih =>
    rw [nestedLines] at h
    cases hfirst : unitLines depth route other.name other with
    | error fault =>
      rw [hfirst] at h
      cases h
    | ok first =>
      cases hlater : nestedLines depth route rest with
      | error fault =>
        rw [hfirst, hlater] at h
        cases h
      | ok later =>
        rw [hfirst, hlater] at h
        obtain rfl := Except.ok.inj h
        rcases List.mem_cons.mp hu with rfl | hu
        · exact ⟨[""], first, later, hfirst, rfl⟩
        · obtain ⟨before, inner, after, hinner, rfl⟩ := ih hlater hu
          exact ⟨"" :: first ++ before, inner, after, hinner, by simp⟩

/-- The class of a unit starts with its name and its route, and those of the units nested in it
    follow. -/
theorem unitLines_eq_ok {u : ClientUnit} (h : unitLines depth route name u = .ok lines) :
    (∃ after, lines = classHeader (padding depth) name u.operations
      :: routeLine (padding depth) (Route.join route u.segment) :: after) ∧
    ∀ c ∈ u.children, ∃ before inner after,
      unitLines (depth + 1) (Route.join route u.segment) c.name c = .ok inner ∧
        lines = before ++ inner ++ after := by
  -- the lines are header, route, methods and nested classes, if none of these has a fault
  obtain ⟨unitName, qualname, segment, operations, children⟩ := u
  rw [unitLines] at h
  cases hmethods : operations.mapM (operationLines (depth + 1)) with
  | error fault =>
    rw [hmethods] at h
    cases h
  | ok methods =>
    cases hnested : nestedLines (depth + 1) (Route.join route segment) children with
    | error fault =>
      rw [hmethods] at h
      simp only [hnested, bind, Except.bind] at h
      cases h
    | ok nested =>
      rw [hmethods] at h
      simp only [hnested, bind, Except.bind] at h
      obtain rfl := Except.ok.inj h
      refine ⟨⟨_, rfl⟩, fun c hc => ?_⟩
      obtain ⟨before, inner, after, hinner, rfl⟩ := exists_unitLines_of_mem hnested hc
      refine ⟨classHeader (padding depth) name operations
        :: routeLine (padding depth) (Route.join route segment)
        :: (methods.flatMap ("" :: ·) ++ before), inner, after, hinner, by simp⟩

/-- Going down the tree, the class of a unit stands among the lines with the route of the segments
    on the way. -/
theorem exists_unitLines_of_along {root u : ClientUnit} {segments : List String}
    (hlines : classSection root = .ok lines) (h : ClientUnit.Along root name segments u) :
    ∃ above before inner after, unitLines (segments.length - 1) above name u = .ok inner ∧
      Route.join above u.segment = Route.ofSegments segments ∧
      lines = before ++ inner ++ after := by
  -- down the path of units, the lines of each stand inside those of the one above
  induction h with
  | root => exact ⟨"", [], lines, [], hlines, rfl, by simp⟩
  | @child name segments outer u along nested ih =>
    obtain ⟨above, before, inner, after, hinner, hroute, rfl⟩ := ih
    obtain ⟨before', inner', after', hinner', rfl⟩ := (unitLines_eq_ok hinner).2 u nested
    -- one segment more is one level deeper
    have hdepth : (segments ++ [u.segment]).length - 1 = segments.length - 1 + 1 := by
      have hpos : 0 < segments.length := by
        cases along with
        | root => exact Nat.one_pos
        | child => simp
      rw [List.length_append, List.length_singleton]
      omega
    refine ⟨Route.join above outer.segment, before ++ before', inner', after' ++ after, ?_, ?_, ?_⟩
    · rw [hdepth]
      exact hinner'
    · rw [Route.ofSegments_concat, hroute]
    · simp

/-- The lines of a module document the class of each unit by the route of the segments down to
    the unit. -/
theorem exists_documented_lines {client : ClientRoot} {transport : String} {m : ClientModule}
    (hm : generate client transport = .ok m) :
    ∃ lines, m.source = textOfLines lines ∧
      ∀ name segments u, ClientUnit.Along client.root name segments u →
        Documented lines (segments.length - 1) name u.operations (Route.normal segments) := by
  unfold generate at hm
  dsimp only at hm
  cases hclasses : classSection client.root with
  | error fault =>
    rw [hclasses] at hm
    cases hm
  | ok classes =>
    rw [hclasses] at hm
    obtain rfl := Except.ok.inj hm
    refine ⟨_, rfl, fun name segments u halong => ?_⟩
    have hne : segments ≠ [] := by
      cases halong with
      | root => exact List.cons_ne_nil _ _
      | child => simp
    -- the lines of the unit stand somewhere among those of the classes, which come last
    obtain ⟨above, before, inner, after, hinner, hroute, rfl⟩ :=
      exists_unitLines_of_along hclasses halong
    obtain ⟨rest, rfl⟩ := (unitLines_eq_ok hinner).1
    rw [hroute, Route.ofSegments_eq_normal hne]
    refine ⟨headerLines client.module
      ++ importBlock (imports client.scope client.root.name client.root.allOperations transport)
      ++ ["", ""] ++ before, rest ++ after, ?_⟩
    simp only [List.append_assoc, List.cons_append]

/-- The route that documents a class is that of the segments down to its unit. -/
theorem documented_of_along {client : ClientRoot} {transport : String} {m : ClientModule}
    {u : ClientUnit} {segments : List String} (hm : generate client transport = .ok m)
    (h : ClientUnit.Along client.root name segments u) :
    ∃ lines, m.source = textOfLines lines ∧
      Documented lines (segments.length - 1) name u.operations (Route.normal segments) := by
  obtain ⟨lines, hsource, hlines⟩ := exists_documented_lines hm
  exact ⟨lines, hsource, hlines name segments u h⟩

end Client

/-! ## Routes that are sent -/

namespace Api.Registry

variable {r : Registry} {v : Value}

/-- The node is of a class with the segment. -/
def HasSegment (r : Registry) (node : Value) (segment : String) : Prop :=
  ∃ c fields, r.Stands node c fields segment

/-- Every placeholder of the node's segment is the name of one of its fields. -/
def NamesFields (r : Registry) (node : Value) : Prop :=
  ∀ c fields segment, r.Stands node c fields segment → ∀ name, HasPlaceholder segment name →
    ∃ declared, r.fields? c = some declared ∧ ∃ f ∈ declared, f.name = name

/-- The text is the node's segment, filled from the fields of the node itself. -/
def Filled (r : Registry) (node : Value) (text : String) : Prop :=
  ∃ c fields segment, r.Stands node c fields segment ∧
    Fills (fun name => fields.lookup name) segment.toList text.toList

/-- The node holds the other one in its field for the parent. -/
def Hangs (r : Registry) (node above : Value) : Prop :=
  ∃ ref serial fields name, node = .node ref serial fields ∧ r.upField? ref = some name ∧
    fields.lookup name = some above

theorem chainIn_eq {name : String} {fields : List (String × Value)} {above : Value}
    (h : fields.lookup name = some above) : r.chainIn name fields = r.chain above := by
  induction fields with
  | nil => cases h
  | cons entry rest ih =>
    obtain ⟨n, u⟩ := entry
    rw [chainIn]
    by_cases hname : n = name
    · subst hname
      rw [List.lookup_cons_self] at h
      rw [if_pos (by simp), Option.some.inj h]
    · rw [List.lookup_cons, beq_eq_false_iff_ne.mpr (Ne.symm hname)] at h
      rw [if_neg (by simpa using hname)]
      exact ih h

theorem Hangs.chain_eq {above : Value} (h : r.Hangs v above) : r.chain v = v :: r.chain above := by
  obtain ⟨ref, serial, fields, name, rfl, hup, hlookup⟩ := h
  rw [chain, hup]
  exact congrArg _ (chainIn_eq hlookup)

/-- What a node has under the name of a field is the value of the field. -/
theorem member?_of_lookup {c : ClassInfo} {fields : List (String × Value)} {name : String}
    {value : Value} (h : fields.lookup name = some value) : r.member? c fields name = some value := by
  unfold member?
  rw [h]

/-- A node that has been made has a value for each field. -/
theorem Made.isSome_lookup {node : Value} (hmade : r.Made node) {c : ClassInfo}
    {fields : List (String × Value)} {segment : String} (hstands : r.Stands node c fields segment)
    {declared : List NodeField} (hdeclared : r.fields? c = some declared) {f : NodeField}
    (hf : f ∈ declared) : (fields.lookup f.name).isSome = true := by
  cases hstands with
  | intro hclass _ =>
    cases hmade.whole with
    | intro there above hfields hnames =>
      obtain rfl := Option.some.inj (there.symm.trans hclass)
      obtain rfl := Option.some.inj (hfields.symm.trans hdeclared)
      have hname : f.name ∈ fields.map Prod.fst := hnames ▸ List.mem_map_of_mem hf
      obtain ⟨entry, hentry, hsame⟩ := List.mem_map.mp hname
      exact List.lookup_isSome_iff.mpr ⟨entry, hentry, by simp [hsame]⟩

/-- A node whose placeholders are names of fields has a text for its segment. -/
theorem exists_segmentText {node : Value} {segment : String} (hmade : r.Made node)
    (hsegment : r.HasSegment node segment) (hnames : r.NamesFields node) :
    ∃ text, r.segmentText node = .ok text ∧ r.Filled node text ∧
      ((∀ name, ¬ HasPlaceholder segment name) → text = segment) := by
  obtain ⟨c, fields, hstands⟩ := hsegment
  -- each placeholder is named after a field, and the node has all of its fields
  have hvalue : ∀ name, HasPlaceholder segment name → (fields.lookup name).isSome = true := by
    intro name hname
    obtain ⟨declared, hdeclared, f, hf, rfl⟩ := hnames c fields segment hstands name hname
    exact hmade.isSome_lookup hstands hdeclared hf
  obtain ⟨out, hout⟩ := exists_fills hvalue
  rw [← String.toList_ofList (l := out)] at hout
  refine ⟨String.ofList out, ?_, ⟨c, fields, segment, hstands, hout⟩, fun hnone => ?_⟩
  · refine segmentText_eq_ok_iff.mpr ⟨c, fields, segment, hstands, hout.congr ?_⟩
    intro name hname
    obtain ⟨value, hlookup⟩ := Option.isSome_iff_exists.mp (hvalue name hname)
    rw [member?_of_lookup hlookup, hlookup]
  · exact String.toList_injective (hout.eq_self hnone)

theorem route_of_forall₂ {texts : List String}
    (h : List.Forall₂ (fun node text => r.segmentText node = .ok text) (r.chain v).reverse texts) :
    r.route v = .ok (Route.normal texts) := by
  have hchain : List.Forall₂ (fun node text => r.segmentText node = .ok text) (r.chain v)
      texts.reverse := by
    rw [← List.forall₂_reverse_iff, List.reverse_reverse]
    exact h
  have hne : texts ≠ [] := by
    rintro rfl
    exact chain_ne_nil r v (List.reverse_eq_nil_iff.mp (List.forall₂_nil_right_iff.mp h))
  unfold route
  rw [mapM_of_forall₂ _ hchain]
  show Except.ok (Route.ofSegments texts.reverse.reverse) = _
  rw [List.reverse_reverse, Route.ofSegments_eq_normal hne]

/-- The segments of a chain all have texts if their placeholders are names of fields. -/
theorem exists_filled {segments : List String}
    (hsegments : List.Forall₂ r.HasSegment (r.chain v).reverse segments) (hmade : r.Made v)
    (hnames : ∀ node ∈ r.chain v, r.NamesFields node) :
    ∃ texts, List.Forall₂ (fun node text => r.segmentText node = .ok text ∧ r.Filled node text)
        (r.chain v).reverse texts ∧
      ((∀ segment ∈ segments, ∀ name, ¬ HasPlaceholder segment name) → texts = segments) := by
  have hmem : ∀ node ∈ (r.chain v).reverse, node ∈ r.chain v := fun node => List.mem_reverse.mp
  generalize (r.chain v).reverse = nodes at hsegments hmem
  induction hsegments with
  | nil => exact ⟨[], .nil, fun _ => rfl⟩
  | @cons node segment _ _ hsegment _ ih =>
    obtain ⟨texts, htexts, hplain⟩ := ih fun other hother => hmem other (List.mem_cons_of_mem _ hother)
    have hnode := hmem node List.mem_cons_self
    have hmade' : r.Made node := by
      obtain ⟨c, fields, hstands⟩ := hsegment
      cases hstands with
      | intro =>
        exact Made.of_mem_chain v (fun ref serial fields heq => heq ▸ hmade) hnode
    obtain ⟨text, htext, hfilled, hsame⟩ := exists_segmentText hmade' hsegment (hnames node hnode)
    refine ⟨text :: texts, .cons ⟨htext, hfilled⟩ htexts, fun hnone => ?_⟩
    rw [hsame (hnone segment List.mem_cons_self),
      hplain fun other hother => hnone other (List.mem_cons_of_mem _ hother)]

end Api.Registry

open Api (Registry HasPlaceholder)

/-- **The route that is documented and the one that is sent** have the same form. For the unit at
    the end of the segments it is made of the segments themselves, and for a node with these
    segments on its chain, whose placeholders are names of fields, of the segments filled from the
    fields of each node. So the two are equal where there are no placeholders. Routes of this form
    start with one slash and end with one only if it is all there is, and the route of a node is
    that of its parent with its own segment behind. -/
theorem documented_and_sent_routes (segments : List String) :
    (∀ (client : ClientRoot) (transport : String) (m : Client.ClientModule) (name : String)
      (u : ClientUnit), Client.generate client transport = .ok m →
      ClientUnit.Along client.root name segments u →
      ∃ lines, m.source = Client.textOfLines lines ∧
        Client.Documented lines (segments.length - 1) name u.operations (Route.normal segments)) ∧
    (∀ (r : Registry) (v : Value), r.Made v →
      List.Forall₂ r.HasSegment (r.chain v).reverse segments →
      (∀ node ∈ r.chain v, r.NamesFields node) →
      ∃ texts, List.Forall₂ r.Filled (r.chain v).reverse texts ∧
        r.route v = .ok (Route.normal texts) ∧
        ((∀ segment ∈ segments, ∀ name, ¬ HasPlaceholder segment name) → texts = segments) ∧
        ∀ above, r.Hangs v above → ∃ outer text, texts = outer ++ [text] ∧
          r.route above = .ok (Route.normal outer)) ∧
    (∀ texts, Route.IsShaped (Route.normal texts) ∧
      ∀ text, Route.Extends (Route.normal (texts ++ [text])) (Route.normal texts) text) := by
  refine ⟨fun client transport m name u hm halong => Client.documented_of_along hm halong, ?_,
    fun texts => ⟨Route.isShaped_normal texts, Route.extends_normal texts⟩⟩
  intro r v hmade hsegments hnames
  obtain ⟨texts, htexts, hsame⟩ := Registry.exists_filled hsegments hmade hnames
  have hrun := htexts.imp fun _ _ h => h.1
  refine ⟨texts, htexts.imp fun _ _ h => h.2, Registry.route_of_forall₂ hrun, hsame,
    fun above habove => ?_⟩
  -- the chain of the node above is the rest of the chain
  rw [habove.chain_eq, ← List.forall₂_reverse_iff, List.reverse_reverse] at hrun
  obtain ⟨text, later, -, hlater, htext⟩ := List.forall₂_cons_left_iff.mp hrun
  refine ⟨later.reverse, text, ?_, Registry.route_of_forall₂ (List.forall₂_reverse_iff.mpr hlater)⟩
  rw [← List.reverse_cons, ← htext, List.reverse_reverse]

/-! ## Two nested classes -/

namespace Api.Sample

/-- A shop goes by its number. -/
def shop : ClassInfo :=
  { ref := ⟨1, "app.api", "Shop", "type"⟩, segment := some "/shops/\x7bid\x7d/"
    fields := [{ name := "id" }] }

/-- An item of a shop has a key of its own, under the same name. -/
def item : ClassInfo :=
  { ref := ⟨0, "app.api", "Shop.Item", "type"⟩, segment := some "\x7bid\x7d"
    fields := [{ name := "p", isParent := true }, { name := "id" }, { name := "tags" },
      { name := "note", default := some .none }]
    parent := some shop.ref }

def shops : Registry :=
  { classes := [item, shop] }

def shopNode : Value :=
  .node shop.ref 0 [("id", .int 7)]

def itemNode : Value :=
  .node item.ref 1
    [("p", shopNode), ("id", .text "a b"), ("tags", .list [.bool true, .int 2]), ("note", .none)]

/-- The registry after a shop and an item have been made. -/
def stocked : Registry :=
  { shops with objects := 2 }

theorem sound_of_shops {r : Registry} (h : r.classes = shops.classes) : r.Sound := by
  refine Registry.sound_of_places ?_
  rw [h]
  decide

theorem made_shopNode : ({ shops with objects := 1 } : Registry).Made shopNode := by
  have hmake : shops.make shop [("id", .int 7)] = .ok ({ shops with objects := 1 }, shopNode) := rfl
  refine .make (sound_of_shops rfl) rfl hmake fun name inner number values hmem => ?_
  cases List.mem_singleton.mp hmem

theorem made_itemNode : stocked.Made itemNode := by
  have hmake : ({ shops with objects := 1 } : Registry).make item
      [("p", shopNode), ("id", .text "a b"), ("tags", .list [.bool true, .int 2])]
      = .ok (stocked, itemNode) := rfl
  refine .make (r := { shops with objects := 1 }) (sound_of_shops rfl) rfl hmake
    fun name inner number values hmem => ?_
  simp only [List.mem_cons, Prod.mk.injEq, reduceCtorEq, and_false, List.not_mem_nil,
    or_false] at hmem
  exact hmem.2 ▸ made_shopNode

/-- Both chains have the placeholder for the field that goes by its name, and no other. -/
theorem namesFields_itemNode : ∀ node ∈ stocked.chain itemNode, stocked.NamesFields node := by
  have hchain : stocked.chain itemNode = [itemNode, shopNode] := rfl
  rw [hchain]
  intro node hnode c fields segment hstands name hname
  rw [← mem_placeholders_iff] at hname
  obtain ⟨hclass, hsegment⟩ := hstands
  -- both classes have one placeholder, and it is the name of one of their fields
  rcases List.mem_cons.mp hnode with heq | hnode
  · cases heq
    obtain rfl := Option.some.inj hclass
    obtain rfl := Option.some.inj hsegment
    have hid : placeholders "\x7bid\x7d" = ["id"] := by decide
    rw [hid, List.mem_singleton] at hname
    exact ⟨item.fields, rfl, { name := "id" }, by simp [item], hname.symm⟩
  · cases List.mem_singleton.mp hnode
    obtain rfl := Option.some.inj hclass
    obtain rfl := Option.some.inj hsegment
    have hid : placeholders "/shops/\x7bid\x7d/" = ["id"] := by decide
    rw [hid, List.mem_singleton] at hname
    exact ⟨shop.fields, rfl, { name := "id" }, by simp [shop], hname.symm⟩

theorem hasSegment_itemNode :
    List.Forall₂ stocked.HasSegment (stocked.chain itemNode).reverse
      ["/shops/\x7bid\x7d/", "\x7bid\x7d"] :=
  .cons ⟨shop, _, .intro rfl rfl⟩ (.cons ⟨item, _, .intro rfl rfl⟩ .nil)

/-- The unit of an item. -/
def itemUnit : ClientUnit :=
  { name := "Item", qualname := "Shop.Item", segment := "\x7bid\x7d" }

/-- The client of the two classes. -/
def shopsClient : ClientRoot :=
  { module := "app.api"
    root := { name := "Shop", qualname := "Shop", segment := "/shops/\x7bid\x7d/"
              children := [itemUnit] }
    scope := { module := "app.api" } }

end Api.Sample

open Api.Sample in
/-- The class of an item in a shop is documented by the two segments, and an item is sent to the
    route of its shop with its own key behind. -/
theorem documented_and_sent_routes_sample :
    (∃ m lines, Client.generate shopsClient "shapi.client.transport" = .ok m ∧
      m.source = Client.textOfLines lines ∧
      Client.Documented lines 1 "Item" [] "/shops/\x7bid\x7d/\x7bid\x7d") ∧
    stocked.Made itemNode ∧ (∀ node ∈ stocked.chain itemNode, stocked.NamesFields node) ∧
    stocked.Hangs itemNode shopNode ∧
    ∃ outer text, stocked.route itemNode = .ok (Route.normal (outer ++ [text])) ∧
      stocked.route shopNode = .ok (Route.normal outer) := by
  have hroutes := documented_and_sent_routes ["/shops/\x7bid\x7d/", "\x7bid\x7d"]
  have habove : stocked.Hangs itemNode shopNode := ⟨_, _, _, "p", rfl, rfl, rfl⟩
  refine ⟨?_, made_itemNode, namesFields_itemNode, habove, ?_⟩
  · have halong : ClientUnit.Along shopsClient.root itemUnit.name
        ["/shops/\x7bid\x7d/", "\x7bid\x7d"] itemUnit := .child .root List.mem_cons_self
    have hnormal : Route.normal ["/shops/\x7bid\x7d/", "\x7bid\x7d"]
        = "/shops/\x7bid\x7d/\x7bid\x7d" := by decide
    obtain ⟨lines, hsource, hlines⟩ :=
      hroutes.1 shopsClient "shapi.client.transport" _ _ itemUnit rfl halong
    rw [hnormal] at hlines
    exact ⟨_, lines, rfl, hsource, hlines⟩
  · obtain ⟨texts, -, hroute, -, hhangs⟩ :=
      hroutes.2.1 stocked itemNode made_itemNode hasSegment_itemNode namesFields_itemNode
    obtain ⟨outer, text, rfl, houter⟩ := hhangs shopNode habove
    exact ⟨outer, text, hroute, houter⟩

end Waymark

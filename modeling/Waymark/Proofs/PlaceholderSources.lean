import Waymark.Proofs.PathComponents
import Waymark.Proofs.Routability

/-! # What fills the placeholders of a route

    A placeholder is meant to be filled with a field. The text of a segment asks the node for what
    it has under the name, and a node has the attributes of its class as well, among them the
    classes that are nested in it.

    * A placeholder is `declared` if it is the name of a field of the class (`Registry.Declares`).
      A node that was made has a value for each of these and for no other name
      (`Registry.Made.isSome_lookup_iff`).
    * What a node has under any other name is a matter of its class (`Registry.beside?`). A
      placeholder is unfilled if there is nothing either (`Registry.Unfilled`).

    The main result is `session_placeholders`: a route fails at an unfilled placeholder only, each
    node fills its placeholders itself, and fields are all that is used exactly if every
    placeholder is declared.
-/

namespace Waymark.Api

namespace Registry

variable {r : Registry} {v node : Value} {c : ClassInfo} {fields : List (String × Value)}
  {segment name text : String}

/-! ## Fields and what is beside them -/

/-- The class has a field of the name. -/
def Declares (r : Registry) (c : ClassInfo) (name : String) : Prop :=
  ∃ declared, r.fields? c = some declared ∧ ∃ f ∈ declared, f.name = name

/-- What a node of the class has under a name that is not the name of a field: an attribute of the
    class or of one that it extends, or what all nodes of such a class have. -/
def beside? (r : Registry) (c : ClassInfo) (fields : List (String × Value)) (name : String) :
    Option Value :=
  match r.attribute? c name with
  | some (.value v) => some v
  | some .parentMark => some (.text markText)
  | none => r.innate? c fields name

/-- The node stands on the chain of the value, and its segment has the placeholder. -/
inductive Placeholder (r : Registry) (v : Value) :
    ClassInfo → List (String × Value) → String → String → Prop
  | intro {node : Value} {c : ClassInfo} {fields : List (String × Value)} {segment name : String}
    (onChain : node ∈ r.chain v) (stands : r.Stands node c fields segment)
    (inBraces : HasPlaceholder segment name) : Placeholder r v c fields segment name

/-- The name is not that of a field, and a node has nothing else under it. -/
def Unfilled (r : Registry) (c : ClassInfo) (fields : List (String × Value)) (name : String) :
    Prop :=
  ¬ r.Declares c name ∧ r.beside? c fields name = none

/-- The text is the node's segment, filled with the value of a field where the placeholder is the
    name of one, and otherwise with what the node has beside its fields. -/
def SelfFilled (r : Registry) (node : Value) (text : String) : Prop :=
  ∃ c fields segment, r.Stands node c fields segment ∧
    ∃ value : String → Option Value, Fills value segment.toList text.toList ∧
      (∀ name, r.Declares c name → value name = fields.lookup name) ∧
      ∀ name, ¬ r.Declares c name → value name = r.beside? c fields name

theorem member?_eq (r : Registry) (c : ClassInfo) (fields : List (String × Value)) (name : String) :
    r.member? c fields name = (fields.lookup name).or (r.beside? c fields name) := by
  unfold member? beside?
  cases fields.lookup name with
  | some value => rfl
  | none => rcases r.attribute? c name with _ | (value | _) <;> rfl

/-- A node that has been made has values for its fields, and for no other name. -/
theorem Made.isSome_lookup_iff (hmade : r.Made node) (hstands : r.Stands node c fields segment) :
    (fields.lookup name).isSome = true ↔ r.Declares c name := by
  constructor
  · intro hsome
    cases hstands with
    | intro hclass _ =>
      cases hmade.whole with
      | intro there above hfields hnames =>
        obtain rfl := Option.some.inj (there.symm.trans hclass)
        obtain ⟨entry, hentry, hsame⟩ := List.lookup_isSome_iff.mp hsome
        obtain rfl : name = entry.1 := by simpa using hsame
        obtain ⟨f, hf, hname⟩ := List.mem_map.mp (hnames ▸ List.mem_map_of_mem hentry)
        exact ⟨_, hfields, f, hf, hname⟩
  · rintro ⟨declared, hdeclared, f, hf, rfl⟩
    exact hmade.isSome_lookup hstands hdeclared hf

section

variable (hmade : r.Made node) (hstands : r.Stands node c fields segment)
include hmade hstands

theorem Made.member?_of_declared (hname : r.Declares c name) :
    r.member? c fields name = fields.lookup name := by
  obtain ⟨value, hvalue⟩ := Option.isSome_iff_exists.mp ((hmade.isSome_lookup_iff hstands).mpr hname)
  rw [member?_of_lookup hvalue, hvalue]

theorem Made.member?_of_not_declared (hname : ¬ r.Declares c name) :
    r.member? c fields name = r.beside? c fields name := by
  have hnone : fields.lookup name = none := by
    rw [← Option.not_isSome_iff_eq_none, hmade.isSome_lookup_iff hstands]
    exact hname
  rw [member?_eq, hnone, Option.none_or]

/-- A node has nothing under a name exactly if this is unfilled. -/
theorem Made.member?_eq_none_iff : r.member? c fields name = none ↔ r.Unfilled c fields name := by
  by_cases hname : r.Declares c name
  · have hsome := (hmade.isSome_lookup_iff hstands).mpr hname
    rw [hmade.member?_of_declared hstands hname, ← Option.not_isSome_iff_eq_none]
    exact iff_of_false (not_not_intro hsome) fun hunfilled => hunfilled.1 hname
  · rw [hmade.member?_of_not_declared hstands hname]
    exact (and_iff_right hname).symm

/-! ## The text of a segment -/

/-- The text of a segment is there exactly if no placeholder is unfilled. -/
theorem Made.exists_segmentText_iff : (∃ text, r.segmentText node = .ok text) ↔
    ∀ name, HasPlaceholder segment name → ¬ r.Unfilled c fields name := by
  constructor
  · rintro ⟨text, htext⟩ name hname hunfilled
    obtain ⟨c', fields', segment', hstands', hthere, -⟩ := exists_stands_of_segmentText htext
    obtain ⟨rfl, rfl, rfl⟩ := hstands.unique hstands'
    obtain ⟨value, hvalue⟩ := hthere name (mem_placeholders_iff.mpr hname)
    rw [(hmade.member?_eq_none_iff hstands).mpr hunfilled] at hvalue
    cases hvalue
  · intro h
    have hthere : ∀ name, HasPlaceholder segment name →
        (r.member? c fields name).isSome = true := by
      intro name hname
      rw [← Option.ne_none_iff_isSome, Ne, hmade.member?_eq_none_iff hstands]
      exact h name hname
    obtain ⟨out, hout⟩ := exists_fills hthere
    rw [← String.toList_ofList (l := out)] at hout
    exact ⟨_, segmentText_eq_ok_iff.mpr ⟨c, fields, segment, hstands, hout⟩⟩

/-- The fault of a segment names a placeholder that is unfilled. -/
theorem Made.exists_unfilled {fault : RouteFault} (h : r.segmentText node = .error fault) :
    ∃ name, HasPlaceholder segment name ∧ r.Unfilled c fields name ∧
      fault = .noField segment c.ref.qualname name := by
  obtain ⟨hclass, hsegment⟩ := id hstands
  unfold segmentText at h
  rw [hclass] at h
  dsimp only at h
  rw [hsegment] at h
  dsimp only at h
  cases hmap : (pieces segment).mapM (r.pieceText c fields segment) with
  | ok texts =>
    rw [hmap] at h
    cases h
  | error other =>
    rw [hmap] at h
    cases h
    obtain ⟨piece, hpiece, hfault⟩ := exists_of_mapM_error hmap
    -- text is never at fault, so it is a placeholder without a value
    cases piece with
    | text cs => cases hfault
    | placeholder name =>
      have hname := mem_placeholders_iff.mp (mem_placeholders.mpr hpiece)
      cases hnone : r.member? c fields name with
      | some value => simp [pieceText, hnone] at hfault
      | none =>
        obtain rfl : .noField segment c.ref.qualname name = fault := by
          simpa [pieceText, hnone] using hfault
        exact ⟨name, hname, (hmade.member?_eq_none_iff hstands).mp hnone, rfl⟩

end

/-- The text of a segment is filled by the node itself. -/
theorem Made.selfFilled (hmade : r.Made node) (htext : r.segmentText node = .ok text) :
    r.SelfFilled node text := by
  obtain ⟨c, fields, segment, hstands, hfills⟩ := segmentText_eq_ok_iff.mp htext
  exact ⟨c, fields, segment, hstands, r.member? c fields, hfills,
    fun name hname => hmade.member?_of_declared hstands hname,
    fun name hname => hmade.member?_of_not_declared hstands hname⟩

/-! ## Routes -/

/-- Placeholders of the route are filled from fields only: the route fails exactly if a placeholder
    is not declared, and otherwise each node fills its segment from its fields. -/
structure FieldsOnly (r : Registry) (v : Value) : Prop where
  fails_iff : (∃ fault, r.route v = .error fault) ↔
    ∃ c fields segment name, r.Placeholder v c fields segment name ∧ ¬ r.Declares c name
  filled : ∀ path, r.route v = .ok path → ∃ texts, path = Route.normal texts ∧
    List.Forall₂ r.Filled (r.chain v).reverse texts

/-- A route is made of the texts of the segments on the chain. -/
theorem exists_texts_of_route {path : String} (h : r.route v = .ok path) :
    ∃ texts, path = Route.normal texts ∧
      List.Forall₂ (fun node text => r.segmentText node = .ok text) (r.chain v).reverse texts := by
  obtain ⟨texts, htexts⟩ := exists_return_iff.mp ⟨path, h⟩
  have hback := List.forall₂_reverse_iff.mpr (forall₂_of_mapM htexts)
  exact ⟨texts.reverse, Except.ok.inj (h.symm.trans (route_of_forall₂ hback)), hback⟩

section

variable (hmade : ∀ node ∈ r.chain v, r.Made node) (hresource : ∀ node ∈ r.chain v, r.OfResource node)
include hmade hresource

/-- A node has a route exactly if no placeholder on its chain is unfilled. -/
theorem exists_route_iff_filled : (∃ path, r.route v = .ok path) ↔
    ∀ c fields segment name, r.Placeholder v c fields segment name →
      ¬ r.Unfilled c fields name := by
  unfold route
  rw [exists_return_iff, exists_mapM_iff]
  constructor
  · rintro htexts c fields segment name ⟨hnode, hstands, hname⟩
    exact ((hmade _ hnode).exists_segmentText_iff hstands).mp (htexts _ hnode) name hname
  · intro h node hnode
    obtain ⟨segment, c, fields, hstands⟩ := hresource node hnode
    refine ((hmade node hnode).exists_segmentText_iff hstands).mpr fun name hname => ?_
    exact h c fields segment name (.intro hnode hstands hname)

/-- The fault of a route is that of an unfilled placeholder. -/
theorem exists_unfilled_of_route {fault : RouteFault} (h : r.route v = .error fault) :
    ∃ c fields segment name, r.Placeholder v c fields segment name ∧ r.Unfilled c fields name ∧
      fault = .noField segment c.ref.qualname name := by
  have hmap : (r.chain v).mapM r.segmentText = .error fault := by
    unfold route at h
    cases hmap : (r.chain v).mapM r.segmentText with
    | ok texts =>
      rw [hmap] at h
      cases h
    | error other =>
      rw [hmap] at h
      cases h
      rfl
  -- the fault is that of the first segment that has no text
  obtain ⟨node, hnode, hfault⟩ := exists_of_mapM_error hmap
  obtain ⟨segment, c, fields, hstands⟩ := hresource node hnode
  obtain ⟨name, hname, hunfilled, hsame⟩ := (hmade node hnode).exists_unfilled hstands hfault
  exact ⟨c, fields, segment, name, .intro hnode hstands hname, hunfilled, hsame⟩

/-- Fields are all that is used exactly if there is no other placeholder, or the route fails
    anyway. -/
theorem fieldsOnly_iff : r.FieldsOnly v ↔
    (∀ c fields segment name, r.Placeholder v c fields segment name → r.Declares c name) ∨
      ∃ c fields segment name, r.Placeholder v c fields segment name ∧
        r.Unfilled c fields name := by
  have hroute := exists_route_iff_filled hmade hresource
  constructor
  · intro h
    by_cases hdeclared : ∀ c fields segment name, r.Placeholder v c fields segment name →
        r.Declares c name
    · exact .inl hdeclared
    · push Not at hdeclared
      obtain ⟨fault, hfault⟩ := h.fails_iff.mpr hdeclared
      obtain ⟨c, fields, segment, name, hplaceholder, hunfilled, -⟩ :=
        exists_unfilled_of_route hmade hresource hfault
      exact .inr ⟨c, fields, segment, name, hplaceholder, hunfilled⟩
  · rintro (hdeclared | ⟨c, fields, segment, name, hplaceholder, hunfilled⟩)
    · obtain ⟨path, hpath⟩ := hroute.mpr fun c fields segment name hplaceholder hunfilled =>
        hunfilled.1 (hdeclared c fields segment name hplaceholder)
      refine ⟨⟨?_, ?_⟩, fun other hother => ?_⟩
      · rintro ⟨fault, hfault⟩
        cases hpath.symm.trans hfault
      · rintro ⟨c, fields, segment, name, hplaceholder, hnot⟩
        exact absurd (hdeclared c fields segment name hplaceholder) hnot
      · obtain ⟨texts, hsame, htexts⟩ := exists_texts_of_route hother
        refine ⟨texts, hsame, forall₂_imp_of_mem htexts fun node hnode text _ htext => ?_⟩
        have hmem := List.mem_reverse.mp hnode
        -- what fills the text is what the fields hold
        obtain ⟨c, fields, segment, hstands, value, hfills, hfields, -⟩ :=
          (hmade node hmem).selfFilled htext
        refine ⟨c, fields, segment, hstands, hfills.congr fun name hname => ?_⟩
        exact (hfields name (hdeclared c fields segment name (.intro hmem hstands hname))).symm
    · have hnone : ∀ path, r.route v ≠ .ok path := fun path hpath =>
        hroute.mp ⟨path, hpath⟩ c fields segment name hplaceholder hunfilled
      refine ⟨⟨fun _ => ⟨c, fields, segment, name, hplaceholder, hunfilled.1⟩, fun _ => ?_⟩,
        fun path hpath => absurd hpath (hnone path)⟩
      cases hresult : r.route v with
      | error fault => exact ⟨fault, rfl⟩
      | ok path => exact absurd hresult (hnone path)

end

end Registry

open Registry

section

variable {ε φ : Type} {evaluate : ε → StateT Registry (Except φ) Value}
  {fault : DefinitionFault → φ} {module : String} {r : Registry} {made : List Value} {v : Value}

/-- **What fills placeholders**, after any sequence of definitions and constructions, where all
    that is on the chain of a node was made of resources. The node has a route exactly if no
    placeholder on the chain is unfilled, and the fault names one that is. Each part of a route is
    filled by the node of that part, from a field if there is one of the name. Nothing but fields
    is used exactly if all placeholders are declared or the route fails anyway. -/
theorem session_placeholders (hevaluate : ∀ e r v r', evaluate e r = .ok (v, r') → r.Keeps r')
    (h : Session evaluate fault module r made) (hv : v ∈ made)
    (hresource : ∀ node ∈ r.chain v, ∃ c, r.MadeOf node c ∧ c.isResource = true) :
    ((∃ path, r.route v = .ok path) ↔
      ∀ c fields segment name, r.Placeholder v c fields segment name →
        ¬ r.Unfilled c fields name) ∧
      (∀ cause, r.route v = .error cause → ∃ c fields segment name,
        r.Placeholder v c fields segment name ∧ r.Unfilled c fields name ∧
          cause = .noField segment c.ref.qualname name) ∧
      (∀ path, r.route v = .ok path → ∃ texts, path = Route.normal texts ∧
        List.Forall₂ r.SelfFilled (r.chain v).reverse texts) ∧
      (r.FieldsOnly v ↔
        (∀ c fields segment name, r.Placeholder v c fields segment name → r.Declares c name) ∨
          ∃ c fields segment name, r.Placeholder v c fields segment name ∧
            r.Unfilled c fields name) := by
  have hmade := (h.all_made hevaluate).2 v hv
  have hparts : ∀ node ∈ r.chain v, r.Made node := by
    intro node hnode
    obtain ⟨c, hc, hresource⟩ := hresource node hnode
    obtain ⟨serial, fields, rfl⟩ := hc.exists_node hresource
    exact Made.of_mem_chain v (fun _ _ _ heq => heq ▸ hmade _ _ _ heq) hnode
  have hnodes : ∀ node ∈ r.chain v, r.OfResource node := fun node hnode =>
    (ofResource_iff fun _ _ _ heq => heq ▸ hparts node hnode).mpr (hresource node hnode)
  refine ⟨exists_route_iff_filled hparts hnodes,
    fun cause hcause => exists_unfilled_of_route hparts hnodes hcause, fun path hpath => ?_,
    fieldsOnly_iff hparts hnodes⟩
  obtain ⟨texts, hsame, htexts⟩ := exists_texts_of_route hpath
  exact ⟨texts, hsame, forall₂_imp_of_mem htexts fun node hnode text _ htext =>
    (hparts node (List.mem_reverse.mp hnode)).selfFilled htext⟩

end

/-! ## A page that asks for its notes -/

namespace Sample

/-- A page with a number has notes, and its segment asks for both. -/
def pageDefinition : Definition String :=
  .mk "Page" none (some "\x7bid\x7d-\x7bNotes\x7d") none
    [.field "id" none, .nested (.mk "Notes" none none none [])]

def notes : ClassInfo :=
  { ref := ⟨0, "app.api", "Page.Notes", "type"⟩ }

def page : ClassInfo :=
  { ref := ⟨1, "app.api", "Page", "type"⟩, attributes := [("Notes", .value (.cls notes.ref))]
    declared := ["id"], segment := some "\x7bid\x7d-\x7bNotes\x7d", fields := [{ name := "id" }] }

def pageNode : Value :=
  .node page.ref 0 [("id", .int 7)]

/-- The registry after the page has been made. -/
def pages : Registry :=
  { classes := [notes, page], objects := 1 }

theorem session_pages : Session named id "app.api" pages [pageNode] := by
  have hdefine : define named id "app.api" none pageDefinition {}
      = .ok (page, { classes := [notes, page] }) := by
    cbv
  have hmake : ({ classes := [notes, page] } : Registry).make page [("id", .int 7)]
      = .ok (pages, pageNode) := rfl
  refine .make (c := page) (.define .start hdefine) rfl hmake fun _ _ _ hpart => ?_
  obtain ⟨_, _, _, _, heq, hpart⟩ := hpart
  cases heq
  cases List.mem_singleton.mp hpart

theorem madeOf_pageNode : pages.MadeOf pageNode page :=
  .make (r := { classes := [notes, page] }) rfl
    (rfl : ({ classes := [notes, page] } : Registry).make page [("id", .int 7)] = _)

theorem placeholder_notes :
    pages.Placeholder pageNode page [("id", .int 7)] "\x7bid\x7d-\x7bNotes\x7d" "Notes" :=
  have hnode : pageNode ∈ pages.chain pageNode := List.mem_cons_self
  .intro hnode (.intro rfl rfl) (mem_placeholders_iff.mp (by decide))

theorem not_declares_notes : ¬ pages.Declares page "Notes" := by
  rintro ⟨declared, hdeclared, f, hf, hname⟩
  obtain rfl := Option.some.inj hdeclared
  obtain rfl := List.mem_singleton.mp hf
  exact absurd hname (by decide)

end Sample

open Api.Sample in
/-- The page has a route, which is not made of its fields only. -/
theorem session_placeholders_sample :
    Session named id "app.api" pages [pageNode] ∧
      (∀ node ∈ pages.chain pageNode, ∃ c, pages.MadeOf node c ∧ c.isResource = true) ∧
      (∃ path, pages.route pageNode = .ok path) ∧ ¬ pages.FieldsOnly pageNode := by
  have hresource : ∀ node ∈ pages.chain pageNode,
      ∃ c, pages.MadeOf node c ∧ c.isResource = true := by
    intro node hnode
    obtain rfl : node = pageNode := List.mem_singleton.mp hnode
    exact ⟨page, madeOf_pageNode, rfl⟩
  have hroute : ∃ path, pages.route pageNode = .ok path :=
    ⟨"/7-%3Cclass%20%27app.api.Page.Notes%27%3E", by cbv⟩
  obtain ⟨hfilled, -, -, hfields⟩ :=
    session_placeholders keeps_named session_pages List.mem_cons_self hresource
  refine ⟨session_pages, hresource, hroute, fun honly => ?_⟩
  rcases hfields.mp honly with hdeclared | ⟨c, fields, segment, name, hplaceholder, hunfilled⟩
  · exact not_declares_notes (hdeclared _ _ _ _ placeholder_notes)
  · exact hfilled.mp hroute c fields segment name hplaceholder hunfilled

open Api.Sample in
/-- A placeholder that is the name of a nested class and no field is filled with the class. -/
theorem Sample.placeholder_filled_with_class :
    Session named id "app.api" pages [pageNode] ∧
      (∀ node ∈ pages.chain pageNode, pages.OfResource node) ∧
      pages.Placeholder pageNode page [("id", .int 7)] "\x7bid\x7d-\x7bNotes\x7d" "Notes" ∧
      ¬ pages.Declares page "Notes" ∧
      pages.route pageNode = .ok "/7-%3Cclass%20%27app.api.Page.Notes%27%3E" := by
  refine ⟨session_pages, ?_, placeholder_notes, not_declares_notes, by cbv⟩
  intro node hnode
  obtain rfl : node = pageNode := List.mem_singleton.mp hnode
  exact ⟨_, _, _, .intro rfl rfl⟩

end Waymark.Api

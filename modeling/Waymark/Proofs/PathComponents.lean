import Mathlib.Data.List.Forall2
import Waymark.Proofs.RouteForm

/-! # Components of routes

    Where each resource of a chain has a single step, a text of its own or a placeholder, the
    route of a node should say which node it is: one component for each resource, from which the
    value in its placeholder can be read back.

    * What is read back from a percent-encoded text is the text
      (`Text.percentDecoded?_percentEncoded`).
    * Each resource has its component (`Registry.GoesBy`), but those that are empty are left out
      of the route. A component is empty exactly if a placeholder is filled with an empty text
      (`Registry.Blank`).

    The main result is `Registry.route_components`. It says for every chain of such resources what
    stands between the slashes of the route, and that only blank nodes share a route with the node
    above them, or with other nodes of their class.
-/

namespace Waymark

namespace Text

/-! ## Reading an encoded text back -/

/-- The octets that a percent-encoded text stands for. A percent sign without two digits behind it
    stands for itself. -/
def percentOctets : List Char → List UInt8
  | '%' :: high :: low :: rest =>
    match escapeDigit? high, escapeDigit? low with
    | some h, some l => UInt8.ofNat (16 * h + l) :: percentOctets rest
    | _, _ => String.utf8EncodeChar '%' ++ percentOctets (high :: low :: rest)
  | c :: rest => String.utf8EncodeChar c ++ percentOctets rest
  | [] => []

/-- The text that a percent-encoded text stands for, if its octets are those of one. -/
def percentDecoded? (s : String) : Option String :=
  String.fromUTF8? (percentOctets s.toList).toByteArray

/-- Only a plus sign has another meaning in a form. -/
theorem percentOctets_eq_formOctets {cs : List Char} (h : '+' ∉ cs) :
    percentOctets cs = formOctets cs := by
  fun_induction percentOctets cs with
  | case1 high low rest hv lv hhigh hlow ih =>
    rw [formOctets, hhigh, hlow]
    simp only [ih (by simp_all)]
  | case2 high low rest hnone ih =>
    rw [formOctets]
    split
    · next hhigh hlow => exact absurd hlow (hnone _ _ hhigh)
    · rw [ih (by simp_all)]
  | case3 c rest hplain ih =>
    -- the two readings differ in plus signs only
    have hplus : c ≠ '+' := fun heq => h (heq ▸ List.mem_cons_self)
    rw [formOctets.eq_3 _ _ hplain hplus, ih fun hmem => h (List.mem_cons_of_mem _ hmem)]
  | case4 => rfl

/-- A character in front that is encoded is read as its octets. -/
theorem formOctets_encodedChar (c : Char) (rest : List Char) :
    formOctets ((if isUnreserved c then [c] else (utf8Bytes c).flatMap percentByte) ++ rest)
      = String.utf8EncodeChar c ++ formOctets rest := by
  by_cases hspace : c = ' '
  · subst hspace
    have hbytes : utf8Bytes ' ' = [32] := by
      rw [utf8Bytes_eq]
      rfl
    rw [if_neg (by decide), hbytes]
    exact formOctets_percentByte 32 rest
  · have hchar := formOctets_formChar c rest
    unfold formChar at hchar
    rwa [if_neg (by simpa using hspace)] at hchar

/-- **What is read from the encoded form of a text is the text.** -/
theorem percentDecoded?_percentEncoded (s : String) :
    percentDecoded? (percentEncoded s) = some s := by
  have hoctets : ∀ cs : List Char,
      formOctets (cs.flatMap fun c =>
        if isUnreserved c then [c] else (utf8Bytes c).flatMap percentByte)
      = cs.flatMap String.utf8EncodeChar := by
    intro cs
    induction cs with
    | nil => rfl
    | cons c rest ih => rw [List.flatMap_cons, formOctets_encodedChar, ih, List.flatMap_cons]
  -- a plus sign is encoded, so that none can stand for a blank
  have hplus : '+' ∉ (percentEncoded s).toList := by
    intro h
    rcases mem_percentEncodeUnless h with hkept | hpercent | halphanum
    · exact absurd hkept (by decide)
    · exact absurd hpercent (by decide)
    · exact absurd halphanum (by decide)
  unfold percentDecoded?
  rw [percentOctets_eq_formOctets hplus, percentEncoded, percentEncodeUnless,
    String.toList_ofList, hoctets, ← toUTF8_ofList, String.ofList_toList]
  exact dif_pos s.isValidUTF8

end Text

/-! ## Routes of single steps -/

namespace Route

variable {parts others : List String} {part : String}

/-- The components of a route that is made of these parts: those that are not empty, or a single
    one that is, if all of them are. -/
def components (parts : List String) : List String :=
  match parts.filter (· ≠ "") with
  | [] => [""]
  | nonempty => nonempty

theorem normal_eq_components (h : ∀ part ∈ parts, '/' ∉ part.toList) :
    normal parts = "/" ++ "/".intercalate (components parts) := by
  have hbare : parts.map bare = parts := by
    conv_rhs => rw [← List.map_id parts]
    refine List.map_congr_left fun part hpart => String.toList_injective ?_
    rw [toList_bare]
    refine Text.dropAround_eq_self (fun c hc => ?_) fun c hc => ?_
    · exact beq_false_of_ne fun heq => h part hpart (heq ▸ List.mem_of_mem_head? hc)
    · exact beq_false_of_ne fun heq => h part hpart (heq ▸ List.mem_of_getLast? hc)
  unfold normal components
  rw [hbare]
  cases parts.filter (· ≠ "") with
  | nil => rfl
  | cons first rest => rfl

theorem stepsOf_components (h : ∀ part ∈ parts, '/' ∉ part.toList) :
    stepsOf ("/".intercalate (components parts)) = components parts := by
  have hne : components parts ≠ [] := by
    unfold components
    split
    · exact List.cons_ne_nil _ _
    · assumption
  refine stepsOf_intercalate hne fun step hstep => ?_
  unfold components at hstep
  split at hstep
  · rw [List.mem_singleton.mp hstep]
    exact List.not_mem_nil
  · exact h step (List.mem_of_mem_filter hstep)

theorem components_of_not_mem (hne : parts ≠ []) (h : "" ∉ parts) : components parts = parts := by
  have hall : parts.filter (· ≠ "") = parts := by
    rw [List.filter_eq_self]
    exact fun part hpart => decide_eq_true fun heq => h (heq ▸ hpart)
  unfold components
  rw [hall]
  split
  · exact absurd ‹_› hne
  · rfl

/-- Every part has its component unless some of several parts are empty. -/
theorem components_eq_self_iff (hne : parts ≠ []) :
    components parts = parts ↔ "" ∉ parts ∨ parts.length = 1 := by
  constructor
  · intro h
    by_cases hmem : "" ∈ parts
    · refine .inr ?_
      unfold components at h
      split at h
      · rw [← h]
        rfl
      · -- the empty part is not among those that are left
        rw [← h] at hmem
        exact absurd rfl (of_decide_eq_true (List.mem_filter.mp hmem).2)
    · exact .inl hmem
  · rintro (h | h)
    · exact components_of_not_mem hne h
    -- a single part is left even if it is empty
    · obtain ⟨part, rfl⟩ := List.length_eq_one_iff.mp h
      by_cases hpart : part = ""
      · subst hpart
        rfl
      · exact components_of_not_mem hne (by simpa using Ne.symm hpart)

/-- One more part is one more component unless it is empty. -/
theorem components_concat_eq_iff (parts : List String) (part : String) :
    components (parts ++ [part]) = components parts ↔ part = "" := by
  constructor
  · intro h
    by_contra hpart
    unfold components at h
    rw [List.filter_append, List.filter_cons_of_pos (by simpa using hpart), List.filter_nil] at h
    -- one more part that is not empty makes the components longer or replaces the empty one
    cases hfront : parts.filter (· ≠ "") with
    | nil =>
      rw [hfront] at h
      exact hpart (List.cons.inj h).1
    | cons first rest =>
      rw [hfront] at h
      have hlength := congrArg List.length h
      simp at hlength
  · rintro rfl
    unfold components
    rw [List.filter_append]
    simp

theorem normal_eq_normal_iff (h : ∀ part ∈ parts, '/' ∉ part.toList)
    (h' : ∀ part ∈ others, '/' ∉ part.toList) :
    normal parts = normal others ↔ components parts = components others := by
  rw [normal_eq_components h, normal_eq_components h']
  constructor
  · intro heq
    have hrest : "/".intercalate (components parts) = "/".intercalate (components others) := by
      refine String.toList_injective ?_
      have hlist := congrArg String.toList heq
      rw [String.toList_append, String.toList_append] at hlist
      exact List.append_cancel_left hlist
    rw [← stepsOf_components h, hrest, stepsOf_components h']
  · intro heq
    rw [heq]

end Route

namespace Api

/-! ## Segments of a single step -/

/-- A text of its own, without slashes and braces. -/
structure IsLiteral (segment : String) : Prop where
  nonempty : segment ≠ ""
  plain : ∀ c ∈ segment.toList, c ≠ '/' ∧ c ≠ '\x7b' ∧ c ≠ '\x7d'

/-- The segment is a placeholder and nothing else. -/
def IsHole (segment name : String) : Prop :=
  IsFieldName name.toList ∧ segment.toList = braced name.toList []

variable {segment name : String} {value : String → Option Value} {out : List Char}

theorem IsLiteral.not_hasPlaceholder (h : IsLiteral segment) (name : String) :
    ¬ HasPlaceholder segment name := by
  rintro ⟨-, before, after, heq⟩
  have hbrace : '\x7b' ∈ segment.toList := by
    rw [heq]
    exact List.mem_append_right _ List.mem_cons_self
  exact (h.plain _ hbrace).2.1 rfl

theorem IsHole.fills_iff (h : IsHole segment name) :
    Fills value segment.toList out ↔
      ∃ v, value name = some v ∧ out = (Text.percentEncoded (routeText v)).toList := by
  rw [h.2, fills_braced_iff h.1, String.ofList_toList]
  constructor
  · rintro ⟨v, rest, hv, hrest, hout⟩
    cases hrest
    exact ⟨v, hv, by rw [hout, List.append_nil]⟩
  · rintro ⟨v, hv, hout⟩
    exact ⟨v, [], hv, .nil, by rw [hout, List.append_nil]⟩

/-- A placeholder is that of one name. -/
theorem IsHole.unique {other : String} (h : IsHole segment name) (h' : IsHole segment other) :
    name = other :=
  String.toList_injective (braced_inj h.1 h'.1 (h.2.symm.trans h'.2)).1

theorem IsLiteral.not_isHole (h : IsLiteral segment) (name : String) : ¬ IsHole segment name :=
  fun hhole => h.not_hasPlaceholder name ⟨hhole.1, [], [], hhole.2⟩

namespace Registry

variable {r : Registry} {node node' v v' : Value} {part part' : String}

/-- The node is of a resource with one step: a literal, or a placeholder for one of its fields. -/
def SingleStep (r : Registry) (node : Value) : Prop :=
  ∃ c fields segment, r.Stands node c fields segment ∧
    (IsLiteral segment ∨ ∃ name, IsHole segment name ∧
      ∃ declared, r.fields? c = some declared ∧ ∃ f ∈ declared, f.name = name)

/-- What the node goes by in a route: its literal segment, or what reads as the text of the value
    in its placeholder. -/
inductive GoesBy (r : Registry) : Value → String → Prop
  | literal {node : Value} {c : ClassInfo} {fields : List (String × Value)} {segment : String}
    (stands : r.Stands node c fields segment) (plain : IsLiteral segment) : GoesBy r node segment
  | value {node value : Value} {c : ClassInfo} {fields : List (String × Value)}
    {segment name part : String} (stands : r.Stands node c fields segment)
    (hole : IsHole segment name) (there : fields.lookup name = some value)
    (read : Text.percentDecoded? part = some (routeText value)) : GoesBy r node part

/-- The placeholder of the node is filled with an empty text. -/
def Blank (r : Registry) (node : Value) : Prop :=
  ∃ c fields segment name value, r.Stands node c fields segment ∧ IsHole segment name ∧
    fields.lookup name = some value ∧ routeText value = ""

/-- Both are nodes of the same resource. -/
def OfOneClass (r : Registry) (node node' : Value) : Prop :=
  ∃ c fields fields' segment, r.Stands node c fields segment ∧ r.Stands node' c fields' segment

/-- The placeholder of both nodes, if they have one, is filled with the same text. -/
def SameText (r : Registry) (node node' : Value) : Prop :=
  ∀ c fields c' fields' segment name value value', r.Stands node c fields segment →
    r.Stands node' c' fields' segment → IsHole segment name → fields.lookup name = some value →
    fields'.lookup name = some value' → routeText value = routeText value'

/-- What is known of the part of a route that a node makes up. -/
structure HasPart (r : Registry) (node : Value) (part : String) : Prop where
  text : r.segmentText node = .ok part
  goesBy : r.GoesBy node part
  slash_not_mem : '/' ∉ part.toList
  eq_empty_iff : part = "" ↔ r.Blank node

theorem Stands.unique {c c' : ClassInfo} {fields fields' : List (String × Value)}
    {segment segment' : String} (h : r.Stands node c fields segment)
    (h' : r.Stands node c' fields' segment') : c = c' ∧ fields = fields' ∧ segment = segment' := by
  cases h with
  | intro hclass hsegment =>
    cases h' with
    | intro hclass' hsegment' =>
      obtain rfl := Option.some.inj (hclass.symm.trans hclass')
      exact ⟨rfl, rfl, Option.some.inj (hsegment.symm.trans hsegment')⟩

theorem percentEncoded_eq_empty_iff {text : String} :
    Text.percentEncoded text = "" ↔ text = "" := by
  constructor
  · intro h
    by_contra hne
    exact percentEncoded_ne_nil hne (by rw [h]; rfl)
  · rintro rfl
    rfl

theorem slash_not_mem_percentEncoded (text : String) : '/' ∉ (Text.percentEncoded text).toList := by
  intro hmem
  rcases mem_percentEncoded hmem with hplain | hpercent
  · exact absurd hplain (by decide)
  · exact absurd hpercent (by decide)

/-- A literal makes up its part, whatever the fields of the node are. -/
theorem hasPart_of_literal {c : ClassInfo} {fields : List (String × Value)} {segment : String}
    (hstands : r.Stands node c fields segment) (hplain : IsLiteral segment) :
    r.HasPart node segment where
  text := by
    have hnone : ∀ name, HasPlaceholder segment name → (r.member? c fields name).isSome = true :=
      fun name hname => absurd hname (hplain.not_hasPlaceholder name)
    obtain ⟨out, hout⟩ := exists_fills hnone
    have hself := hout.eq_self hplain.not_hasPlaceholder
    exact segmentText_eq_ok_iff.mpr ⟨c, fields, segment, hstands, hself ▸ hout⟩
  goesBy := .literal hstands hplain
  slash_not_mem := fun hmem => (hplain.plain _ hmem).1 rfl
  eq_empty_iff := by
    refine ⟨fun hempty => absurd hempty hplain.nonempty, ?_⟩
    rintro ⟨c', fields', segment', name, value, hstands', hhole, -, -⟩
    obtain ⟨-, -, rfl⟩ := hstands.unique hstands'
    exact absurd hhole (hplain.not_isHole name)

/-- A placeholder makes up the encoded text of its value. -/
theorem hasPart_of_hole {c : ClassInfo} {fields : List (String × Value)} {segment name : String}
    {value : Value} (hstands : r.Stands node c fields segment) (hhole : IsHole segment name)
    (hvalue : fields.lookup name = some value) :
    r.HasPart node (Text.percentEncoded (routeText value)) where
  text := by
    refine segmentText_eq_ok_iff.mpr ⟨c, fields, segment, hstands, ?_⟩
    exact hhole.fills_iff.mpr ⟨value, member?_of_lookup hvalue, rfl⟩
  goesBy := .value hstands hhole hvalue (Text.percentDecoded?_percentEncoded _)
  slash_not_mem := slash_not_mem_percentEncoded _
  eq_empty_iff := by
    rw [percentEncoded_eq_empty_iff]
    constructor
    · exact fun hempty => ⟨c, fields, segment, name, value, hstands, hhole, hvalue, hempty⟩
    · rintro ⟨c', fields', segment', name', value', hstands', hhole', hvalue', hempty⟩
      obtain ⟨-, rfl, rfl⟩ := hstands.unique hstands'
      obtain rfl := hhole.unique hhole'
      obtain rfl := Option.some.inj (hvalue.symm.trans hvalue')
      exact hempty

theorem exists_hasPart (hmade : r.Made node) (hsingle : r.SingleStep node) :
    ∃ part, r.HasPart node part := by
  obtain ⟨c, fields, segment, hstands, hplain | ⟨name, hhole, declared, hdeclared, f, hf, rfl⟩⟩ :=
    hsingle
  · exact ⟨segment, hasPart_of_literal hstands hplain⟩
  · obtain ⟨value, hvalue⟩ := Option.isSome_iff_exists.mp
      (hmade.isSome_lookup hstands hdeclared hf)
    exact ⟨_, hasPart_of_hole hstands hhole hvalue⟩

theorem HasPart.unique (h : r.HasPart node part) (h' : r.HasPart node part') : part = part' :=
  Except.ok.inj (h.text.symm.trans h'.text)

/-- Two nodes of one resource make up the same part exactly if the same text fills their
    placeholders. -/
theorem HasPart.eq_iff (h : r.HasPart node part) (h' : r.HasPart node' part')
    (hclass : r.OfOneClass node node') : part = part' ↔ r.SameText node node' := by
  obtain ⟨c, fields, fields', segment, hstands, hstands'⟩ := hclass
  constructor
  · intro heq c₁ f₁ c₂ f₂ segment₁ name value value' hs hs' hhole hvalue hvalue'
    obtain ⟨-, rfl, rfl⟩ := hstands.unique hs
    obtain ⟨-, rfl, -⟩ := hstands'.unique hs'
    have hpart := h.unique (hasPart_of_hole hstands hhole hvalue)
    have hpart' := h'.unique (hasPart_of_hole hstands' hhole hvalue')
    -- the texts are read back from the parts
    refine Option.some.inj ?_
    rw [← Text.percentDecoded?_percentEncoded (routeText value), ← hpart, heq, hpart',
      Text.percentDecoded?_percentEncoded]
  · intro hsame
    cases h.goesBy with
    | literal hs hplain =>
      obtain ⟨-, -, rfl⟩ := hstands.unique hs
      exact (hasPart_of_literal hstands' hplain).unique h'
    | value hs hhole hvalue hread =>
      obtain ⟨-, rfl, rfl⟩ := hstands.unique hs
      cases h'.goesBy with
      | literal hs' hplain =>
        obtain ⟨-, -, rfl⟩ := hstands'.unique hs'
        exact absurd hhole (hplain.not_isHole _)
      | value hs' hhole' hvalue' hread' =>
        obtain ⟨-, rfl, rfl⟩ := hstands'.unique hs'
        obtain rfl := hhole.unique hhole'
        have htext := hsame _ _ _ _ _ _ _ _ hstands hstands' hhole hvalue hvalue'
        rw [h.unique (hasPart_of_hole hstands hhole hvalue),
          h'.unique (hasPart_of_hole hstands' hhole hvalue'), htext]

/-! ## Routes of nodes -/

/-- The nodes of the chain make up parts, the outermost first. -/
theorem exists_parts (hmade : r.Made v) (hsingle : ∀ node ∈ r.chain v, r.SingleStep node) :
    ∃ parts, List.Forall₂ r.HasPart (r.chain v).reverse parts := by
  refine exists_forall₂ fun node hnode => ?_
  have hmem := List.mem_reverse.mp hnode
  have hstep := hsingle node hmem
  refine exists_hasPart ?_ hstep
  obtain ⟨c, fields, segment, hstands, -⟩ := hstep
  cases hstands with
  | intro => exact Made.of_mem_chain v (fun ref serial fields heq => heq ▸ hmade) hmem

section

variable {parts parts' : List String}

theorem route_of_parts (h : List.Forall₂ r.HasPart (r.chain v).reverse parts) :
    r.route v = .ok (Route.normal parts) :=
  route_of_forall₂ (h.imp fun _ _ hpart => hpart.text)

theorem slash_not_mem_parts {nodes : List Value} (h : List.Forall₂ r.HasPart nodes parts) :
    ∀ part ∈ parts, '/' ∉ part.toList := by
  intro part hpart
  obtain ⟨node, -, hnode⟩ := exists_left_of_forall₂ h hpart
  exact hnode.slash_not_mem

/-- Some part is empty exactly if some node is blank. -/
theorem empty_mem_parts_iff {nodes : List Value} (h : List.Forall₂ r.HasPart nodes parts) :
    "" ∈ parts ↔ ∃ node ∈ nodes, r.Blank node := by
  induction h with
  | nil => simp
  | cons hfirst _ ih =>
    rw [List.mem_cons, List.exists_mem_cons_iff, ih, eq_comm, hfirst.eq_empty_iff]

/-- The routes of two nodes are equal exactly if what is left of their parts is. -/
theorem route_eq_route_iff (h : List.Forall₂ r.HasPart (r.chain v).reverse parts)
    (h' : List.Forall₂ r.HasPart (r.chain v').reverse parts') :
    r.route v = r.route v' ↔ Route.components parts = Route.components parts' := by
  rw [route_of_parts h, route_of_parts h', Except.ok.injEq,
    Route.normal_eq_normal_iff (slash_not_mem_parts h) (slash_not_mem_parts h')]

/-- Parts of nodes of the same resources are equal exactly if the same texts fill their
    placeholders. -/
theorem parts_eq_iff {nodes nodes' : List Value} (h : List.Forall₂ r.HasPart nodes parts)
    (h' : List.Forall₂ r.HasPart nodes' parts') (hclass : List.Forall₂ r.OfOneClass nodes nodes') :
    parts = parts' ↔ List.Forall₂ r.SameText nodes nodes' := by
  induction hclass generalizing parts parts' with
  | nil =>
    cases h
    cases h'
    exact ⟨fun _ => .nil, fun _ => rfl⟩
  | cons hfirst _ ih =>
    cases h with
    | cons hpart hrest =>
      cases h' with
      | cons hpart' hrest' =>
        rw [List.cons.injEq, hpart.eq_iff hpart' hfirst, ih hrest hrest', List.forall₂_cons]

end

/-- **What stands between the slashes of a route.** On a chain of resources that have a single step
    each, every node goes by a part, and the components of its route are the parts that are not
    empty. There is one for each node exactly if none of them is blank or there is only one. A node
    shares the route with the one above it exactly if it is blank itself, and two nodes of the same
    resources without blank ones share it exactly if the same texts fill their placeholders. -/
theorem route_components (hmade : r.Made v) (hsingle : ∀ node ∈ r.chain v, r.SingleStep node) :
    ∃ rest parts, r.route v = .ok ("/" ++ rest) ∧
      List.Forall₂ r.GoesBy (r.chain v).reverse parts ∧
      Route.stepsOf rest = Route.components parts ∧
      (Route.stepsOf rest = parts ↔
        (∀ node ∈ r.chain v, ¬ r.Blank node) ∨ (r.chain v).length = 1) ∧
      (∀ above, r.Hangs v above → (r.route v = r.route above ↔ r.Blank v)) ∧
      ∀ v', r.Made v' → (∀ node ∈ r.chain v', r.SingleStep node) →
        List.Forall₂ r.OfOneClass (r.chain v) (r.chain v') →
        (∀ node ∈ r.chain v, ¬ r.Blank node) → (∀ node ∈ r.chain v', ¬ r.Blank node) →
        (r.route v = r.route v' ↔ List.Forall₂ r.SameText (r.chain v) (r.chain v')) := by
  obtain ⟨parts, hparts⟩ := exists_parts hmade hsingle
  have hslash := slash_not_mem_parts hparts
  have hlength : parts.length = (r.chain v).length := by
    rw [← hparts.length_eq, List.length_reverse]
  have hne : parts ≠ [] := by
    rintro rfl
    exact chain_ne_nil r v (List.length_eq_zero_iff.mp hlength.symm)
  -- a part is empty exactly if its node is blank
  have hempty : "" ∉ parts ↔ ∀ node ∈ r.chain v, ¬ r.Blank node := by
    rw [empty_mem_parts_iff hparts]
    simp
  refine ⟨"/".intercalate (Route.components parts), parts, ?_, hparts.imp fun _ _ h => h.goesBy,
    Route.stepsOf_components hslash, ?_, fun above habove => ?_, ?_⟩
  · rw [route_of_parts hparts, Route.normal_eq_components hslash]
  · rw [Route.stepsOf_components hslash, Route.components_eq_self_iff hne, hempty, hlength]
  · -- the parts of the node above are all but the last one
    have hback := List.forall₂_reverse_iff.mpr hparts
    rw [List.reverse_reverse, habove.chain_eq] at hback
    obtain ⟨part, outer, hpart, houter, heq⟩ := List.forall₂_cons_left_iff.mp hback
    obtain rfl : parts = outer.reverse ++ [part] := by
      rw [← List.reverse_cons, ← heq, List.reverse_reverse]
    rw [route_eq_route_iff hparts (List.forall₂_reverse_iff.mpr houter),
      Route.components_concat_eq_iff, hpart.eq_empty_iff]
  · intro v' hmade' hsingle' hclass hfull hfull'
    obtain ⟨parts', hparts'⟩ := exists_parts hmade' hsingle'
    have hempty' : "" ∉ parts' := by
      rw [empty_mem_parts_iff hparts']
      simpa using hfull'
    have hne' : parts' ≠ [] := by
      rintro rfl
      exact chain_ne_nil r v' (List.reverse_eq_nil_iff.mp (List.forall₂_nil_right_iff.mp hparts'))
    rw [route_eq_route_iff hparts hparts', Route.components_of_not_mem hne (hempty.mpr hfull),
      Route.components_of_not_mem hne' hempty',
      parts_eq_iff hparts hparts' (List.forall₂_reverse_iff.mpr hclass), List.forall₂_reverse_iff]

end Registry

/-! ## Files on a shelf -/

namespace Sample

/-- Files stand on a shelf. -/
def shelf : ClassInfo :=
  { ref := ⟨1, "app.api", "Files", "type"⟩, segment := some "files" }

/-- A file goes by its name. -/
def file : ClassInfo :=
  { ref := ⟨0, "app.api", "Files.Named", "type"⟩, segment := some "\x7bname\x7d"
    fields := [{ name := "p", isParent := true }, { name := "name" }], parent := some shelf.ref }

/-- The registry after so many nodes have been made. -/
def shelves (objects : Nat) : Registry :=
  { classes := [file, shelf], objects }

def shelfNode : Value :=
  .node shelf.ref 0 []

def fileNode (name : String) : Value :=
  .node file.ref 1 [("p", shelfNode), ("name", .text name)]

theorem sound_of_shelves (objects : Nat) : (shelves objects).Sound := by
  have hplaces : ∀ entry ∈ [file, shelf].zipIdx,
      entry.1.ref.serial = entry.2 ∧ ∀ a ∈ entry.1.ancestors, a < 2 := by decide
  exact Registry.sound_of_places hplaces

theorem made_shelfNode : (shelves 1).Made shelfNode := by
  have hmake : (shelves 0).make shelf [] = .ok (shelves 1, shelfNode) := rfl
  exact .make (sound_of_shelves 0) rfl hmake fun name inner number values hmem => by cases hmem

theorem made_fileNode (name : String) : (shelves 2).Made (fileNode name) := by
  have hmake : (shelves 1).make file [("p", shelfNode), ("name", .text name)]
      = .ok (shelves 2, fileNode name) := rfl
  refine .make (sound_of_shelves 1) rfl hmake fun other inner number values hmem => ?_
  simp only [List.mem_cons, Prod.mk.injEq, reduceCtorEq, and_false, List.not_mem_nil,
    or_false] at hmem
  exact hmem.2 ▸ made_shelfNode

theorem stands_fileNode (name : String) : (shelves 2).Stands (fileNode name) file
    [("p", shelfNode), ("name", .text name)] "\x7bname\x7d" :=
  .intro rfl rfl

theorem isHole_file : IsHole "\x7bname\x7d" "name" :=
  ⟨⟨'n', ['a', 'm', 'e'], rfl, by decide, List.all_eq_true.mp (by decide)⟩, rfl⟩

theorem singleStep_fileNode (name : String) :
    ∀ node ∈ (shelves 2).chain (fileNode name), (shelves 2).SingleStep node := by
  have hchain : (shelves 2).chain (fileNode name) = [fileNode name, shelfNode] := rfl
  rw [hchain]
  intro node hnode
  rcases List.mem_cons.mp hnode with rfl | hnode
  · exact ⟨_, _, _, stands_fileNode name, .inr ⟨"name", isHole_file, file.fields, rfl,
      { name := "name" }, by simp [file], rfl⟩⟩
  · obtain rfl := List.mem_singleton.mp hnode
    exact ⟨shelf, [], "files", .intro rfl rfl, .inl ⟨by decide, by simp⟩⟩

theorem hangs_fileNode (name : String) : (shelves 2).Hangs (fileNode name) shelfNode :=
  ⟨_, _, _, "p", rfl, rfl, rfl⟩

theorem blank_fileNode_iff (name : String) :
    (shelves 2).Blank (fileNode name) ↔ name = "" := by
  constructor
  · rintro ⟨c, fields, segment, key, value, hstands, hhole, hvalue, hempty⟩
    obtain ⟨rfl, rfl, rfl⟩ := (stands_fileNode name).unique hstands
    obtain rfl := isHole_file.unique hhole
    cases Option.some.inj hvalue
    exact hempty
  · rintro rfl
    exact ⟨_, _, _, _, _, stands_fileNode "", isHole_file, rfl, rfl⟩

end Sample

open Api.Sample in
/-- A name with a slash in it is one component, and not that of the shelf. -/
theorem Registry.route_components_sample :
    (shelves 2).Made (fileNode "a b/c") ∧
      (∀ node ∈ (shelves 2).chain (fileNode "a b/c"), (shelves 2).SingleStep node) ∧
      (shelves 2).Hangs (fileNode "a b/c") shelfNode ∧
      ∃ parts, (shelves 2).route (fileNode "a b/c") = .ok ("/" ++ "files/a%20b%2Fc") ∧
        List.Forall₂ (shelves 2).GoesBy [shelfNode, fileNode "a b/c"] parts ∧
        Route.stepsOf "files/a%20b%2Fc" = Route.components parts ∧
        (shelves 2).route (fileNode "a b/c") ≠ (shelves 2).route shelfNode := by
  have hroute : (shelves 2).route (fileNode "a b/c") = .ok ("/" ++ "files/a%20b%2Fc") := by cbv
  obtain ⟨rest, parts, hrest, hparts, hsteps, -, habove, -⟩ :=
    Registry.route_components (made_fileNode "a b/c") (singleStep_fileNode "a b/c")
  have hsame : "/" ++ rest = "/" ++ "files/a%20b%2Fc" := Except.ok.inj (hrest.symm.trans hroute)
  obtain rfl : rest = "files/a%20b%2Fc" := by
    have hlist := congrArg String.toList hsame
    rw [String.toList_append, String.toList_append] at hlist
    exact String.toList_injective (List.append_cancel_left hlist)
  refine ⟨made_fileNode _, singleStep_fileNode _, hangs_fileNode _, parts, hroute, hparts, hsteps,
    fun heq => ?_⟩
  have hblank := (habove _ (hangs_fileNode _)).mp heq
  exact absurd ((blank_fileNode_iff _).mp hblank) (by decide)

open Api.Sample in
/-- A file without a name has the route of its shelf. -/
theorem Sample.blank_file_has_route_of_shelf :
    (shelves 2).Made (fileNode "") ∧
      (∀ node ∈ (shelves 2).chain (fileNode ""), (shelves 2).SingleStep node) ∧
      (shelves 2).Hangs (fileNode "") shelfNode ∧
      (shelves 2).route (fileNode "") = .ok "/files" ∧
      (shelves 2).route shelfNode = .ok "/files" := by
  refine ⟨made_fileNode "", singleStep_fileNode "", hangs_fileNode "", ?_, ?_⟩
  · cbv
  · cbv

end Api

end Waymark

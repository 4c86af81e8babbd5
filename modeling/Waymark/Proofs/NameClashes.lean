import Waymark.Proofs.CompiledTree
import Waymark.Proofs.Pruning
import Waymark.Proofs.SourceClasses

/-! # Classes of one name in one body

    Two classes in the body of an endpoint may have the same simple name. This module follows
    them from the source to the compiled tree:

    * The names nested in an endpoint are those of the classes in its body that count, in some
      order (`Endpoint.ReadFrom.nestedNames_perm`), so two classes of one name make it clash.
    * If all classes around such an endpoint are read and none of them is fatal
      (`Statement.Reaches`), compilation comes to it, and reports the name
      (`Endpoint.Visited.duplicate_reported`).
    * Nothing with a qualified name at or below that endpoint is compiled
      (`Endpoint.Visited.not_compiled`). Here it matters that names have no dots, and that
      siblings on the way have different names.
-/

namespace Waymark

open Waymark.Grammar

/-! ## Members of a class body -/

theorem perm_filterMap_or {α β : Type} {f g : α → Option β} {xs : List α}
    (h : ∀ a ∈ xs, f a = none ∨ g a = none) :
    (xs.filterMap f ++ xs.filterMap g).Perm (xs.filterMap fun a => (f a).or (g a)) := by
  induction xs with
  | nil => exact .refl _
  | cons a rest ih =>
    have hrest := ih fun b hb => h b (List.mem_cons_of_mem _ hb)
    cases hf : f a with
    | some b =>
      have hg : g a = none := (h a List.mem_cons_self).resolve_left (by simp [hf])
      simpa [List.filterMap_cons, hf, hg] using hrest
    | none =>
      cases hg : g a with
      | none => simpa [List.filterMap_cons, hf, hg] using hrest
      -- an item of the second kind moves to its place
      | some c =>
        simp only [List.filterMap_cons, hf, hg, Option.none_or]
        exact List.perm_middle.trans (hrest.cons c)

/-- The simple name of a class that counts in the body it stands in: that of an endpoint whose
    path is known, or of a capability. -/
def Grammar.Statement.memberName? (scope : Scope) : Statement → Option String
  | .classDef name bases decorators _ line =>
    let counts :=
      if isEndpointClass scope decorators then
        ((endpointDecorator scope decorators).bind segmentCodes).isSome
      else (Capability.read? scope "" name bases decorators line).isSome
    if counts then some name else none
  | _ => none

section

variable {scope : Scope} {place : String} {name : String} {bases decorators : List Expr}
  {inner : List Statement} {line : Nat} {o : Endpoint}

/-- Whether a class is a capability does not depend on where it stands. -/
theorem Capability.read?_map_name (path : String) :
    (Capability.read? scope path name bases decorators line).map Capability.name
      = if (Capability.read? scope "" name bases decorators line).isSome then some name
        else none := by
  unfold Capability.read?
  dsimp only
  split
  · rfl
  · rfl

/-- A class that counts is read as an endpoint or as a capability, and never as both. -/
theorem Grammar.Statement.memberName?_eq (st : Statement) (path : String) :
    st.memberName? scope
      = ((Endpoint.read scope path st).value.map Endpoint.name).or
          ((st.capability? scope path).map Capability.name) ∧
    ((Endpoint.read scope path st).value.map Endpoint.name = none ∨
      (st.capability? scope path).map Capability.name = none) := by
  cases st with
  | classDef name bases decorators inner line =>
    -- a class is an endpoint or a capability, and never both
    by_cases hclass : isEndpointClass scope decorators = true
    · obtain ⟨decorator, hdecorator⟩ := Option.isSome_iff_exists.mp hclass
      cases hsegment : segmentCodes decorator with
      | none =>
        simp [Statement.memberName?, Statement.capability?, Endpoint.read, hclass, hdecorator,
          hsegment]
      | some codes =>
        simp [Statement.memberName?, Statement.capability?, Endpoint.read, hclass, hdecorator,
          hsegment]
    · have hplain : isEndpointClass scope decorators = false := Bool.eq_false_iff.mpr hclass
      rw [Endpoint.read_of_plain hplain]
      simp [Statement.memberName?, Statement.capability?, hplain, Capability.read?_map_name]
  | _ => simp [Statement.memberName?, Statement.capability?, Endpoint.read]

/-- The names nested in an endpoint are those of the classes that count in its body. -/
theorem Endpoint.ReadFrom.nestedNames_perm
    (h : Endpoint.ReadFrom scope place (.classDef name bases decorators inner line) o) :
    o.nestedNames.Perm (inner.filterMap (Statement.memberName? scope)) := by
  obtain ⟨hdecorator, hsegment⟩ := h
  show ((Members.read scope (place ++ name ++ ".") inner).value.children.map Endpoint.name
    ++ (Members.read scope (place ++ name ++ ".") inner).value.capabilities.map Capability.name).Perm _
  have hmembers : inner.filterMap (Statement.memberName? scope)
      = inner.filterMap fun st =>
          ((Endpoint.read scope (place ++ name ++ ".") st).value.map Endpoint.name).or
            ((st.capability? scope (place ++ name ++ ".")).map Capability.name) :=
    List.filterMap_congr fun st _ => (st.memberName?_eq _).1
  rw [Members.read_children, Members.read_capabilities, List.map_filterMap, List.map_filterMap,
    hmembers]
  exact perm_filterMap_or fun st _ => (st.memberName?_eq _).2

/-- Two classes of one name, at different places of the body, make the endpoint clash. -/
theorem Endpoint.ReadFrom.one_lt_count
    (h : Endpoint.ReadFrom scope place (.classDef name bases decorators inner line) o)
    {s t : Statement} (htwo : [s, t].Sublist inner) {id : String}
    (hs : s.memberName? scope = some id) (ht : t.memberName? scope = some id) :
    1 < o.nestedNames.count id := by
  have hpair : [s, t].filterMap (Statement.memberName? scope) = [id, id] := by
    simp [hs, ht]
  have hsub := htwo.filterMap (Statement.memberName? scope)
  rw [hpair] at hsub
  have hcount := hsub.count_le id
  rw [h.nestedNames_perm.count_eq]
  have htwice : [id, id].count id = 2 := by simp
  omega

theorem Endpoint.clashing_of_count {id : String} (h : 1 < o.nestedNames.count id) : o.Clashing := by
  intro hnodup
  have hone := List.nodup_iff_count_le_one.mp hnodup id
  omega

end

/-! ## Ways down -/

/-- Reading and compilation come from the class to the class `owner`, which is nested in it at any
    depth: all classes around `owner` are read as endpoints, and none of these is fatal. Each
    class goes with the path of what it is nested in. -/
inductive Grammar.Statement.Reaches (scope : Scope) (place : String) (owner : Statement) :
    (isRoot : Bool) → (path : String) → Statement → Prop
  | here {isRoot : Bool} : Statement.Reaches scope place owner isRoot place owner
  | inside {isRoot : Bool} {path name : String} {bases decorators : List Expr}
      {inner : List Statement} {line : Nat} {e : Endpoint} {st : Statement}
      (read : Endpoint.ReadFrom scope path (.classDef name bases decorators inner line) e)
      (kept : ¬ e.Fatal isRoot) (mem : st ∈ inner)
      (further : Statement.Reaches scope place owner false (path ++ name ++ ".") st) :
      Statement.Reaches scope place owner isRoot path (.classDef name bases decorators inner line)

section

variable {scope : Scope} {place path : String} {owner st : Statement} {isRoot : Bool}
  {e o : Endpoint}

theorem Endpoint.ReadFrom.unique {e' : Endpoint} (h : Endpoint.ReadFrom scope path st e)
    (h' : Endpoint.ReadFrom scope path st e') : e = e' :=
  Option.some.inj ((Endpoint.read_eq_some_iff.mpr h).symm.trans (Endpoint.read_eq_some_iff.mpr h'))

/-- A class that leads to one that is read is read itself. -/
theorem Grammar.Statement.Reaches.exists_readFrom
    (h : Statement.Reaches scope place owner isRoot path st)
    (howner : Endpoint.ReadFrom scope place owner o) : ∃ e, Endpoint.ReadFrom scope path st e := by
  cases h with
  | here => exact ⟨o, howner⟩
  | inside hread _ _ _ => exact ⟨_, hread⟩

/-- **Compilation comes to the classes that the source leads to.** By induction on the way: the
    next class is a child of the endpoint around it. -/
theorem Grammar.Statement.Reaches.exists_visited
    (h : Statement.Reaches scope place owner isRoot path st)
    (howner : Endpoint.ReadFrom scope place owner o) (hread : Endpoint.ReadFrom scope path st e) :
    ∃ way, Endpoint.Visited isRoot e way ∧ e.at? way = some o := by
  induction h generalizing e with
  | here =>
    obtain rfl := hread.unique howner
    exact ⟨[], .here, rfl⟩
  | @inside isRoot path name bases decorators inner line around st haround hkept hmem hfurther ih =>
    obtain rfl := haround.unique hread
    obtain ⟨c, hc⟩ := hfurther.exists_readFrom howner
    obtain ⟨way, hvisited, hat⟩ := ih hc
    -- the child that was read from the inner class is one step of the way
    have hchild : c ∈ around.children := by
      cases hread with
      | intro _ _ =>
        rw [Members.read_children, List.mem_filterMap]
        exact ⟨st, hmem, Endpoint.read_eq_some_iff.mpr hc⟩
    obtain ⟨i, hi⟩ := List.getElem?_of_mem hchild
    exact ⟨i :: way, .deeper hkept hi hvisited, Endpoint.at?_cons_eq_some.mpr ⟨c, hi, hat⟩⟩

/-- What is read has names without dots. By induction on the tree: each endpoint has the name of
    its class. -/
theorem Endpoint.dot_not_mem_name (hread : (Endpoint.read scope path st).value = some e)
    (hnamed : st.Named) {d : Endpoint} (hd : d ∈ e.walk) : '.' ∉ d.name.toList := by
  induction e using Endpoint.tree_induction generalizing path st with
  | step e ih =>
    cases Endpoint.read_eq_some_iff.mp hread with
    | @intro name bases decorators inner line decorator codes hdecorator hsegment =>
      rw [Endpoint.walk_eq, List.mem_cons, List.mem_flatMap] at hd
      rcases hd with rfl | ⟨c, hc, hd⟩
      · exact Text.dot_not_mem_of_isIdentifier hnamed.1
      · have hchild := hc
        rw [Members.read_children, List.mem_filterMap] at hchild
        obtain ⟨st', hst', hread'⟩ := hchild
        exact ih c hc hread' (allNamed_iff.mp hnamed.2 st' hst') hd

end

/-! ## Qualified names -/

/-- The qualified name is that of the owner, or of something nested in it at any depth. -/
def IsUnder (owner qualname : String) : Prop :=
  qualname = owner ∨ ∃ rest, qualname = owner ++ "." ++ rest

theorem IsUnder.trans {a b c : String} (h : IsUnder a b) (h' : IsUnder b c) : IsUnder a c := by
  rcases h with rfl | ⟨rest, rfl⟩
  · exact h'
  · rcases h' with rfl | ⟨more, rfl⟩
    · exact .inr ⟨rest, rfl⟩
    · exact .inr ⟨rest ++ "." ++ more, by simp only [String.append_assoc]⟩

/-- What is nested has the longer name. -/
theorem IsUnder.length_le {a b : String} (h : IsUnder a b) : a.length ≤ b.length := by
  rcases h with rfl | ⟨rest, rfl⟩
  · exact Nat.le_refl _
  · simp only [String.length_append]
    omega

/-- Of two names without dots, nothing is under both. -/
theorem eq_of_isUnder {path a b qualname : String} (ha : '.' ∉ a.toList) (hb : '.' ∉ b.toList)
    (h : IsUnder (path ++ a) qualname) (h' : IsUnder (path ++ b) qualname) : a = b := by
  -- what comes after the path begins with the name, and ends there or goes on with a dot
  have hfirst : ∀ {name : String}, '.' ∉ name.toList → IsUnder (path ++ name) qualname →
      ∃ tail, qualname = path ++ tail ∧ topName (tail ++ "." ++ "") = name := by
    intro name hname hunder
    rcases hunder with rfl | ⟨rest, rfl⟩
    · exact ⟨name, rfl, topName_append_dot hname ""⟩
    · refine ⟨name ++ "." ++ rest, by simp only [String.append_assoc], ?_⟩
      have htop := topName_append_dot hname (rest ++ "." ++ "")
      simpa only [String.append_assoc] using htop
  obtain ⟨tail, htail, rfl⟩ := hfirst ha h
  obtain ⟨tail', htail', rfl⟩ := hfirst hb h'
  obtain rfl : tail = tail' := by
    apply String.toList_inj.mp
    have hsame := congrArg String.toList (htail.symm.trans htail')
    simpa using hsame
  rfl

namespace Endpoint

variable {scope : Scope} {isRoot : Bool} {path : String} {e o : Endpoint} {u : ClientUnit}

/-- All that is nested in an endpoint is under it. -/
theorem Placed.isUnder (h : e.Placed path) {d : Endpoint} (hd : d ∈ e.walk) :
    IsUnder e.qualname d.qualname := by
  induction e using tree_induction generalizing path with
  | step e ih =>
    cases h with
    | intro _ _ hchildren =>
      rw [walk_eq, List.mem_cons, List.mem_flatMap] at hd
      rcases hd with rfl | ⟨c, hc, hd⟩
      · exact .inl rfl
      · have hbelow := ih c hc (hchildren c hc) hd
        rw [(hchildren c hc).qualname_eq] at hbelow
        exact .trans (.inr ⟨c.name, rfl⟩) hbelow

/-- A unit has the qualified name of an endpoint in the tree. -/
theorem exists_walk_of_compile (h : (e.compile scope isRoot).value = some u) {v : ClientUnit}
    (hv : v ∈ u.walk) : ∃ d ∈ e.walk, v.qualname = d.qualname := by
  induction e using tree_induction generalizing isRoot u with
  | step e ih =>
    rw [ClientUnit.walk_eq, List.mem_cons, List.mem_flatMap] at hv
    rcases hv with rfl | ⟨child, hchild, hv⟩
    · exact ⟨e, mem_walk_self e, (names_of_compile h).2⟩
    · obtain ⟨c, hc, hcompiled, -⟩ := exists_endpoint_of_child h hchild
      obtain ⟨d, hd, hsame⟩ := ih c hc hcompiled hv
      exact ⟨d, mem_walk_of_child hc hd, hsame⟩

/-- All units that an endpoint is compiled to, and all their operations, are under it. -/
theorem Placed.isUnder_of_compile (h : e.Placed path) (hvalue : (e.compile scope isRoot).value = some u)
    {v : ClientUnit} (hv : v ∈ u.walk) :
    IsUnder e.qualname v.qualname ∧ ∀ op ∈ v.operations, IsUnder e.qualname op.capability := by
  obtain ⟨d, hd, hsame⟩ := exists_walk_of_compile hvalue hv
  refine ⟨hsame ▸ h.isUnder hd, fun op hop => ?_⟩
  have hall : op ∈ u.allOperations := List.mem_flatMap.mpr ⟨v, hv, hop⟩
  obtain ⟨d, hd, cap, hcap, hresolve⟩ := exists_capability hvalue hall
  rw [(Capability.resolve_names hresolve).1]
  exact .inr (h.exists_rest hd hcap)

/-! ## Reports and units -/

/-- **A name that two classes share is reported.** Compilation comes to the endpoint and reports
    each of its clashing names. -/
theorem Visited.duplicate_reported {way : List Nat} (h : Visited isRoot e way)
    (hat : e.at? way = some o) {name : String} (htwice : 1 < o.nestedNames.count name)
    (scope : Scope) :
    (Misfit.duplicateName name).diagnostic scope o.qualname o.line
      ∈ (e.compile scope isRoot).diagnostics := by
  obtain ⟨visits, hledger⟩ := exists_ledger scope isRoot e
  obtain ⟨v, hv, hway⟩ := List.mem_map.mp ((hledger.covers way).mpr h)
  have hfound := hledger.found v hv
  rw [hway, hat] at hfound
  obtain rfl := Option.some.inj hfound
  rw [hledger.diagnostics, List.mem_flatMap]
  refine ⟨v, hv, List.mem_append_left _ ?_⟩
  have hclash := clashing_of_count htwice
  have hfair := hledger.fair v hv
  -- the names clash, so the visit can only be one of a clashing endpoint
  cases hfair with
  | sound hsound _ => exact absurd (.inl hclash) hsound
  | clashing _ _ hexact => exact List.mem_map_of_mem ((hexact name).mpr htwice)
  | orphan _ hdistinct _ => exact absurd hclash hdistinct

/-- **Nothing is compiled of an endpoint with a clash.** By induction on the way to it: what is
    compiled of a sibling has another name, so it can only come from the child on the way, and at
    the end of the way nothing is compiled. -/
theorem Visited.not_compiled {way : List Nat} (h : Visited isRoot e way) (hplaced : e.Placed path)
    (hdots : ∀ d ∈ e.walk, '.' ∉ d.name.toList) (hat : e.at? way = some o) (hclash : o.Clashing)
    (hvalue : (e.compile scope isRoot).value = some u) {v : ClientUnit} (hv : v ∈ u.walk) :
    ¬ IsUnder o.qualname v.qualname ∧ ∀ op ∈ v.operations, ¬ IsUnder o.qualname op.capability := by
  induction h generalizing path u with
  | here =>
    obtain rfl := Option.some.inj hat
    rw [(compile_of_fatal (.inl hclash)).1] at hvalue
    cases hvalue
  | @deeper isRoot e c i way hsound hchild hvisited ih =>
    obtain ⟨c', hc', hat⟩ := at?_cons_eq_some.mp hat
    obtain rfl : c = c' := Option.some.inj (hchild.symm.trans hc')
    have hc : c ∈ e.children := List.mem_of_getElem? hchild
    cases hplaced with
    | intro hqualname hcapabilities hchildren =>
      -- what is below the clashing endpoint is below the child on the way to it
      have hbelow : IsUnder c.qualname o.qualname :=
        (hchildren c hc).isUnder (mem_walk_iff.mpr ⟨way, hat⟩)
      have hcname : c.qualname = e.qualname ++ "." ++ c.name := (hchildren c hc).qualname_eq
      have hdot : '.' ∉ c.name.toList := hdots c (mem_walk_of_child hc (mem_walk_self c))
      have hnodup : e.nestedNames.Nodup := by
        by_contra hnodup
        exact hsound (.inl hnodup)
      rw [ClientUnit.walk_eq, List.mem_cons, List.mem_flatMap] at hv
      rcases hv with rfl | ⟨unit, hunit, hv⟩
      · -- the endpoint itself has a shorter name, and its capabilities have other names
        constructor
        · intro hunder
          rw [(names_of_compile hvalue).2] at hunder
          have hshort := (hbelow.trans hunder).length_le
          simp only [hcname, String.length_append] at hshort
          have hone : ".".length = 1 := rfl
          omega
        · intro op hop hunder
          obtain ⟨cap, hcap, hresolve⟩ := exists_capability_of_operation hvalue hop
          rw [(Capability.resolve_names hresolve).1, (hcapabilities cap hcap).1] at hunder
          have hother := hbelow.trans hunder
          rw [hcname] at hother
          have hcapdot := Text.dot_not_mem_of_isIdentifier (hcapabilities cap hcap).2
          have hsame : c.name = cap.name := eq_of_isUnder hdot hcapdot hother (.inl rfl)
          refine (List.nodup_append.mp hnodup).2.2 c.name (List.mem_map_of_mem hc) cap.name ?_ hsame
          exact List.mem_map_of_mem hcap
      · obtain ⟨d, hd, hcompiled, -⟩ := exists_endpoint_of_child hvalue hunit
        have hwalk : ∀ f ∈ c.walk, '.' ∉ f.name.toList := fun f hf =>
          hdots f (mem_walk_of_child hc hf)
        by_cases hname : d.name = c.name
        · -- names of children differ, so this is the child on the way
          obtain rfl : d = c :=
            List.inj_on_of_nodup_map (List.nodup_append.mp hnodup).1 hd hc hname
          exact ih (hchildren d hd) hwalk hat hcompiled hv
        · have hddot : '.' ∉ d.name.toList := hdots d (mem_walk_of_child hd (mem_walk_self d))
          have hdname : d.qualname = e.qualname ++ "." ++ d.name := (hchildren d hd).qualname_eq
          have hapart : ∀ qualname, IsUnder d.qualname qualname → ¬ IsUnder o.qualname qualname := by
            intro qualname hmine hunder
            have hother := hbelow.trans hunder
            rw [hcname] at hother
            rw [hdname] at hmine
            exact hname (eq_of_isUnder hddot hdot hmine hother)
          obtain ⟨hunit, hoperations⟩ := (hchildren d hd).isUnder_of_compile hcompiled hv
          exact ⟨hapart _ hunit, fun op hop => hapart _ (hoperations op hop)⟩

end Endpoint

end Waymark

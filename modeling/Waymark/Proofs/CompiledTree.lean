import Waymark.Proofs.Outline

/-! # Compiled trees are well formed

    A client is compiled together with others from the roots of descriptors. What is known of
    its tree is known at every depth (`ClientUnit.WellFormed`):

    * a unit is named by its place in the tree, and its operations by theirs;
    * an operation is about the unit that offers it, has a parameter exactly if it is a
      `POST`, and mentions names that the scope of the descriptor knows, in order;
    * no unit offers a verb twice or holds two units of one name, and no unit below the root
      is empty.

    Each of these is established where it arises, by reading (`Endpoint.Placed`), by resolution
    or by compilation, and is brought together here by one induction over the tree. The text of
    a module is made of such a tree without fail.
-/

namespace Waymark

open Waymark.Grammar

/-- What is true of an operation of the unit that is called `owner`. -/
structure Operation.WellFormed (scope : Scope) (owner : String) (op : Operation) : Prop where
  node : op.node = owner
  requestType : op.requestType = owner
  capability : ∃ id, Text.isIdentifier id = true ∧ op.capability = owner ++ "." ++ id
  paramType : op.paramType.isSome = true ↔ op.verb = .post
  sorted : op.names.Pairwise (· < ·)
  known : ∀ name ∈ op.names, scope.Knows name

/-- What is true of a unit and of what is nested directly in it. -/
structure ClientUnit.WellFormed (scope : Scope) (u : ClientUnit) : Prop where
  operations : ∀ op ∈ u.operations, op.WellFormed scope u.qualname
  verbs : (u.operations.map Operation.verb).Nodup
  names : (u.children.map ClientUnit.name).Nodup
  qualnames : ∀ c ∈ u.children, c.qualname = u.qualname ++ "." ++ c.name
  filled : ∀ c ∈ u.children, c.operations ≠ [] ∨ c.children ≠ []

/-! ## Resolution -/

/-- Only `POST` has a slot for a parameter. -/
theorem Capability.isSome_paramType_iff {scope : Scope} {e : Endpoint} {cap : Capability}
    {op : Operation} (h : cap.resolve scope e = .ok op) :
    op.paramType.isSome = true ↔ op.verb = .post := by
  constructor
  · intro hsome
    obtain ⟨verb, arguments, -, -, -, -, rfl⟩ := resolve_eq_ok_iff.mp h
    cases verb with
    | post => rfl
    | get =>
      -- whatever arguments there are, none of them is found at the slot
      exfalso
      revert hsome
      show (sourceAt .get arguments .param).isSome = true → False
      match arguments with
      | [] | [_] | [_, _] | _ :: _ :: _ :: _ => exact Bool.noConfusion
  · intro hverb
    rw [Option.isSome_iff_ne_none]
    exact paramType_ne_none h hverb

/-- What a capability resolves to is well formed, if the capability is named by its place. -/
theorem wellFormed_of_resolve {scope : Scope} {e : Endpoint} {cap : Capability} {op : Operation}
    (h : cap.resolve scope e = .ok op) (hqualname : cap.qualname = e.qualname ++ "." ++ cap.name)
    (hname : Text.isIdentifier cap.name = true) : op.WellFormed scope e.qualname := by
  obtain ⟨hcapability, hnode, hrequest⟩ := Capability.resolve_names h
  refine
    { node := hnode
      requestType := hrequest
      capability := ⟨cap.name, hname, hcapability.trans hqualname⟩
      paramType := Capability.isSome_paramType_iff h
      sorted := ?_
      known := fun name hmem => Capability.knows_of_resolve h hmem }
  obtain ⟨verb, arguments, -, -, -, -, rfl⟩ := Capability.resolve_eq_ok_iff.mp h
  exact Text.sortDistinct_sorted _

/-! ## Compilation -/

/-- The first operations of each verb are among the operations. -/
theorem firstOfEachVerb_subset {op : Operation} {ops : List Operation}
    (h : op ∈ firstOfEachVerb ops) : op ∈ ops := by
  induction ops with
  | nil => cases h
  | cons first later ih =>
    unfold firstOfEachVerb at h
    rcases List.mem_cons.mp h with rfl | h
    · exact List.mem_cons_self
    · exact List.mem_cons_of_mem _ (ih (List.mem_filter.mp h).1)

/-- An operation of a unit is what a capability of its endpoint resolves to. -/
theorem exists_capability_of_operation {scope : Scope} {e : Endpoint} {isRoot : Bool}
    {u : ClientUnit} (h : (e.compile scope isRoot).value = some u) {op : Operation}
    (hop : op ∈ u.operations) : ∃ cap ∈ e.capabilities, cap.resolve scope e = .ok op := by
  obtain ⟨-, rfl⟩ := Endpoint.compile_eq_some h
  obtain ⟨cap, hcap, hfound⟩ := List.mem_filterMap.mp (firstOfEachVerb_subset hop)
  refine ⟨cap, hcap, ?_⟩
  cases hresolve : cap.resolve scope e with
  | error r =>
    rw [hresolve] at hfound
    cases hfound
  | ok other =>
    rw [hresolve] at hfound
    cases hfound
    rfl

/-- The units nested in a unit come from endpoints nested in its endpoint, and none is empty. -/
theorem exists_endpoint_of_child {scope : Scope} {e : Endpoint} {isRoot : Bool} {u c : ClientUnit}
    (h : (e.compile scope isRoot).value = some u) (hc : c ∈ u.children) :
    ∃ d ∈ e.children, (d.compile scope false).value = some c ∧ c.offersAnything = true := by
  obtain ⟨-, rfl⟩ := Endpoint.compile_eq_some h
  have hmem : c ∈ (Endpoint.compileNested scope e.children).value := hc
  rw [Endpoint.compileNested_value] at hmem
  obtain ⟨d, hd, hunit⟩ := List.mem_filterMap.mp hmem
  exact ⟨d, hd, Endpoint.nestedUnit_eq_some.mp hunit⟩

/-- A unit has the names of its endpoint. -/
theorem names_of_compile {scope : Scope} {e : Endpoint} {isRoot : Bool} {u : ClientUnit}
    (h : (e.compile scope isRoot).value = some u) : u.name = e.name ∧ u.qualname = e.qualname := by
  obtain ⟨-, rfl⟩ := Endpoint.compile_eq_some h
  exact ⟨rfl, rfl⟩

/-- One step of the induction: a unit is well formed because its endpoint is placed. -/
theorem wellFormed_of_compile {scope : Scope} {e : Endpoint} {isRoot : Bool} {u : ClientUnit}
    {path : String} (hplaced : e.Placed path) (h : (e.compile scope isRoot).value = some u) :
    u.WellFormed scope := by
  obtain ⟨hverbs, hnames⟩ := distinct_of_compile h u (ClientUnit.mem_walk_self u)
  obtain ⟨-, hqualname⟩ := names_of_compile h
  -- the names below follow from where the endpoint stands
  cases hplaced with
  | intro _ hcapabilities hchildren =>
    refine ⟨?_, hverbs, hnames, ?_, ?_⟩
    · intro op hop
      rw [hqualname]
      obtain ⟨cap, hcap, hresolve⟩ := exists_capability_of_operation h hop
      obtain ⟨hcapability, hidentifier⟩ := hcapabilities cap hcap
      exact wellFormed_of_resolve hresolve hcapability hidentifier
    · intro c hc
      obtain ⟨d, hd, hcompiled, -⟩ := exists_endpoint_of_child h hc
      obtain ⟨hname, hsame⟩ := names_of_compile hcompiled
      rw [hname, hsame, hqualname]
      exact (hchildren d hd).qualname_eq
    · intro c hc
      obtain ⟨d, -, -, hoffers⟩ := exists_endpoint_of_child h hc
      simp only [ClientUnit.offersAnything, Bool.or_eq_true, Bool.not_eq_true',
        List.isEmpty_eq_false_iff] at hoffers
      exact hoffers

/-- All units of a compiled tree are well formed. -/
theorem walk_wellFormed {scope : Scope} {e : Endpoint} {isRoot : Bool} {u : ClientUnit}
    {path : String} (hplaced : e.Placed path) (h : (e.compile scope isRoot).value = some u) :
    ∀ v ∈ u.walk, v.WellFormed scope := by
  induction e using Endpoint.tree_induction generalizing isRoot u path with
  | step e ih =>
    intro v hv
    rw [ClientUnit.walk_eq, List.mem_cons, List.mem_flatMap] at hv
    rcases hv with rfl | ⟨c, hc, hv⟩
    · exact wellFormed_of_compile hplaced h
    · obtain ⟨d, hd, hcompiled, -⟩ := exists_endpoint_of_child h hc
      cases hplaced with
      | intro _ _ hchildren => exact ih d hd (hchildren d hd) hcompiled v hv

/-! ## Roots that are compiled together -/

/-- The request asks for an outermost endpoint of the source of a module. -/
inductive RootRequest.ReadFrom (module : String) (isPackage : Bool) (source : String)
    (r : RootRequest) : Prop where
  | intro {complaint : String} {report : Report (Option Descriptor)} {d : Descriptor}
      (read : Descriptor.ofSource module isPackage source complaint = .ok report)
      (parsed : report.value = some d) (root : r.endpoint ∈ d.roots) (scope : r.scope = d.scope)

/-- Each compiled client comes from one of the requests, which is compiled as on its own. -/
theorem exists_request_of_compileAllFrom {before requests : List RootRequest} {client : ClientRoot}
    (h : client ∈ (compileAllFrom before requests).value) :
    ∃ r ∈ requests, r.compile.value = some client := by
  induction requests generalizing before with
  | nil => cases h
  | cons r rest ih =>
    unfold compileAllFrom at h
    simp only [Report.value_bind, Report.value_pure] at h
    rcases List.mem_append.mp h with h | h
    · refine ⟨r, List.mem_cons_self, ?_⟩
      have hcompiled := Option.mem_toList.mp h
      -- a request that has rivals gives no client
      unfold RootRequest.compileAmong at hcompiled
      split at hcompiled
      · exact hcompiled
      · cases hcompiled
    · obtain ⟨other, hother, hcompiled⟩ := ih h
      exact ⟨other, List.mem_cons_of_mem _ hother, hcompiled⟩

theorem exists_request {requests : List RootRequest} {client : ClientRoot}
    (h : client ∈ (compileAll requests).value) : ∃ r ∈ requests, r.compile.value = some client :=
  exists_request_of_compileAllFrom h

/-- A client of a request that is read from a source is compiled from that source. -/
theorem RootRequest.ReadFrom.compiledFrom {module : String} {isPackage : Bool} {source : String}
    {r : RootRequest} {client : ClientRoot} (h : r.ReadFrom module isPackage source)
    (hcompiled : r.compile.value = some client) : CompiledFrom module isPackage source client := by
  obtain ⟨hread, hparsed, hroot, hscope⟩ := h
  refine .intro hread hparsed hroot ?_
  rw [← hscope]
  exact hcompiled

/-- The tree of a client is well formed, and its root is called by its own name. -/
theorem CompiledFrom.wellFormed {module : String} {isPackage : Bool} {source : String}
    {client : ClientRoot} (h : CompiledFrom module isPackage source client) :
    client.root.qualname = client.root.name ∧ ∀ u ∈ client.root.walk, u.WellFormed client.scope := by
  obtain ⟨body, hparsed, e, hroot, hcompiled⟩ := h.exists_root
  obtain ⟨hplaced, -⟩ := readRoots_spec (parseModule_named hparsed) hroot
  unfold RootRequest.compile at hcompiled
  rw [Report.value_bind, Report.value_pure, Option.map_eq_some_iff] at hcompiled
  obtain ⟨u, hvalue, rfl⟩ := hcompiled
  refine ⟨?_, walk_wellFormed hplaced hvalue⟩
  obtain ⟨hname, hqualname⟩ := names_of_compile hvalue
  show u.qualname = u.name
  rw [hname, hqualname]
  cases hplaced with
  | intro hroot _ _ => rw [hroot, String.empty_append]

/-- **Compiled trees are well formed and can always be written down.** Whatever sources the
    roots are read from and whichever of them are compiled together, the root of each client is
    called by its own name, all its units are well formed, and a module is made of it for
    every transport. -/
theorem compileAll_wellFormed {requests : List RootRequest} {client : ClientRoot}
    (hread : ∀ r ∈ requests, ∃ module isPackage source, r.ReadFrom module isPackage source)
    (hclient : client ∈ (compileAll requests).value) :
    client.root.qualname = client.root.name ∧
      (∀ u ∈ client.root.walk, u.WellFormed client.scope) ∧
      ∀ transport, ∃ m, Client.generate client transport = .ok m := by
  obtain ⟨r, hr, hcompiled⟩ := exists_request hclient
  obtain ⟨module, isPackage, source, hsource⟩ := hread r hr
  have hfrom := hsource.compiledFrom hcompiled
  obtain ⟨hqualname, hwalk⟩ := hfrom.wellFormed
  obtain ⟨_, _, htraced⟩ := hfrom.traced
  refine ⟨hqualname, hwalk, fun transport => ?_⟩
  obtain ⟨m, hgenerate, -⟩ := Client.generate_eq htraced transport
  exact ⟨m, hgenerate⟩

namespace Sample

/-- The root of the short descriptor, as it is asked for. -/
def request : RootRequest := { endpoint, scope }

theorem request_readFrom : request.ReadFrom "app.api" false source := by
  obtain ⟨report, hreport, hvalue⟩ := exists_report ""
  exact .intro hreport hvalue mem_readRoots rfl

theorem compileAll_request : (compileAll [request]).value = [client] := by
  rfl

end Sample

theorem compileAll_wellFormed_sample :
    (∀ r ∈ [Sample.request], ∃ module isPackage source, r.ReadFrom module isPackage source) ∧
      Sample.client ∈ (compileAll [Sample.request]).value ∧
      ∀ u ∈ Sample.client.root.walk, u.WellFormed Sample.client.scope := by
  have hread : ∀ r ∈ [Sample.request],
      ∃ module isPackage source, r.ReadFrom module isPackage source := by
    intro r hr
    cases List.mem_singleton.mp hr
    exact ⟨_, _, _, Sample.request_readFrom⟩
  have hclient : Sample.client ∈ (compileAll [Sample.request]).value := by
    rw [Sample.compileAll_request]
    exact List.mem_cons_self
  exact ⟨hread, hclient, (compileAll_wellFormed hread hclient).2.1⟩

end Waymark

import Waymark.Proofs.Referents

/-! # Hygiene of clients

    A client is hygienic if its names do not get in each other's way: imports bind
    different names, the class of the client rebinds none of them, what a class body binds
    is bound once, and every name of the descriptor means in the client what it means in
    the descriptor (`ClientRoot.Hygienic`).

    Names are not checked before a client is printed, so not every client is hygienic. The
    exact condition on the names of the descriptor is `ClientRoot.WellNamed`.
-/

namespace Waymark

open Waymark.Client

/-! ## The two properties -/

/-- Every name means what it should, and none is bound twice. -/
structure ClientRoot.Hygienic (client : ClientRoot) (transport : String) : Prop where
  /-- The imports bind different names, also those that come with every client. -/
  distinct : ((client.plan transport).map Import.localName).Nodup
  /-- No import is rebound by the class of the client. -/
  unbroken : className client.root.name ∉ (client.plan transport).map Import.localName
  /-- The bases of the outermost class. -/
  rootBases : ∀ base ∈ (outline client.root).bases,
    atModule (client.plan transport) (topName base) = inDescriptor client.scope (topName base)
  /-- The bases of the nested classes. -/
  nestedBases : ∀ c, (outline client.root).Within c → ∀ passed d later,
    c.nested = passed ++ d :: later → ∀ base ∈ d.bases,
      inBody (client.plan transport) c passed (topName base)
        = inDescriptor client.scope (topName base)
  /-- The types in the calls. -/
  calls : ∀ c, (outline client.root).Within c → ∀ m ∈ c.methods, ∀ name ∈ m.mentions,
    inMethod (client.plan transport) (className client.root.name) c m name
      = inDescriptor client.scope name
  /-- A class body binds no name twice. -/
  members : ∀ c, (outline client.root).Within c → c.members.Nodup

/-- The names of the descriptor keep out of the way. -/
structure ClientRoot.WellNamed (client : ClientRoot) (transport : String) : Prop where
  /-- A mentioned name that is bound in the descriptor is not the name of the client's
      class, and not one that comes with the client, unless both mean the same. -/
  imports : ∀ name ∈ client.mentioned, ∀ i, importOf client.scope name = some i →
    name ≠ className client.root.name ∧
    ∀ own ∈ client.ownImports transport, own.localName = name → own = i
  /-- Where a nested class has bases, the name of the root is not private, and not taken in
      the body around the class. -/
  bases : ∀ c, (outline client.root).Within c → ∀ passed d later,
    c.nested = passed ++ d :: later → d.bases ≠ [] →
      mangled c.name client.root.name = client.root.name ∧
      client.root.name ∉ c.boundAfter passed
  /-- A name in a type is not private, and not local to the method. -/
  calls : ∀ c, (outline client.root).Within c → ∀ m ∈ c.methods, ∀ name ∈ m.mentions,
    mangled c.name name = name ∧ name ∉ "__class__" :: m.parameters.map Prod.fst
  /-- No class is called like a method beside it, or like what the name of a private class
      beside it becomes. -/
  members : ∀ c, (outline client.root).Within c →
    (∀ d ∈ c.nested, ∀ m ∈ c.methods, d.name ≠ m.name) ∧
    ∀ d ∈ c.nested, ∀ e ∈ c.nested, mangled c.name d.name = e.name → d.name = e.name

namespace Client

/-! ## Names that come with a client -/

/-- Only names that end alike can be the name of the client's class. -/
theorem ne_className {name rootName : String} (h : ¬ "Client".toList <:+ name.toList) :
    name ≠ className rootName := by
  rintro rfl
  apply h
  unfold className
  rw [String.toList_append]
  exact List.suffix_append _ _

theorem own_ne_className {ops : List Operation} {transport : String} {i : Import}
    (h : i ∈ ownImports ops transport) (rootName : String) : i.localName ≠ className rootName := by
  have hnames : ∀ name ∈ responseType :: Verb.all.map primitive,
      ¬ "Client".toList <:+ name.toList := by decide
  exact ne_className (hnames _ (localName_own h))

/-- The names that a method binds. -/
theorem parameters_subset (op : Operation) :
    (methodOf op).parameters.map Prod.fst ⊆ ["self", "node", "param"] := by
  unfold methodOf
  cases op.verb with
  | get => simp
  | post => simp

/-- The names that are defined everywhere are none of those that a client makes. -/
theorem builtin_apart {name : String} (h : isBuiltin name = true) :
    isPrivate name = false ∧ name ∉ responseType :: Verb.all.map primitive ∧
    name ∉ ["__class__", "self", "node", "param"] ∧ ¬ "Client".toList <:+ name.toList := by
  have hchars : ∀ name ∈ builtinNames,
      (['_', '_'].isPrefixOf name.toList && !(['_', '_'].isSuffixOf name.toList)) = false ∧
        name.toList ∉ (responseType :: Verb.all.map primitive).map String.toList ∧
        name.toList ∉ ["__class__", "self", "node", "param"].map String.toList ∧
        ¬ "Client".toList <:+ name.toList := by
    -- there are finitely many of them, and their characters decide
    apply Text.forall_of_map_toList (P := fun cs =>
      (['_', '_'].isPrefixOf cs && !(['_', '_'].isSuffixOf cs)) = false ∧
        cs ∉ (responseType :: Verb.all.map primitive).map String.toList ∧
        cs ∉ ["__class__", "self", "node", "param"].map String.toList ∧ ¬ "Client".toList <:+ cs)
    · unfold builtinNames
      repeat apply Text.map_toList_cons String.toList_ofList
      rfl
    · decide +kernel
  obtain ⟨hpublic, hown, hlocal, hsuffix⟩ := hchars name (List.contains_iff_mem.mp h)
  exact ⟨hpublic, mt List.mem_map_of_mem hown, mt List.mem_map_of_mem hlocal, hsuffix⟩

/-! ## The classes of a client -/

/-- Every class of a client is the class of one of its units. -/
theorem ClassDef.Within.exists_unit {route name : String} {u : ClientUnit} {c : ClassDef}
    (h : (classOf route name u).Within c) :
    ∃ v ∈ u.walk, ∃ route name, c = classOf route name v := by
  induction h with
  | self => exact ⟨u, u.mem_walk_self, route, name, rfl⟩
  | nested _ hinner ih =>
    obtain ⟨v, hv, route, name, rfl⟩ := ih
    rw [classOf_eq] at hinner
    obtain ⟨w, hw, rfl⟩ := List.mem_map.mp hinner
    exact ⟨w, ClientUnit.mem_walk_of_child hv hw, _, w.name, rfl⟩

end Client

namespace ClientRoot

variable {module : String} {isPackage : Bool} {body : List Grammar.Statement} {client : ClientRoot}
  {transport : String}

/-- A base of a class of the client is the path of a capability, which begins with the name
    of the root. -/
theorem Traced.topName_base (h : client.Traced module isPackage body) {c : ClassDef}
    (hc : (outline client.root).Within c) {base : String} (hbase : base ∈ c.bases) :
    topName base = client.root.name := by
  obtain ⟨v, hv, route, name, rfl⟩ := hc.exists_unit
  rw [classOf_eq] at hbase
  obtain ⟨op, hop, rfl⟩ := List.mem_map.mp hbase
  obtain ⟨rest, hrest⟩ := h.qualified op (List.mem_flatMap.mpr ⟨v, hv, hop⟩)
  rw [hrest]
  exact topName_append_dot (Text.dot_not_mem_of_isIdentifier h.rootNamed) rest

/-- What a call of the client mentions, the client mentions. -/
theorem mem_mentioned_of_call {c : ClassDef} (hc : (outline client.root).Within c) {m : Method}
    (hm : m ∈ c.methods) {name : String} (hname : name ∈ m.mentions) :
    ∃ op ∈ client.root.allOperations, m = methodOf op ∧ name ∈ op.names := by
  obtain ⟨v, hv, route, className, rfl⟩ := hc.exists_unit
  rw [classOf_eq] at hm
  obtain ⟨op, hop, rfl⟩ := List.mem_map.mp hm
  exact ⟨op, List.mem_flatMap.mpr ⟨v, hv, hop⟩, rfl, hname⟩

/-- No class of the client has two methods or two classes of one name. -/
theorem Traced.nodup_names (h : client.Traced module isPackage body) {c : ClassDef}
    (hc : (outline client.root).Within c) :
    (c.methods.map Method.name).Nodup ∧ (c.nested.map ClassDef.name).Nodup := by
  obtain ⟨v, hv, route, name, rfl⟩ := hc.exists_unit
  obtain ⟨hverbs, hchildren⟩ := h.distinct v hv
  rw [classOf_eq]
  constructor
  · show ((v.operations.map methodOf).map Method.name).Nodup
    -- methods are named after verbs, classes after units
    have hmethods : (v.operations.map methodOf).map Method.name
        = (v.operations.map Operation.verb).map Verb.method := by
      rw [List.map_map, List.map_map]
      rfl
    rw [hmethods]
    exact hverbs.map fun _ _ heq => Verb.method_inj heq
  · show ((v.children.map _).map ClassDef.name).Nodup
    have hnames : (v.children.map fun c => classOf (Route.join route v.segment) c.name c).map
        ClassDef.name = v.children.map ClientUnit.name := by
      rw [List.map_map]
      apply List.map_congr_left
      intro u _
      show (classOf _ u.name u).name = u.name
      rw [classOf_eq]
    rw [hnames]
    exact hchildren

/-! ## The imports -/

/-- Imports and the client's class have different names if the mentioned names are not among
    those that come with a client. -/
theorem Traced.imports_iff (h : client.Traced module isPackage body) :
    (((client.plan transport).map Import.localName).Nodup ∧
        className client.root.name ∉ (client.plan transport).map Import.localName) ↔
      ∀ name ∈ client.mentioned, ∀ i, importOf client.scope name = some i →
        name ≠ className client.root.name ∧
        ∀ own ∈ client.ownImports transport, own.localName = name → own = i := by
  constructor
  · rintro ⟨hdistinct, hunbroken⟩ name hname i himport
    have hi : i ∈ client.plan transport := h.mem_plan_iff.mpr (.inr ⟨name, hname, himport⟩)
    have hlocal := localName_importOf himport
    refine ⟨?_, fun own hown hsame => ?_⟩
    · intro hclient
      exact hunbroken (List.mem_map.mpr ⟨i, hi, hlocal.trans hclient⟩)
    · have hplanned := h.mem_plan_iff.mpr (.inl hown)
      exact List.inj_on_of_nodup_map hdistinct hplanned hi (hsame.trans hlocal.symm)
  · intro hnames
    constructor
    · refine List.Nodup.map_on ?_ (importPlan_nodup _)
      intro i hi j hj hsame
      -- two imports of one name: each comes with the client, or is needed by a mentioned name
      rcases h.mem_plan_iff.mp hi with hown | ⟨name, hname, himport⟩
      · rcases h.mem_plan_iff.mp hj with hown' | ⟨name', hname', himport'⟩
        · exact own_inj hown hown' hsame
        · exact (hnames name' hname' j himport').2 i hown (hsame.trans (localName_importOf himport'))
      · have hlocal := localName_importOf himport
        rcases h.mem_plan_iff.mp hj with hown' | ⟨name', hname', himport'⟩
        · exact ((hnames name hname i himport).2 j hown' (hsame.symm.trans hlocal)).symm
        · have hsame' : name = name' := by
            rw [← hlocal, hsame, localName_importOf himport']
          subst hsame'
          exact Option.some.inj (himport.symm.trans himport')
    · intro hmem
      obtain ⟨i, hi, hclient⟩ := List.mem_map.mp hmem
      rcases h.mem_plan_iff.mp hi with hown | ⟨name, hname, himport⟩
      · exact own_ne_className hown _ hclient
      · exact (hnames name hname i himport).1 ((localName_importOf himport).symm.trans hclient)

/-- A mentioned name that the descriptor does not bind is defined everywhere. -/
theorem Traced.isBuiltin_of_mentioned (h : client.Traced module isPackage body) {name : String}
    (hname : name ∈ client.mentioned) (hunbound : importOf client.scope name = none) :
    isBuiltin name = true := by
  have hlookup : client.scope.lookup name = none := Option.map_eq_none_iff.mp hunbound
  rcases List.mem_cons.mp hname with rfl | hname
  · obtain ⟨b, hb⟩ := h.rootBound
    rw [hlookup] at hb
    cases hb
  · obtain ⟨op, hop, hname⟩ := List.mem_flatMap.mp hname
    exact h.bound op hop name hname hlookup

/-- Where imports bind different names, a mentioned name means in the module what it means in
    the descriptor. -/
theorem Traced.atModule_eq (h : client.Traced module isPackage body)
    (hdistinct : ((client.plan transport).map Import.localName).Nodup) {name : String}
    (hname : name ∈ client.mentioned) :
    atModule (client.plan transport) name = inDescriptor client.scope name := by
  unfold inDescriptor
  cases himport : importOf client.scope name with
  | some i =>
    have hi : i ∈ client.plan transport := h.mem_plan_iff.mpr (.inr ⟨name, hname, himport⟩)
    have hmodule := atModule_of_mem hdistinct hi
    rwa [localName_importOf himport] at hmodule
  | none =>
    -- nothing that is imported has the name of something that is defined everywhere
    apply atModule_eq_everywhere
    intro i hi hlocal
    obtain ⟨-, hapart, -, -⟩ := builtin_apart (h.isBuiltin_of_mentioned hname himport)
    rcases h.mem_plan_iff.mp hi with hown | ⟨other, -, himport'⟩
    · exact hapart (hlocal ▸ localName_own hown)
    · have hsame : other = name := (localName_importOf himport').symm.trans hlocal
      rw [hsame, himport] at himport'
      cases himport'

/-! ## Bases, calls and members -/

/-- A base of a nested class means the root exactly if the root's name is neither private nor
    taken in the body around the class. -/
theorem Traced.base_iff (h : client.Traced module isPackage body)
    (hdistinct : ((client.plan transport).map Import.localName).Nodup) (c : ClassDef)
    (passed : List ClassDef) :
    inBody (client.plan transport) c passed client.root.name
        = inDescriptor client.scope client.root.name ↔
      mangled c.name client.root.name = client.root.name ∧
      client.root.name ∉ c.boundAfter passed := by
  have hmentioned : client.root.name ∈ client.mentioned := List.mem_cons_self
  have hmodule := h.atModule_eq hdistinct hmentioned
  obtain ⟨b, hb⟩ := h.rootBound
  obtain ⟨i, himport⟩ : ∃ i, importOf client.scope client.root.name = some i := by
    unfold importOf
    rw [hb]
    exact ⟨_, rfl⟩
  have hdescriptor := inDescriptor_eq_imported_iff.mpr himport
  rw [hdescriptor] at hmodule ⊢
  exact inBody_eq_imported_iff (localName_importOf himport) hmodule

/-- A name in a call means what it should exactly if it is neither private nor local to the
    method. -/
theorem Traced.call_iff (h : client.Traced module isPackage body)
    (hdistinct : ((client.plan transport).map Import.localName).Nodup)
    (hunbroken : className client.root.name ∉ (client.plan transport).map Import.localName)
    {c : ClassDef} (hc : (outline client.root).Within c) {m : Method} (hm : m ∈ c.methods)
    {name : String} (hname : name ∈ m.mentions) :
    inMethod (client.plan transport) (className client.root.name) c m name
        = inDescriptor client.scope name ↔
      mangled c.name name = name ∧ name ∉ "__class__" :: m.parameters.map Prod.fst := by
  obtain ⟨op, hop, rfl, hopname⟩ := mem_mentioned_of_call hc hm hname
  have hmentioned : name ∈ client.mentioned :=
    List.mem_cons_of_mem _ (List.mem_flatMap.mpr ⟨op, hop, hopname⟩)
  have hmodule := h.atModule_eq hdistinct hmentioned
  cases himport : importOf client.scope name with
  | some i =>
    have hdescriptor := inDescriptor_eq_imported_iff.mpr himport
    have hplanned : i ∈ client.plan transport :=
      h.mem_plan_iff.mpr (.inr ⟨name, hmentioned, himport⟩)
    have hclient : name ≠ className client.root.name := fun hsame =>
      hunbroken (List.mem_map.mpr ⟨i, hplanned, (localName_importOf himport).trans hsame⟩)
    rw [hdescriptor] at hmodule ⊢
    exact inMethod_eq_imported_iff (localName_importOf himport) hclient hmodule
  | none =>
    -- what is defined everywhere is out of the way, whatever the descriptor binds
    obtain ⟨hpublic, -, hlocals, hsuffix⟩ :=
      builtin_apart (h.isBuiltin_of_mentioned hmentioned himport)
    have hsame : mangled c.name name = name := mangled_of_not_private hpublic
    have hfree : name ∉ "__class__" :: (methodOf op).parameters.map Prod.fst := fun hmem =>
      hlocals (List.cons_subset_cons _ (parameters_subset op) hmem)
    have hmethod : inMethod (client.plan transport) (className client.root.name) c (methodOf op) name
        = inDescriptor client.scope name := by
      unfold inMethod
      dsimp only
      rw [hsame, if_neg hfree, if_neg (ne_className hsuffix), hmodule]
    exact ⟨fun _ => ⟨hsame, hfree⟩, fun _ => hmethod⟩

/-- A class body binds no name twice exactly if no nested class is called like a method or
    like what the name of a private class becomes. -/
theorem Traced.members_iff (h : client.Traced module isPackage body) {c : ClassDef}
    (hc : (outline client.root).Within c) :
    c.members.Nodup ↔
      (∀ d ∈ c.nested, ∀ m ∈ c.methods, d.name ≠ m.name) ∧
      ∀ d ∈ c.nested, ∀ e ∈ c.nested, mangled c.name d.name = e.name → d.name = e.name := by
  obtain ⟨hmethods, hnested⟩ := h.nodup_names hc
  -- whether a nested class goes by the name of a method does not depend on mangling
  have hmethod : ∀ d : ClassDef, ∀ m ∈ c.methods, mangled c.name d.name = m.name ↔ d.name = m.name := by
    intro d m hm
    obtain ⟨v, -, route, name, rfl⟩ := hc.exists_unit
    rw [classOf_eq] at hm
    obtain ⟨op, -, rfl⟩ := List.mem_map.mp hm
    exact mangled_eq_method_iff op.verb
  unfold ClassDef.members
  rw [List.nodup_append]
  constructor
  · rintro ⟨-, hmangled, hapart⟩
    refine ⟨fun d hd m hm hsame => ?_, fun d hd e he hsame => ?_⟩
    · refine hapart m.name (List.mem_map_of_mem hm) _ (List.mem_map_of_mem hd) ?_
      exact ((hmethod d m hm).mpr hsame).symm
    · -- the name of `e` is what that of `d` becomes, so both become the same
      have htwice : mangled c.name e.name = mangled c.name d.name := by
        rw [← hsame, mangled_mangled]
      rw [List.inj_on_of_nodup_map hmangled he hd htwice]
  · rintro ⟨hapart, hmangled⟩
    refine ⟨hmethods, ?_, ?_⟩
    · refine List.Nodup.map_on ?_ hnested.of_map
      intro d hd e he hsame
      have hname := eq_of_mangled_eq hsame (hmangled d hd e he) (hmangled e he d hd)
      exact List.inj_on_of_nodup_map hnested hd he hname
    · intro name hname other hother hsame
      obtain ⟨m, hm, rfl⟩ := List.mem_map.mp hname
      obtain ⟨d, hd, rfl⟩ := List.mem_map.mp hother
      exact hapart d hd m hm ((hmethod d m hm).mp hsame.symm)

/-! ## When clients are hygienic -/

/-- For clients that come from a descriptor the two properties are the same. -/
theorem Traced.hygienic_iff (h : client.Traced module isPackage body) :
    client.Hygienic transport ↔ client.WellNamed transport := by
  constructor
  · intro hygienic
    have hdistinct := hygienic.distinct
    refine ⟨h.imports_iff.mp ⟨hdistinct, hygienic.unbroken⟩, ?_, ?_, ?_⟩
    · -- all bases begin with the same name, so one of them is enough
      intro c hc passed d later hsplit hbases
      obtain ⟨base, rest, hbase⟩ := List.exists_cons_of_ne_nil hbases
      have hmem : base ∈ d.bases := by
        rw [hbase]
        exact List.mem_cons_self
      have hd : d ∈ c.nested := by
        rw [hsplit]
        exact List.mem_append_right _ List.mem_cons_self
      have hmeant := hygienic.nestedBases c hc passed d later hsplit base hmem
      rw [h.topName_base (hc.nested hd) hmem] at hmeant
      exact (h.base_iff hdistinct c passed).mp hmeant
    · intro c hc m hm name hname
      exact (h.call_iff hdistinct hygienic.unbroken hc hm hname).mp
        (hygienic.calls c hc m hm name hname)
    · intro c hc
      exact (h.members_iff hc).mp (hygienic.members c hc)
  -- the other way each name is looked up where it stands
  · intro named
    obtain ⟨hdistinct, hunbroken⟩ := h.imports_iff.mpr named.imports
    refine ⟨hdistinct, hunbroken, ?_, ?_, ?_, ?_⟩
    · intro base hbase
      rw [h.topName_base .self hbase]
      exact h.atModule_eq hdistinct List.mem_cons_self
    · intro c hc passed d later hsplit base hbase
      have hd : d ∈ c.nested := by
        rw [hsplit]
        exact List.mem_append_right _ List.mem_cons_self
      rw [h.topName_base (hc.nested hd) hbase]
      refine (h.base_iff hdistinct c passed).mpr (named.bases c hc passed d later hsplit ?_)
      exact List.ne_nil_of_mem hbase
    · intro c hc m hm name hname
      exact (h.call_iff hdistinct hunbroken hc hm hname).mpr (named.calls c hc m hm name hname)
    · intro c hc
      exact (h.members_iff hc).mpr (named.members c hc)

end ClientRoot

/-- **When clients are hygienic.** The client of every root of every descriptor can be
    printed: below the header stand its imports and its class. What is printed is hygienic
    exactly if the names of the descriptor keep out of the way. -/
theorem generate_hygienic_iff {module : String} {isPackage : Bool} {source : String}
    {client : ClientRoot} (h : CompiledFrom module isPackage source client) (transport : String) :
    ∃ m, generate client transport = .ok m ∧
      m.source = textOfLines (headerLines client.module
        ++ importBlock (client.plan transport) ++ ["", ""] ++ (outline client.root).lines 0) ∧
      (client.Hygienic transport ↔ client.WellNamed transport) := by
  obtain ⟨body, -, htraced⟩ := h.traced
  obtain ⟨m, hgenerate, hsource⟩ := generate_eq htraced transport
  exact ⟨m, hgenerate, hsource, htraced.hygienic_iff⟩

/-- The short descriptor: its client is called like a class that the client mentions. -/
theorem sample_not_hygienic :
    CompiledFrom "app.api" false Sample.source Sample.client ∧
      ¬ Sample.client.Hygienic "shapi.client.transport" := by
  refine ⟨Sample.compiledFrom, fun hygienic => hygienic.unbroken ?_⟩
  obtain ⟨body, -, htraced⟩ := Sample.compiledFrom.traced
  have hmentioned : "AClient" ∈ Sample.client.mentioned := by decide
  have himport : importOf Sample.client.scope "AClient" = some (.item "app.api" "AClient" none) := rfl
  exact List.mem_map.mpr ⟨_, htraced.mem_plan_iff.mpr (.inr ⟨_, hmentioned, himport⟩), by decide⟩

theorem generate_hygienic_iff_sample :
    CompiledFrom "app.api" false Sample.source Sample.client ∧
      ∃ m, generate Sample.client "shapi.client.transport" = .ok m ∧
        m.source = textOfLines (headerLines Sample.client.module
          ++ importBlock (Sample.client.plan "shapi.client.transport") ++ ["", ""]
          ++ (outline Sample.client.root).lines 0) ∧
        (Sample.client.Hygienic "shapi.client.transport" ↔
          Sample.client.WellNamed "shapi.client.transport") :=
  ⟨Sample.compiledFrom, generate_hygienic_iff Sample.compiledFrom "shapi.client.transport"⟩

end Waymark

import Waymark.Proofs.Outline

/-! # What names in a client mean

    A client module is a Python module, and what a name in it means depends on where the
    name stands:

    * Imports take effect in order, so of two imports with one local name the later one
      holds. The class of the client is bound after them and after its own body has run,
      so base lists do not see it but methods do.
    * A class body is a scope of its own. The base list of a nested class is evaluated in
      it and sees what the body has bound so far: what every class body binds at its
      beginning, the methods, and the classes nested before.
    * Methods do not see class bodies. They see their parameters, the class they stand in
      as `__class__`, and the module.
    * In a class, names that begin with two underscores and do not end with two are
      private: the name of the class is put before them (`mangled`).

    Annotations are never evaluated, since the module says so in its first line; what this
    line itself binds is not counted among the imports. A type is taken to mention its
    names freely.
-/

namespace Waymark.Client

/-! ## Private names -/

/-- Is the name private in a class that uses it? -/
def isPrivate (name : String) : Bool :=
  ['_', '_'].isPrefixOf name.toList && !(['_', '_'].isSuffixOf name.toList)

/-- What is put before the private names of a class. A class whose name has nothing but
    underscores has no private names. -/
def privatePrefix (className : String) : List Char :=
  match className.toList.dropWhile (· = '_') with
  | [] => []
  | c :: rest => '_' :: c :: rest

/-- The name that a class uses in place of the written one. -/
def mangled (className name : String) : String :=
  if isPrivate name then String.ofList (privatePrefix className ++ name.toList) else name

theorem mangled_of_not_private {className name : String} (h : isPrivate name = false) :
    mangled className name = name := by
  simp [mangled, h]

theorem toList_mangled_of_private {className name : String} (h : isPrivate name = true) :
    (mangled className name).toList = privatePrefix className ++ name.toList := by
  simp [mangled, h]

theorem privatePrefix_eq (className : String) :
    privatePrefix className = [] ∨
      ∃ c rest, privatePrefix className = '_' :: c :: rest ∧ c ≠ '_' := by
  unfold privatePrefix
  cases hstripped : className.toList.dropWhile (· = '_') with
  | nil => exact .inl rfl
  | cons c rest =>
    have hc := List.head?_dropWhile_not (p := (· = '_')) (l := className.toList)
    rw [hstripped] at hc
    exact .inr ⟨c, rest, rfl, by simpa using hc⟩

/-- A name is put in place of another one at most once. -/
theorem mangled_mangled (className name : String) :
    mangled className (mangled className name) = mangled className name := by
  cases hprivate : isPrivate name with
  | false => rw [mangled_of_not_private hprivate, mangled_of_not_private hprivate]
  | true =>
    have hlist : (mangled className name).toList = privatePrefix className ++ name.toList :=
      toList_mangled_of_private hprivate
    rcases privatePrefix_eq className with hnone | ⟨c, rest, hfront, hc⟩
    · have hsame : mangled className name = name := by
        apply String.toList_inj.mp
        rw [hlist, hnone, List.nil_append]
      rw [hsame, hsame]
    · -- the second character is no underscore any more
      apply mangled_of_not_private
      unfold isPrivate
      rw [hlist, hfront]
      simp [List.isPrefixOf, Ne.symm hc]

/-- Different names are mangled to different names, unless one of them is what the other
    is mangled to. -/
theorem eq_of_mangled_eq {className name other : String}
    (h : mangled className name = mangled className other)
    (hname : mangled className name = other → name = other)
    (hother : mangled className other = name → other = name) : name = other := by
  cases hprivate : isPrivate name with
  | false =>
    rw [mangled_of_not_private hprivate] at h
    exact (hother h.symm).symm
  -- both are private, so the same prefix was put in front of them
  | true =>
    cases hprivate' : isPrivate other with
    | false =>
      rw [mangled_of_not_private hprivate'] at h
      exact hname h
    | true =>
      have hlists := congrArg String.toList h
      rw [toList_mangled_of_private hprivate, toList_mangled_of_private hprivate'] at hlists
      exact String.toList_inj.mp (List.append_cancel_left hlists)

/-- The names of methods are not private, and no private name becomes one of them. -/
theorem mangled_eq_method_iff {className name : String} (v : Verb) :
    mangled className name = v.method ↔ name = v.method := by
  have hpublic : isPrivate v.method = false := by cases v <;> decide
  constructor
  · intro h
    cases hprivate : isPrivate name with
    | false => rwa [mangled_of_not_private hprivate] at h
    -- a mangled name begins with an underscore, and no method does
    | true =>
      have hhead : (mangled className name).toList.head? = some '_' := by
        rw [toList_mangled_of_private hprivate]
        rcases privatePrefix_eq className with hnone | ⟨c, rest, hfront, -⟩
        · obtain ⟨rest, hrest⟩ : ['_', '_'] <+: name.toList :=
            List.isPrefixOf_iff_prefix.mp (Bool.and_eq_true_iff.mp hprivate).1
          rw [hnone, ← hrest]
          rfl
        · rw [hfront]
          rfl
      rw [h] at hhead
      cases v <;> exact absurd hhead (by decide)
  · rintro rfl
    exact mangled_of_not_private hpublic

/-! ## Classes within classes -/

/-- The class is the given one, or is nested in it at some depth. -/
inductive ClassDef.Within (c : ClassDef) : ClassDef → Prop where
  | self : Within c c
  | nested {d e : ClassDef} (outer : Within c d) (inner : e ∈ d.nested) : Within c e

/-- What every class body binds before its first statement, and with its first line. -/
def implicitMembers : List String := ["__module__", "__qualname__", "__doc__"]

/-- What a class body has bound when it has come to the end of some of its nested classes. -/
def ClassDef.boundAfter (c : ClassDef) (passed : List ClassDef) : List String :=
  implicitMembers ++ c.methods.map Method.name ++ passed.map fun d => mangled c.name d.name

/-- The names that the statements of a class body bind, in order. -/
def ClassDef.members (c : ClassDef) : List String :=
  c.methods.map Method.name ++ c.nested.map fun d => mangled c.name d.name

/-! ## Referents -/

/-- What a name means. -/
inductive Referent where
  /-- What is imported. -/
  | imported (i : Import)
  /-- The class of the client. -/
  | clientClass
  /-- What a class body has bound. -/
  | member
  /-- A parameter of the method, or its class. -/
  | local
  /-- What is defined everywhere, if anything. -/
  | everywhere
  deriving DecidableEq

/-- What a name means in the module before the class of the client is bound. -/
def atModule (plan : List Import) (name : String) : Referent :=
  match plan.reverse.find? fun i => i.localName = name with
  | some i => .imported i
  | none => .everywhere

/-- What a name means in the base list of a nested class, where the body of the class
    around it has passed some of its nested classes. -/
def inBody (plan : List Import) (c : ClassDef) (passed : List ClassDef) (name : String) : Referent :=
  let name := mangled c.name name
  if name ∈ c.boundAfter passed then .member else atModule plan name

/-- What a name means in a call that a method makes. -/
def inMethod (plan : List Import) (client : String) (c : ClassDef) (m : Method) (name : String) :
    Referent :=
  let name := mangled c.name name
  if name ∈ "__class__" :: m.parameters.map Prod.fst then .local
  else if name = client then .clientClass
  else atModule plan name

/-- What a name means in the descriptor, as seen from the client. -/
def inDescriptor (scope : Scope) (name : String) : Referent :=
  match importOf scope name with
  | some i => .imported i
  | none => .everywhere

theorem inDescriptor_eq_imported_iff {scope : Scope} {name : String} {i : Import} :
    inDescriptor scope name = .imported i ↔ importOf scope name = some i := by
  unfold inDescriptor
  cases importOf scope name with
  | none => simp
  | some j => simp

theorem localName_importOf {scope : Scope} {name : String} {i : Import}
    (h : importOf scope name = some i) : i.localName = name := by
  obtain ⟨b, -, rfl⟩ := Option.map_eq_some_iff.mp h
  -- the new name is left out where the import gives this name by itself
  cases hkind : b.kind with
  | importedModule =>
    by_cases htop : name = topName b.originModule
    · simp only [Import.localName, if_pos htop]
      exact htop.symm
    · simp only [Import.localName, if_neg htop]
      rfl
  | imported =>
    by_cases hsame : b.originName = some name
    · simp only [Import.localName, hsame]
      rfl
    · simp only [Import.localName, if_neg hsame]
      rfl
  | _ => rfl

/-! ## Names that come with a client -/

/-- What is imported with every client goes by one of three names. -/
theorem localName_own {ops : List Operation} {transport : String} {i : Import}
    (h : i ∈ ownImports ops transport) :
    i.localName ∈ responseType :: Verb.all.map primitive := by
  unfold ownImports at h
  rcases List.mem_cons.mp h with rfl | h
  · exact List.mem_cons_self
  · obtain ⟨v, -, rfl⟩ := List.mem_map.mp h
    exact List.mem_cons_of_mem _ (List.mem_map_of_mem v.mem_all)

theorem responseType_ne_primitive (v : Verb) : responseType ≠ primitive v := by
  cases v <;> decide

theorem primitive_inj {v w : Verb} (h : primitive v = primitive w) : v = w := by
  cases v <;> cases w <;> first | rfl | exact absurd h (by decide)

/-- The imports that come with a client bind different names. -/
theorem own_inj {ops : List Operation} {transport : String} {i j : Import}
    (hi : i ∈ ownImports ops transport) (hj : j ∈ ownImports ops transport)
    (h : i.localName = j.localName) : i = j := by
  unfold ownImports at hi hj
  rcases List.mem_cons.mp hi with rfl | hi
  · rcases List.mem_cons.mp hj with rfl | hj
    · rfl
    · obtain ⟨v, -, rfl⟩ := List.mem_map.mp hj
      exact absurd h (responseType_ne_primitive v)
  · obtain ⟨v, -, rfl⟩ := List.mem_map.mp hi
    rcases List.mem_cons.mp hj with rfl | hj
    · exact absurd h.symm (responseType_ne_primitive v)
    · obtain ⟨w, -, rfl⟩ := List.mem_map.mp hj
      rw [primitive_inj h]

/-! ## What an import plan means -/

section Plan

variable {plan : List Import}

theorem atModule_eq_imported {name : String} {i : Import} (h : atModule plan name = .imported i) :
    i ∈ plan ∧ i.localName = name := by
  unfold atModule at h
  split at h
  · next j hfind =>
    cases h
    have hname := List.find?_some hfind
    exact ⟨List.mem_reverse.mp (List.mem_of_find?_eq_some hfind), of_decide_eq_true hname⟩
  · cases h

/-- A local name means some import. -/
theorem exists_atModule {i : Import} (hi : i ∈ plan) :
    ∃ found, atModule plan i.localName = .imported found := by
  unfold atModule
  cases hfind : plan.reverse.find? fun j => j.localName = i.localName with
  | some found => exact ⟨found, rfl⟩
  | none =>
    have hnone := List.find?_eq_none.mp hfind i (List.mem_reverse.mpr hi)
    exact absurd (decide_eq_true rfl) hnone

/-- Where local names differ, each one means the import that it belongs to. -/
theorem atModule_of_mem (hdistinct : (plan.map Import.localName).Nodup) {i : Import} (hi : i ∈ plan) :
    atModule plan i.localName = .imported i := by
  obtain ⟨found, hfound⟩ := exists_atModule hi
  obtain ⟨hmem, hsame⟩ := atModule_eq_imported hfound
  rw [hfound, List.inj_on_of_nodup_map hdistinct hmem hi hsame]

theorem atModule_eq_everywhere {name : String} (h : ∀ i ∈ plan, i.localName ≠ name) :
    atModule plan name = .everywhere := by
  unfold atModule
  rw [List.find?_eq_none.mpr]
  intro i hi hsame
  exact h i (List.mem_reverse.mp hi) (of_decide_eq_true hsame)

/-- A base of a nested class means what it should mean if it is neither mangled nor bound
    in the body around it. -/
theorem inBody_eq_imported_iff {c : ClassDef} {passed : List ClassDef} {name : String} {i : Import}
    (hlocal : i.localName = name) (hmodule : atModule plan name = .imported i) :
    inBody plan c passed name = .imported i ↔
      mangled c.name name = name ∧ name ∉ c.boundAfter passed := by
  unfold inBody
  dsimp only
  constructor
  · intro h
    split at h
    · cases h
    · next hfree =>
      obtain ⟨-, hname⟩ := atModule_eq_imported h
      have hsame : mangled c.name name = name := hname.symm.trans hlocal
      rw [hsame] at hfree
      exact ⟨hsame, hfree⟩
  · rintro ⟨hsame, hfree⟩
    rw [hsame, if_neg hfree, hmodule]

/-- A name in a call means what it should mean if it is not mangled, not local to the
    method, and not the name of the client. -/
theorem inMethod_eq_imported_iff {client : String} {c : ClassDef} {m : Method} {name : String}
    {i : Import} (hlocal : i.localName = name) (hclient : name ≠ client)
    (hmodule : atModule plan name = .imported i) :
    inMethod plan client c m name = .imported i ↔
      mangled c.name name = name ∧ name ∉ "__class__" :: m.parameters.map Prod.fst := by
  unfold inMethod
  dsimp only
  -- a private name is looked up by another one, and what the method binds hides the import
  constructor
  · intro h
    split at h
    · cases h
    · next hfree =>
      split at h
      · cases h
      · obtain ⟨-, hname⟩ := atModule_eq_imported h
        have hsame : mangled c.name name = name := hname.symm.trans hlocal
        rw [hsame] at hfree
        exact ⟨hsame, hfree⟩
  · rintro ⟨hsame, hfree⟩
    rw [hsame, if_neg hfree, if_neg hclient, hmodule]

end Plan

end Waymark.Client

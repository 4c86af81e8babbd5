import Waymark.Proofs.ArgumentEdit
import Waymark.Proofs.ContractArguments
import Waymark.Proofs.ModuleNames
import Waymark.Proofs.SourceClasses

/-! # Names that are reported as undefined

    A type argument is turned down if a name occurs in it that is neither a builtin nor in the
    scope of the module. Such a report is right if the name is `Undefined`: it is free in the
    argument, with the texts in it read as the expressions they spell, it is no builtin, and
    nothing that is run at module level binds it.

    Two things are simpler than that in the reading of descriptors:

    * All names in an argument count, whether or not a lambda or a comprehension around them
      binds them (`Expr.freeNames`, `Expr.innerNames`).
    * A scope holds what the outermost statements bind by their own names and by plain targets.
      What stands inside a block or a target, or comes with a star, is bound all the same
      (`Statement.Hides`).

    Which names come with a star is for the imported module to say, whose source is not at hand.
    So all of this holds for whatever names modules may give away (`exports`).

    The main result says that these are the only ways in which a report can be wrong
    (`Capability.reported_undefined_iff`).
-/

namespace Waymark

open Waymark.Grammar

/-! ## Free names -/

namespace Grammar

/-- The names of the parameters. -/
def Parameters.names (params : Parameters) : List String :=
  params.positionalOnly ++ params.positional ++ params.variadic.toList
    ++ params.keywordOnly.map Prod.fst ++ params.keywordVariadic.toList

/-- The names that the targets of some clauses bind, given the parts of the clauses. -/
def clauseNames : List Clause → List Expr → List String
  | c :: rest, target :: parts =>
    target.boundNames ++ clauseNames rest (parts.drop (c.conditions + 1))
  | _, _ => []

namespace Form

/-- The names that an expression of the form binds for its own parts. -/
def innerNames (form : Form) (parts : List Expr) : List String :=
  match form with
  | .lambda params => params.names
  | .comprehension kind clauses => clauseNames clauses (parts.drop kind.elements)
  | _ => []

/-- Do the names that the form binds hold in the part with the index, of so many parts? Default
    values are evaluated outside of their lambda, and the source of the first clause outside of
    its comprehension. -/
def encloses (form : Form) (count index : Nat) : Bool :=
  match form with
  | .lambda _ => index + 1 = count
  | .comprehension kind _ => index ≠ kind.elements + 1
  | _ => false

end Form

mutual
/-- The names that occur free in an expression, that is, outside of what binds them. -/
def Expr.freeNames : Expr → List String
  | .name id => [id]
  | .literal _ => []
  | .apply form parts => freeAmong (form.innerNames parts) (form.encloses parts.length) 0 parts

/-- The names that occur free in some parts, the first of which has the index, where the bound
    names hold in some of them. -/
def freeAmong (bound : List String) (holds : Nat → Bool) : (index : Nat) → List Expr → List String
  | _, [] => []
  | index, e :: rest =>
    e.freeNames.filter (fun name => !(holds index && bound.contains name))
      ++ freeAmong bound holds (index + 1) rest
end

mutual
/-- The names that are bound anywhere inside an expression. -/
def Expr.innerNames : Expr → List String
  | .name _ => []
  | .literal _ => []
  | .apply form parts => form.innerNames parts ++ innerNamesAll parts

/-- The names that are bound anywhere inside some expressions. -/
def innerNamesAll : List Expr → List String
  | [] => []
  | e :: rest => e.innerNames ++ innerNamesAll rest
end

/-- A name that occurs is free, unless something inside the expression binds it. By induction on
    the expression: a part can only lose names to the expression right around it. -/
theorem mem_freeNames_or_mem_innerNames :
    (∀ (e : Expr), ∀ name ∈ e.names, name ∈ e.freeNames ∨ name ∈ e.innerNames) ∧
    ∀ (es : List Expr) (bound : List String) (holds : Nat → Bool) (index : Nat),
      ∀ name ∈ Expr.namesAll es,
        name ∈ freeAmong bound holds index es ∨ name ∈ bound ∨ name ∈ innerNamesAll es := by
  apply Expr.names.mutual_induct
    (fun e => ∀ name ∈ e.names, name ∈ e.freeNames ∨ name ∈ e.innerNames)
    (fun es => ∀ (bound : List String) (holds : Nat → Bool) (index : Nat),
      ∀ name ∈ Expr.namesAll es,
        name ∈ freeAmong bound holds index es ∨ name ∈ bound ∨ name ∈ innerNamesAll es)
  case case1 =>
    intro id name h
    exact .inl h
  case case2 =>
    intro value name h
    cases h
  case case3 =>
    intro form parts ih name h
    rw [Expr.freeNames, Expr.innerNames, List.mem_append]
    exact ih (form.innerNames parts) (form.encloses parts.length) 0 name h
  case case4 =>
    intro bound holds index name h
    cases h
  -- what is free in the part stays free unless the form binds it
  case case5 =>
    intro e rest ihe ihrest bound holds index name h
    rw [freeAmong, innerNamesAll, List.mem_append, List.mem_append, List.mem_filter]
    rw [Expr.namesAll, List.mem_append] at h
    rcases h with h | h
    · rcases ihe name h with hfree | hinner
      · by_cases hbound : name ∈ bound
        · exact .inr (.inl hbound)
        · left; left
          refine ⟨hfree, ?_⟩
          simp [hbound]
      · exact .inr (.inr (.inl hinner))
    · rcases ihrest bound holds (index + 1) name h with hfree | hbound | hinner
      · exact .inl (.inr hfree)
      · exact .inr (.inl hbound)
      · exact .inr (.inr (.inr hinner))

/-- The source of a comprehension is looked up outside: its name is free, and is bound inside. -/
example : (Expr.apply (.comprehension .list [{ isAsync := false, conditions := 1 }])
    [.name "x", .name "x", .name "x", .name "y"]).freeNames = ["x", "y"] := by
  decide

/-! ## Names that are bound at module level -/

mutual
/-- The names that a statement binds when it is run at module level, and how, in whatever blocks
    inside it. -/
def Statement.allBinders (module : String) (isPackage : Bool) :
    Statement → List (String × Binder)
  | .compound inner => bodyBinders module isPackage inner
  | st => st.binders module isPackage

/-- The names that some statements bind when they are run at module level. -/
def bodyBinders (module : String) (isPackage : Bool) : List Statement → List (String × Binder)
  | [] => []
  | st :: rest => st.allBinders module isPackage ++ bodyBinders module isPackage rest
end

mutual
/-- The names that come with a star when a statement is run at module level, in whatever blocks
    inside it, where each module gives away the names that `exports` lists for it. -/
def Statement.starNames (exports : String → List String) (module : String) (isPackage : Bool) :
    Statement → List String
  | .compound inner => bodyStarNames exports module isPackage inner
  | .importItems level written items =>
    if items.any fun item => item.name == "*" then
      ((importedModule module isPackage level written).map exports).getD []
    else []
  | _ => []

/-- The names that come with a star when some statements are run at module level. -/
def bodyStarNames (exports : String → List String) (module : String) (isPackage : Bool) :
    List Statement → List String
  | [] => []
  | st :: rest =>
    st.starNames exports module isPackage ++ bodyStarNames exports module isPackage rest
end

/-- The statement binds the name when it is run at module level: by itself, or because the name
    comes with a star. -/
def Statement.Binds (exports : String → List String) (module : String) (isPackage : Bool)
    (name : String) (st : Statement) : Prop :=
  (∃ binder, (name, binder) ∈ st.allBinders module isPackage ∧ binder ≠ .bare) ∨
    name ∈ st.starNames exports module isPackage

/-- The statement binds the name at module level, in a way that the scope does not record: as a
    target inside another target, with a star, or in a block. -/
inductive Statement.Hides (exports : String → List String) (module : String) (isPackage : Bool)
    (name : String) : Statement → Prop
  | target {st : Statement} (nested : (name, .nested) ∈ st.binders module isPackage) :
      Hides exports module isPackage name st
  | star {level : Nat} {written : Option String} {items : List Alias}
      (given : name ∈ (Statement.importItems level written items).starNames exports module isPackage) :
      Hides exports module isPackage name (.importItems level written items)
  | block {inner : List Statement}
      (binds : Statement.Binds exports module isPackage name (.compound inner)) :
      Hides exports module isPackage name (.compound inner)

end Grammar

section

variable {exports : String → List String} {module : String} {isPackage : Bool}
  {body : List Statement} {name : String}

/-- What an outermost statement binds by a plain target is in the scope. -/
theorem lookup_ne_none {st : Statement} (hst : st ∈ body) {binder : Binder}
    (h : (name, binder) ∈ st.binders module isPackage) (hplain : binder ≠ .nested) :
    (Scope.ofStatements module isPackage body).lookup name ≠ none := by
  have hentry : (name, binder) ∈ moduleBinders module isPackage body :=
    List.mem_flatMap.mpr ⟨st, hst, h⟩
  have hrecorded : binder.recorded = some binder := if_neg hplain
  have hkept : (name, binder) ∈ (moduleBinders module isPackage body).filterMap
      fun entry => entry.2.recorded.map (entry.1, ·) := by
    refine List.mem_filterMap.mpr ⟨(name, binder), hentry, ?_⟩
    rw [hrecorded]
    rfl
  obtain ⟨record, hrecord⟩ : ∃ record, recordOf module isPackage body name = some record :=
    exists_lastEntry hkept
  -- what is recorded of the name is what a client imports for it
  have himport := importOf_eq module isPackage body name
  rw [hrecord] at himport
  intro hnone
  unfold Client.importOf at himport
  rw [hnone] at himport
  cases himport

/-- A name that is not in the scope is bound at module level only by what hides it. -/
theorem binds_iff_hides (hnone : (Scope.ofStatements module isPackage body).lookup name = none)
    {st : Statement} (hst : st ∈ body) :
    st.Binds exports module isPackage name ↔ st.Hides exports module isPackage name := by
  constructor
  · rintro (⟨binder, hentry, hbinds⟩ | hstar)
    -- an entry that is not nested is in the scope, where the name is not
    · by_cases hnested : binder = .nested
      · subst hnested
        cases st with
        | compound inner => exact .block (.inl ⟨_, hentry, hbinds⟩)
        | _ => exact .target hentry
      · cases st with
        | compound inner => exact .block (.inl ⟨_, hentry, hbinds⟩)
        | _ => exact absurd hnone (lookup_ne_none hst hentry hnested)
    · cases st with
      | compound inner => exact .block (.inr hstar)
      | importItems level written items => exact .star hstar
      | _ => cases hstar
  · intro h
    cases h with
    | target hnested =>
      cases st with
      | compound inner => cases hnested
      | _ => exact .inl ⟨.nested, hnested, Binder.noConfusion⟩
    | star hstar => exact .inr hstar
    | block hbinds => exact hbinds

end

/-! ## Reports -/

/-- The name is rightly said not to be defined: it is free in the type, and neither a builtin nor
    bound by what is run at module level. -/
structure Undefined (exports : String → List String) (module : String) (isPackage : Bool)
    (body : List Statement) (type : Expr) (name : String) : Prop where
  free : name ∈ type.freeNames
  noBuiltin : isBuiltin name = false
  unbound : ∀ st ∈ body, ¬ st.Binds exports module isPackage name

/-- The scope has against the name that it is not defined exactly if it is neither in the scope
    nor a builtin. -/
theorem Scope.nameFault_eq_undefined_iff {scope : Scope} {name other module : String} :
    scope.nameFault name = some (.undefined other module) ↔
      (other = name ∧ module = scope.module) ∧ scope.lookup name = none ∧ isBuiltin name = false := by
  unfold nameFault
  cases hlookup : scope.lookup name with
  | none =>
    cases hbuiltin : isBuiltin name with
    | true => simp
    | false => simp [eq_comm]
  | some b => by_cases hkind : b.kind = .typeVariable <;> simp [hkind]

/-- An argument in which a name is not defined spells a type, in which the name occurs. -/
theorem TypeArgument.exists_type_of_undefined {scope : Scope} {e : Expr} {name module : String}
    (h : (read scope e).fault scope = some (.undefined name module)) :
    ∃ type, typeOf scope e = .ok type ∧ name ∈ type.names ∧ module = scope.module ∧
      scope.lookup name = none ∧ isBuiltin name = false := by
  -- an argument with a problem has another fault
  have hnames : (read scope e).names.findSome? scope.nameFault = some (.undefined name module) := by
    unfold fault at h
    split at h
    · next problem hproblem =>
      rw [if_neg (problem_ne_empty hproblem)] at h
      cases h
    · exact h
  obtain ⟨other, hmem, hfault⟩ := List.exists_of_findSome?_eq_some hnames
  obtain ⟨⟨rfl, hmodule⟩, hlookup, hbuiltin⟩ := Scope.nameFault_eq_undefined_iff.mp hfault
  unfold read at hmem
  split at hmem
  · next type htype => exact ⟨type, htype, Text.mem_sortDistinct.mp hmem, hmodule, hlookup, hbuiltin⟩
  · cases hmem
  · cases hmem

/-- The expression is the argument at the index that the class of the capability gives to its
    only base, somewhere in the module. -/
inductive Capability.Gives (scope : Scope) (body : List Statement) (cap : Capability) (index : Nat)
    (e : Expr) : Prop
  | intro {place name : String} {head brackets : Expr} {decorators : List Expr}
      {inner : List Statement} {line : Nat}
      (within : Statement.Within
        (.classDef name [.apply .subscript [head, brackets]] decorators inner line) body)
      (read : Capability.read? scope place name [.apply .subscript [head, brackets]] decorators line
        = some cap)
      (argument : (indexArguments brackets)[index]? = some e)

theorem Capability.supertypes_of_read? {scope : Scope} {path name : String}
    {bases decorators : List Expr} {line : Nat} {cap : Capability}
    (h : read? scope path name bases decorators line = some cap) :
    cap.supertypes = bases.map (Supertype.read scope) := by
  unfold read? at h
  dsimp only at h
  split at h
  · cases h
    rfl
  · cases h

/-- A base with arguments is a subscript. -/
theorem Supertype.exists_subscript {scope : Scope} {base : Expr} {index : Nat}
    {argument : TypeArgument}
    (h : ((Supertype.read scope base).arguments.getD [])[index]? = some argument) :
    ∃ head brackets e, base = .apply .subscript [head, brackets] ∧
      (indexArguments brackets)[index]? = some e ∧ argument = TypeArgument.read scope e := by
  unfold Supertype.read at h
  split at h
  · next head brackets =>
    rw [Option.getD_some, List.getElem?_map, Option.map_eq_some_iff] at h
    obtain ⟨e, he, rfl⟩ := h
    exact ⟨head, brackets, e, rfl, he, rfl⟩
  · cases h

/-- The faulty argument of a capability of a module is spelled in its class. -/
theorem Capability.exists_gives {scope : Scope} {body : List Statement} {root node : Endpoint}
    {cap : Capability} {index : Nat} {slot : Slot} {fault : ArgumentFault}
    (hroot : root ∈ (readRoots scope body).value) (hnode : node ∈ root.walk)
    (hcap : cap ∈ node.capabilities)
    (h : cap.resolve scope node = .error (.faultyArgument index slot fault)) :
    ∃ e, cap.Gives scope body index e ∧ (TypeArgument.read scope e).fault scope = some fault := by
  cases resolve_eq_error_iff.mp h with
  -- an argument is only faulty in a slot of the contract that the capability extends
  | unfit hunfit => cases hunfit
  | misfilled hextends hmisfilled =>
    cases hmisfilled with
    | @faulty _ _ argument _ hslot hbefore hgiven hfault =>
      obtain ⟨hone, -⟩ := hextends
      obtain ⟨cls, place, hwithin, hdeclared⟩ := exists_class_of_readRoots hroot hnode hcap
      cases cls with
      | classDef name bases decorators inner line =>
        simp only [Statement.capability?] at hdeclared
        split at hdeclared
        · cases hdeclared
        -- its only base is the subscript that holds the argument
        · rw [supertypes_of_read? hdeclared, List.map_eq_singleton_iff] at hone
          obtain ⟨base, rfl, rfl⟩ := hone
          obtain ⟨head, brackets, e, rfl, he, rfl⟩ := Supertype.exists_subscript hgiven
          exact ⟨e, .intro hwithin hdeclared he, hfault⟩
      | _ => cases hdeclared

/-- **A report that a name is not defined is wrong only if the name is bound where the reading does
    not look.** Whatever module is read, and whatever capability stands in one of its trees: if the
    capability is turned down because a name in one of its arguments is not defined, then its class
    gives an argument to its only base at that index, the argument spells a type, and the name
    occurs in the type and is no builtin. The name is free in the type, unless something inside the
    type binds it. And whatever names the imported modules give away, the report is right exactly
    if the name is free and no statement of the module hides it: as a target inside another target,
    behind a star, or in a block. -/
theorem Capability.reported_undefined_iff {module source : String} {isPackage : Bool}
    {body : List Statement} {d : Descriptor} {ds : List Diagnostic}
    (hparsed : parseModule source.toList = .ok body)
    (hread : Descriptor.IsReadFrom module isPackage source d ds) {root node : Endpoint}
    (hroot : root ∈ d.roots) (hnode : node ∈ root.walk) {cap : Capability}
    (hcap : cap ∈ node.capabilities) {index : Nat} {slot : Slot} {name named : String}
    (hreport : cap.resolve d.scope node
      = .error (.faultyArgument index slot (.undefined name named))) :
    named = module ∧ ∃ e type, cap.Gives d.scope body index e ∧
      TypeArgument.typeOf d.scope e = .ok type ∧ name ∈ type.names ∧ isBuiltin name = false ∧
      (name ∉ type.innerNames → name ∈ type.freeNames) ∧
      ∀ exports : String → List String, Undefined exports module isPackage body type name ↔
        name ∈ type.freeNames ∧ ∀ st ∈ body, ¬ st.Hides exports module isPackage name := by
  obtain rfl : d = (Descriptor.ofStatements module isPackage body).value :=
    Option.some.inj (Descriptor.value_of_ofSource hparsed hread)
  obtain ⟨e, hgives, hfault⟩ := exists_gives hroot hnode hcap hreport
  obtain ⟨type, htype, hmem, rfl, hlookup, hbuiltin⟩ := TypeArgument.exists_type_of_undefined hfault
  have hfree : name ∉ type.innerNames → name ∈ type.freeNames := fun hinner =>
    (mem_freeNames_or_mem_innerNames.1 type name hmem).resolve_right hinner
  refine ⟨Scope.module_ofStatements _ _ _, e, type, hgives, htype, hmem, hbuiltin, hfree, ?_⟩
  intro exports
  constructor
  · intro hundefined
    refine ⟨hundefined.free, fun st hst hhides => hundefined.unbound st hst ?_⟩
    exact (binds_iff_hides hlookup hst).mpr hhides
  · rintro ⟨hname, hhidden⟩
    refine ⟨hname, hbuiltin, fun st hst hbinds => hhidden st hst ?_⟩
    exact (binds_iff_hides hlookup hst).mp hbinds

/-! ## Names that are bound and reported -/

namespace Sample.Scoping

/-- A short source. A capability mentions the parameter of a lambda in it, another one a name that
    the module assigns together with another, and a third one a name that may come with a star. -/
def source : String :=
  "import shapi.api as s\nimport typing as t\nfrom m import *\nM,N=int,int\n"
    ++ "@s.resources.resource('')\nclass A:\n"
    ++ " class G(s.contracts.GET[A,t.Annotated[int,lambda x:x],None]): 0\n"
    ++ " class P(s.contracts.POST[A,int,M,None]): 0\n class H(s.contracts.GET[A,V,None]): 0\n"

/-- The type with the lambda. -/
def annotated : Expr :=
  .apply .subscript [.apply (.attribute "Annotated") [.name "t"],
    .apply .tuple [.name "int", .apply (.lambda { positional := ["x"] }) [.name "x"]]]

/-- A contract of the library with its arguments. -/
def contract (verb : String) (arguments : List Expr) : Expr :=
  .apply .subscript [.apply (.attribute verb) [.apply (.attribute "contracts") [.name "s"]],
    .apply .tuple arguments]

/-- The base of the first capability. -/
def getterBase : Expr :=
  contract "GET" [.name "A", annotated, .literal .none]

/-- The base of the second capability. -/
def posterBase : Expr :=
  contract "POST" [.name "A", .name "int", .name "M", .literal .none]

/-- The base of the third capability. -/
def headerBase : Expr :=
  contract "GET" [.name "A", .name "V", .literal .none]

/-- The import of all that a module gives away. -/
def star : Statement :=
  .importItems 0 (some "m") [{ name := "*" }]

/-- The assignment to two names. -/
def assignment : Statement :=
  .assign [.apply .tuple [.name "M", .name "N"]] (.apply .tuple [.name "int", .name "int"])

/-- The class body of the root. -/
def members : List Statement :=
  [.classDef "G" [getterBase] [] [.simple] 7, .classDef "P" [posterBase] [] [.simple] 8,
    .classDef "H" [headerBase] [] [.simple] 9]

/-- The statements of the source. -/
def body : List Statement :=
  [.importModules [{ name := "shapi.api", newName := some "s" }],
    .importModules [{ name := "typing", newName := some "t" }], star, assignment,
    .classDef "A" [] [decorator] members 6]

/-- The names of the module. Neither `M` nor `N` is among them, nor what comes with the star. -/
def scope : Scope :=
  { module := "app.api"
    bindings := [
      ("s", { name := "s", kind := .importedModule, originModule := "shapi.api" }),
      ("t", { name := "t", kind := .importedModule, originModule := "typing" }),
      ("A", { name := "A", kind := .localClass, originModule := "app.api"
              originName := some "A" })] }

/-- The first capability as it is read. -/
def getter : Capability :=
  { name := "G", qualname := "A.G", line := 7
    supertypes := [{
      display := "s.contracts.GET[A, t.Annotated[int, lambda x: x], None]"
      target := some "shapi.api.contracts.GET"
      arguments := some [{ source := "A", names := ["A"] },
        { source := "t.Annotated[int, lambda x: x]", names := ["int", "t", "x"] },
        { source := "None" }] }] }

/-- The second capability as it is read. -/
def poster : Capability :=
  { name := "P", qualname := "A.P", line := 8
    supertypes := [{
      display := "s.contracts.POST[A, int, M, None]"
      target := some "shapi.api.contracts.POST"
      arguments := some [{ source := "A", names := ["A"] }, { source := "int", names := ["int"] },
        { source := "M", names := ["M"] }, { source := "None" }] }] }

/-- The third capability as it is read. -/
def header : Capability :=
  { name := "H", qualname := "A.H", line := 9
    supertypes := [{
      display := "s.contracts.GET[A, V, None]"
      target := some "shapi.api.contracts.GET"
      arguments := some [{ source := "A", names := ["A"] }, { source := "V", names := ["V"] },
        { source := "None" }] }] }

/-- The root as it is read. -/
def root : Endpoint :=
  { name := "A", qualname := "A", segment := "", capabilities := [getter, poster, header], line := 6 }

/-- The module as it is read. -/
def descriptor : Descriptor :=
  { module := "app.api", scope, roots := [root] }

theorem parseModule_source : parseModule source.toList = .ok body := by
  have hchars : source.toList = _ :=
    Text.toList_append_eq (Text.toList_append_eq
      (Text.toList_append_eq String.toList_ofList String.toList_ofList) String.toList_ofList)
      String.toList_ofList
  exact (congrArg parseModule hchars).trans (by decide +kernel)

theorem ofStatements_body : Scope.ofStatements "app.api" false body = scope := by
  rfl

theorem typeOf_annotated : TypeArgument.typeOf scope annotated = .ok annotated := by
  have htext : annotated.text = .ok "t.Annotated[int, lambda x: x]" := by cbv
  have hplain : annotated.hasFormatted = false := by rfl
  have hown : standalone annotated = .ok annotated := by
    unfold standalone
    rw [htext]
    show (if annotated.hasFormatted then _ else _) = _
    rw [hplain]
    rfl
  unfold TypeArgument.typeOf
  rw [hown]
  rfl

theorem read_argument {e : Expr} {text : String} {names : List String}
    (htype : TypeArgument.typeOf scope e = .ok e) (htext : e.print false Level.test = text)
    (hnames : Text.sortDistinct e.names = names) :
    TypeArgument.read scope e = { source := text, names } := by
  unfold TypeArgument.read
  rw [htype]
  simp only [htext, hnames]

theorem read_none : TypeArgument.read scope (.literal .none) = { source := "None" } :=
  read_argument (by cbv) (by cbv) rfl

theorem read_A : TypeArgument.read scope (.name "A") = { source := "A", names := ["A"] } :=
  read_argument (by cbv) (by cbv) rfl

theorem read_getterBase : [getterBase].map (Supertype.read scope) = getter.supertypes := by
  have hannotated : TypeArgument.read scope annotated
      = { source := "t.Annotated[int, lambda x: x]", names := ["int", "t", "x"] } :=
    read_argument typeOf_annotated (by cbv) rfl
  have hdisplay : getterBase.print false Level.test
      = "s.contracts.GET[A, t.Annotated[int, lambda x: x], None]" := by
    cbv
  have htarget : scope.denoted
      (.apply (.attribute "GET") [.apply (.attribute "contracts") [.name "s"]])
        = some "shapi.api.contracts.GET" := by
    rfl
  rw [List.map_singleton]
  unfold Supertype.read
  rw [hdisplay]
  simp only [getterBase, contract, indexArguments, List.map_cons, List.map_nil, read_A, hannotated,
    read_none, htarget]
  rfl

theorem read_posterBase : [posterBase].map (Supertype.read scope) = poster.supertypes := by
  have hint : TypeArgument.read scope (.name "int") = { source := "int", names := ["int"] } :=
    read_argument (by cbv) (by cbv) rfl
  have hM : TypeArgument.read scope (.name "M") = { source := "M", names := ["M"] } :=
    read_argument (by cbv) (by cbv) rfl
  have hdisplay : posterBase.print false Level.test = "s.contracts.POST[A, int, M, None]" := by
    cbv
  have htarget : scope.denoted
      (.apply (.attribute "POST") [.apply (.attribute "contracts") [.name "s"]])
        = some "shapi.api.contracts.POST" := by
    rfl
  rw [List.map_singleton]
  unfold Supertype.read
  rw [hdisplay]
  simp only [posterBase, contract, indexArguments, List.map_cons, List.map_nil, read_A, hint, hM,
    read_none, htarget]
  rfl

theorem read_headerBase : [headerBase].map (Supertype.read scope) = header.supertypes := by
  have hV : TypeArgument.read scope (.name "V") = { source := "V", names := ["V"] } :=
    read_argument (by cbv) (by cbv) rfl
  have hdisplay : headerBase.print false Level.test = "s.contracts.GET[A, V, None]" := by
    cbv
  have htarget : scope.denoted
      (.apply (.attribute "GET") [.apply (.attribute "contracts") [.name "s"]])
        = some "shapi.api.contracts.GET" := by
    rfl
  rw [List.map_singleton]
  unfold Supertype.read
  rw [hdisplay]
  simp only [headerBase, contract, indexArguments, List.map_cons, List.map_nil, read_A, hV,
    read_none, htarget]
  rfl

theorem readRoots_body : (readRoots scope body).value = [root] := by
  have hgetter : Capability.read? scope "A." "G" [getterBase] [] 7 = some getter := by
    unfold Capability.read?
    rw [read_getterBase]
    rfl
  have hposter : Capability.read? scope "A." "P" [posterBase] [] 8 = some poster := by
    unfold Capability.read?
    rw [read_posterBase]
    rfl
  have hheader : Capability.read? scope "A." "H" [headerBase] [] 9 = some header := by
    unfold Capability.read?
    rw [read_headerBase]
    rfl
  -- its members are three capabilities
  have hmembers : (Members.read scope "A." members).value
      = { capabilities := [getter, poster, header] } := by
    simp only [members, Members.read, hgetter, hposter, hheader]
    rfl
  have hroot : (Endpoint.read scope "" (.classDef "A" [] [decorator] members 6)).value
      = some root := by
    have hdecorator : endpointDecorator scope [decorator] = some decorator := rfl
    have hsegment : segmentCodes decorator = some [] := rfl
    simp only [Endpoint.read, hdecorator, hsegment, Report.value_bind, Report.value_pure]
    rw [show "" ++ "A" ++ "." = "A." from by decide, hmembers]
    rfl
  simp only [body, readRoots, Report.value_bind, Report.value_pure, hroot]
  rfl

theorem resolve_getter : getter.resolve scope root
    = .error (.faultyArgument 1 .result (.undefined "x" "app.api")) := by
  rfl

theorem resolve_poster : poster.resolve scope root
    = .error (.faultyArgument 2 .result (.undefined "M" "app.api")) := by
  rfl

theorem resolve_header : header.resolve scope root
    = .error (.faultyArgument 1 .result (.undefined "V" "app.api")) := by
  rfl

theorem harmless_annotated : Harmless annotated := by
  have hlambda : Harmless (.apply (.lambda { positional := ["x"] }) [.name "x"]) :=
    .apply id (by simp [Harmless.name])
  have hhead : Harmless (.apply (.attribute "Annotated") [.name "t"]) :=
    .apply id (by simp [Harmless.name])
  have hindex : Harmless (.apply .tuple [.name "int",
      .apply (.lambda { positional := ["x"] }) [.name "x"]]) :=
    .apply id (by simp [Harmless.name, hlambda])
  exact .apply id (by simp [hhead, hindex])

/-- A contract with harmless arguments can be read. -/
theorem baseFault?_contract {verb : String} {arguments : List Expr}
    (h : ∀ a ∈ arguments, Harmless a) : baseFault? scope (contract verb arguments) = none := by
  refine baseFault?_eq_none_iff.mpr ⟨?_, fun a ha => (h a ha).fatal?_eq_none scope⟩
  show Expr.fault? _ = none
  cbv

theorem moduleFault_body : moduleFault? scope body = none := by
  have hnone : Harmless (.literal .none) := .value (fun _ _ => Literal.noConfusion) rfl
  have hgetter : baseFault? scope getterBase = none :=
    baseFault?_contract (by simp [Harmless.name, harmless_annotated, hnone])
  have hposter : baseFault? scope posterBase = none :=
    baseFault?_contract (by simp [Harmless.name, hnone])
  have hheader : baseFault? scope headerBase = none :=
    baseFault?_contract (by simp [Harmless.name, hnone])
  have hplain : isEndpointClass scope [] = false := rfl
  have hmembers : bodyFault? scope members = none := by
    simp [members, bodyFault?, hplain, hgetter, hposter, hheader]
  have hsegment : (endpointDecorator scope [decorator]).bind segmentCodes = some [] := rfl
  simp [moduleFault?, body, star, assignment, classFault?, hsegment, hmembers]

theorem isReadFrom : ∃ ds, Descriptor.IsReadFrom "app.api" false source descriptor ds := by
  have hnull : source.toList.contains '\x00' = false := by
    have hchars : source.toList = _ :=
      Text.toList_append_eq (Text.toList_append_eq
        (Text.toList_append_eq String.toList_ofList String.toList_ofList) String.toList_ofList)
        String.toList_ofList
    exact (congrArg (List.contains · '\x00') hchars).trans (by decide +kernel)
  unfold Descriptor.IsReadFrom Descriptor.ofSource
  rw [hnull, parseModule_source]
  simp only [Bool.false_eq_true, if_false, ofStatements_body, moduleFault_body]
  refine ⟨_, congrArg Except.ok (Report.ext ?_ rfl)⟩
  simp only [Descriptor.ofStatements, Report.value_bind, Report.value_pure, ofStatements_body,
    readRoots_body]
  rfl

end Sample.Scoping

open Sample.Scoping in
/-- The first capability is turned down because of a name that its class mentions. -/
theorem Capability.reported_undefined_iff_sample :
    parseModule source.toList = .ok body ∧ root ∈ descriptor.roots ∧ root ∈ root.walk ∧
      getter ∈ root.capabilities ∧
      getter.resolve descriptor.scope root
        = .error (.faultyArgument 1 .result (.undefined "x" "app.api")) ∧
      ∃ ds, Descriptor.IsReadFrom "app.api" false source descriptor ds ∧
        ∃ e type, getter.Gives descriptor.scope body 1 e ∧
          TypeArgument.typeOf descriptor.scope e = .ok type ∧ "x" ∈ type.names ∧
          ("x" ∉ type.innerNames → "x" ∈ type.freeNames) := by
  obtain ⟨ds, hread⟩ := isReadFrom
  have hroot : root ∈ descriptor.roots := List.mem_cons_self
  have hnode : root ∈ root.walk := by
    rw [Endpoint.walk_eq]
    exact List.mem_cons_self
  have hcap : getter ∈ root.capabilities := List.mem_cons_self
  obtain ⟨-, e, type, hgives, htype, hmem, -, hinner, -⟩ :=
    Capability.reported_undefined_iff parseModule_source hread hroot hnode hcap resolve_getter
  exact ⟨parseModule_source, hroot, hnode, hcap, resolve_getter, ds, hread, e, type, hgives, htype,
    hmem, hinner⟩

open Sample.Scoping in
/-- The parameter of the lambda is bound inside the argument, the second name by an assignment of
    the module, and the third one comes with a star wherever the imported module has it. All three
    are reported as undefined. -/
theorem Sample.Scoping.undefined_though_bound :
    (∃ ds, Descriptor.IsReadFrom "app.api" false source descriptor ds) ∧
      getter.resolve descriptor.scope root
        = .error (.faultyArgument 1 .result (.undefined "x" "app.api")) ∧
      getter.Gives descriptor.scope body 1 annotated ∧
      TypeArgument.typeOf descriptor.scope annotated = .ok annotated ∧
      annotated.freeNames = ["t", "int"] ∧
      poster.resolve descriptor.scope root
        = .error (.faultyArgument 2 .result (.undefined "M" "app.api")) ∧
      assignment ∈ body ∧ (∀ exports, assignment.Binds exports "app.api" false "M") ∧
      header.resolve descriptor.scope root
        = .error (.faultyArgument 1 .result (.undefined "V" "app.api")) ∧
      star ∈ body ∧ ∀ exports, "V" ∈ exports "m" → star.Binds exports "app.api" false "V" := by
  refine ⟨isReadFrom, resolve_getter, ?_, typeOf_annotated, by decide, resolve_poster, ?_, ?_,
    resolve_header, ?_, ?_⟩
  · have hread : Capability.read? scope "A." "G" [getterBase] [] 7 = some getter := by
      unfold Capability.read?
      rw [read_getterBase]
      rfl
    exact .intro (.inside (.tail _ (.tail _ (.tail _ (.tail _ (.head _))))) (.here (.head _)))
      hread rfl
  · exact .tail _ (.tail _ (.tail _ (.head _)))
  · exact fun exports => .inl ⟨.nested, by decide, Binder.noConfusion⟩
  · exact .tail _ (.tail _ (.head _))
  · exact fun exports hgiven => .inr hgiven

end Waymark

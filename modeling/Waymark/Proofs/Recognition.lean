import Waymark.Proofs.Respelling

/-! # Recognition of imported markers

    The library recognises five of its own names wherever they stand, by what the expression
    for them denotes. Two modules that differ in how they import and refer to these names are
    `Respelled`.

    The main result (`recognition_of_imports`) says for a module that parses when an imported
    name denotes what it means, and that any other spelling of the module whose references are
    recognised is read as the same endpoints. At the end there are two spellings of one
    descriptor, and a third that is not recognised: `import a.b as a` is taken for `import a.b`.
-/

namespace Waymark

open Waymark.Grammar

/-! ## Modules -/

/-- The qualified names that the library recognises. -/
def markers : List String :=
  [endpointMarker, parentMarker, capabilityMarker] ++ Verb.all.map Verb.contractName

/-- The name is imported from the library. -/
def Binder.IsInside : Binder → Prop
  | package path | renamed path | item path _ => Waymark.IsInside path
  | own | nested | bare => False

/-- In a module with these statements, the expression leads to the qualified name: it is an
    imported name that is recognised, with attributes behind it. -/
inductive Refers (module : String) (isPackage : Bool) (body : List Statement) (path : String) :
    Expr → Prop
  | intro {name : String} {attributes : List String} {meaning : Meaning}
    (imported : ImportedAs module isPackage body name meaning)
    (recognised : Recognised module isPackage body name meaning)
    (leads : pathOf meaning.path attributes = path) :
    Refers module isPackage body path (.dotted name attributes)

/-- Two modules that differ only in how they import and refer to markers. The names are those
    whose imports differ; all of these imports are from the library. -/
structure Respelled (module : String) (isPackage : Bool) (names : List String)
    (body body' : List Statement) : Prop where
  first : ∀ name ∈ names, ∀ binder, (name, binder) ∈ moduleBinders module isPackage body →
    binder.IsInside
  second : ∀ name ∈ names, ∀ binder, (name, binder) ∈ moduleBinders module isPackage body' →
    binder.IsInside
  others : (moduleBinders module isPackage body).filter (fun entry => entry.1 ∉ names)
    = (moduleBinders module isPackage body').filter (fun entry => entry.1 ∉ names)
  bodies : RespelledBody
    (fun e e' => ∃ path ∈ markers, Refers module isPackage body path e ∧
      Refers module isPackage body' path e') names body body'

/-- What is recorded of a name is found among the entries that are kept, if its own are. -/
theorem lastEntry_recorded_filter {name : String} {p : String × Binder → Bool}
    (hkeep : ∀ binder, p (name, binder) = true) (entries : List (String × Binder)) :
    lastEntry name ((entries.filter p).filterMap fun entry =>
        entry.2.recorded.map (entry.1, ·))
      = lastEntry name (entries.filterMap fun entry => entry.2.recorded.map (entry.1, ·)) := by
  induction entries with
  | nil => rfl
  | cons entry rest ih =>
    obtain ⟨key, binder⟩ := entry
    rw [← List.singleton_append, List.filter_append, List.filterMap_append, List.filterMap_append,
      lastEntry_append, lastEntry_append, ih]
    by_cases hkept : p (key, binder) = true
    · rw [List.filter_cons_of_pos hkept, List.filter_nil]
    · -- what is left out is not of the name
      have hother : name ≠ key := by
        rintro rfl
        exact hkept (hkeep binder)
      have hnone : lastEntry name ([(key, binder)].filterMap fun entry =>
          entry.2.recorded.map (entry.1, ·)) = none := by
        cases hrecorded : binder.recorded with
        | none => simp [hrecorded]
        | some record => simp [hrecorded, lastEntry_singleton, hother]
      rw [List.filter_cons_of_neg hkept, List.filter_nil, hnone]
      rfl

section

variable {module : String} {isPackage : Bool} {names : List String} {body body' : List Statement}

/-- A name that is only imported from the library denotes something in it. -/
theorem allInside_of_binders {name : String}
    (h : ∀ binder, (name, binder) ∈ moduleBinders module isPackage body → binder.IsInside) :
    AllInside ((Scope.ofStatements module isPackage body).denoted (.name name)) := by
  intro path hpath
  rw [denoted_name] at hpath
  obtain ⟨record, hrecord, rfl⟩ := Option.map_eq_some_iff.mp hpath
  have hinside := h record (mem_moduleBinders_of_recordOf hrecord)
  -- the first part of a path inside the package is the package
  have hwhole : ∀ path, IsInside path → IsInside (Client.Import.whole path
      (if name = topName path then none else some name)).meaning.path := by
    intro path hinside
    rw [path_whole]
    split
    · next hsame =>
      rw [hsame, topName_of_isInside hinside]
      exact .inl rfl
    · exact hinside
  cases record with
  | package path => exact hwhole path hinside
  | renamed path => exact hwhole path hinside
  | item origin original => exact IsInside.member hinside original
  | own => exact hinside.elim
  | nested => exact hinside.elim
  | bare => exact hinside.elim

/-- The scopes of two spellings of a module agree. -/
theorem Respelled.agrees (h : Respelled module isPackage names body body')
    (hnamed : ∀ st ∈ body, st.Named) (hnamed' : ∀ st ∈ body', st.Named) :
    Scope.Agrees
      (fun e e' => ∃ path ∈ markers, Refers module isPackage body path e ∧
        Refers module isPackage body' path e') names
      (Scope.ofStatements module isPackage body) (Scope.ofStatements module isPackage body') where
  module := by rw [Scope.module_ofStatements, Scope.module_ofStatements]
  others := by
    intro name hname
    have hkept := lastEntry_recorded_filter (p := fun entry => decide (entry.1 ∉ names))
      fun _ => decide_eq_true hname
    have hrecord : recordOf module isPackage body name = recordOf module isPackage body' name := by
      unfold recordOf
      rw [← hkept, h.others, hkept]
    rw [denoted_name, denoted_name, hrecord]
  first := fun name hname => allInside_of_binders (h.first name hname)
  second := fun name hname => allInside_of_binders (h.second name hname)
  marked := by
    -- both spellings of a marker are recognised, each in its own module
    rintro e e' ⟨path, -, hrefers, hrefers'⟩
    cases hrefers with
    | @intro name attributes meaning imported recognised leads =>
      cases hrefers' with
      | @intro name' attributes' meaning' imported' recognised' leads' =>
        have hfirst := (denoted_dotted_eq_iff hnamed imported attributes).mpr recognised
        have hsecond := (denoted_dotted_eq_iff hnamed' imported' attributes').mpr recognised'
        rw [leads] at hfirst
        rw [leads'] at hsecond
        exact .intro hfirst hsecond

end

/-- **Recognition does not depend on how markers are imported, if the record tells.** In every
    module that parses:

    * A name that is bound by one import only, or only by imports of modules in one package,
      denotes with any attributes behind it what the attributes lead to from what the name
      means, exactly if it is recognised.
    * With another source that differs only in how markers are imported and referred to, by names
      that are recognised, both can be read or none. If they are read, then as the same
      endpoints but for the texts of base classes and lines, with the same diagnostics but for
      lines. -/
theorem recognition_of_imports {module : String} {isPackage : Bool} {source : String}
    {body : List Statement} (hparsed : parseModule source.toList = .ok body) :
    (∀ (name : String) (meaning : Meaning), ImportedAs module isPackage body name meaning →
      ∀ attributes, (Scope.ofStatements module isPackage body).denoted (.dotted name attributes)
          = some (pathOf meaning.path attributes) ↔
        Recognised module isPackage body name meaning) ∧
    ∀ (source' : String) (body' : List Statement) (names : List String),
      parseModule source'.toList = .ok body' → '\x00' ∉ source.toList → '\x00' ∉ source'.toList →
      Respelled module isPackage names body body' →
      (Descriptor.IsReadable module isPackage source ↔
        Descriptor.IsReadable module isPackage source') ∧
      ∀ d ds d' ds', Descriptor.IsReadFrom module isPackage source d ds →
        Descriptor.IsReadFrom module isPackage source' d' ds' →
        d.roots.map Endpoint.withoutTexts = d'.roots.map Endpoint.withoutTexts ∧
          ds.map Diagnostic.eraseLine = ds'.map Diagnostic.eraseLine := by
  have hnamed := parseModule_named hparsed
  refine ⟨fun name meaning himported attributes =>
    denoted_dotted_eq_iff hnamed himported attributes, ?_⟩
  intro source' body' names hparsed' hnull hnull' hrespelled
  have hspells : Spells source body := .of_chars rfl (by simpa using hnull) hparsed
  have hspells' : Spells source' body' := .of_chars rfl (by simpa using hnull') hparsed'
  have hagrees := hrespelled.agrees hnamed (parseModule_named hparsed')
  constructor
  · rw [hspells.isReadable_iff, hspells'.isReadable_iff]
    exact hrespelled.bodies.moduleFault_iff hagrees
  · intro d ds d' ds' hread hread'
    obtain ⟨-, -, hroots, hdiagnostics⟩ := hspells.of_isReadFrom hread
    obtain ⟨-, -, hroots', hdiagnostics'⟩ := hspells'.of_isReadFrom hread'
    obtain ⟨hvalue, hlines⟩ := hrespelled.bodies.roots hagrees
    -- without texts there are no lines, so reading up to lines is enough
    have hwithout : ∀ {es es' : List Endpoint},
        es.map Endpoint.eraseLines = es'.map Endpoint.eraseLines →
        es.map Endpoint.withoutTexts = es'.map Endpoint.withoutTexts := by
      intro es es' hes
      have htexts := congrArg (List.map Endpoint.withoutTexts) hes
      rw [List.map_map, List.map_map] at htexts
      simpa only [Function.comp_def, Endpoint.withoutTexts_eraseLines] using htexts
    constructor
    · rw [hwithout hroots, hwithout hroots', hvalue]
    · rw [hdiagnostics, hdiagnostics', hlines]

/-! ## Spellings of one descriptor -/

namespace Sample.Spellings

def types : Expr :=
  .apply .tuple [.name "A", .name "int", .literal .none]

def path : Expr :=
  .literal (.text [97] false)

/-- A root with a capability, by the given decorator and contract. -/
def classes (resource contract : Expr) (line : Nat) : List Statement :=
  [.classDef "A" [] [.apply (.call 1 []) [resource, path]]
    [.classDef "G" [.apply .subscript [contract, types]] [] [.simple] (line + 1)] line]

/-- The root by a new name for the package of the markers. -/
def renamed (name : String) : List Statement :=
  .importModules [{ name := "shapi.api", newName := some name }]
    :: classes (.dotted name ["resources", "resource"]) (.dotted name ["contracts", "GET"]) 3

/-- The root by names for the markers themselves. -/
def items : List Statement :=
  [.importItems 0 (some "shapi.api.resources") [{ name := "resource", newName := some "r" }],
    .importItems 0 (some "shapi.api.contracts") [{ name := "GET" }]]
    ++ classes (.dotted "r" []) (.dotted "GET" []) 4

def renamedSource : String :=
  "import shapi.api as s\n@s.resources.resource('a')\nclass A:\n"
    ++ " class G(s.contracts.GET[A,int,None]): 0\n"

def itemsSource : String :=
  "from shapi.api.resources import resource as r\nfrom shapi.api.contracts import GET\n@r('a')\n"
    ++ "class A:\n class G(GET[A,int,None]): 0\n"

/-- The new name is that of the library. -/
def librarySource : String :=
  "import shapi.api as shapi\n@shapi.resources.resource('a')\nclass A:\n"
    ++ " class G(shapi.contracts.GET[A,int,None]): 0\n"

theorem parseModule_renamedSource : parseModule renamedSource.toList = .ok (renamed "s") := by
  have hchars : renamedSource.toList = _ :=
    Text.toList_append_eq String.toList_ofList String.toList_ofList
  exact (congrArg parseModule hchars).trans (by decide +kernel)

theorem parseModule_itemsSource : parseModule itemsSource.toList = .ok items := by
  have hchars : itemsSource.toList = _ :=
    Text.toList_append_eq String.toList_ofList String.toList_ofList
  exact (congrArg parseModule hchars).trans (by decide +kernel)

theorem parseModule_librarySource : parseModule librarySource.toList = .ok (renamed "shapi") := by
  have hchars : librarySource.toList = _ :=
    Text.toList_append_eq String.toList_ofList String.toList_ofList
  exact (congrArg parseModule hchars).trans (by decide +kernel)

theorem renamedSource_no_null : '\x00' ∉ renamedSource.toList := by
  have hchars : renamedSource.toList = _ :=
    Text.toList_append_eq String.toList_ofList String.toList_ofList
  have hplain : renamedSource.toList.contains '\x00' = false :=
    (congrArg (List.contains · '\x00') hchars).trans (by cbv)
  simpa using hplain

theorem itemsSource_no_null : '\x00' ∉ itemsSource.toList := by
  have hchars : itemsSource.toList = _ :=
    Text.toList_append_eq String.toList_ofList String.toList_ofList
  have hplain : itemsSource.toList.contains '\x00' = false :=
    (congrArg (List.contains · '\x00') hchars).trans (by cbv)
  simpa using hplain

theorem importedAs_s : ImportedAs "app.api" false (renamed "s") "s" (.module "shapi.api") :=
  .renamed (by decide)

theorem recognised_s : Recognised "app.api" false (renamed "s") "s" (.module "shapi.api") where
  recorded := ⟨.renamed "shapi.api", by decide⟩
  kept := by decide
  told := by
    intro path hrecord htop
    have hpath : recordOf "app.api" false (renamed "s") "s" = some (.renamed "shapi.api") := by
      decide
    rw [hpath] at hrecord
    cases hrecord
    exact absurd htop (by decide)

/-- A name for an attribute of a module refers to it. -/
theorem refers_item {name path : String} (origin original : String)
    (only : bindersOf "app.api" false items name = [.item origin original])
    (hrecord : recordOf "app.api" false items name = some (.item origin original))
    (leads : origin ++ "." ++ original = path) :
    Refers "app.api" false items path (.dotted name []) := by
  refine .intro (.item only) ⟨⟨_, hrecord⟩, fun hbare => ?_, fun other hother => ?_⟩ leads
  · rw [hrecord] at hbare
    cases hbare
  · rw [hrecord] at hother
    cases hother

theorem respelled : Respelled "app.api" false ["s", "r", "GET"] (renamed "s") items := by
  have hresource : Refers "app.api" false (renamed "s") endpointMarker
      (.dotted "s" ["resources", "resource"]) :=
    .intro importedAs_s recognised_s (by decide)
  have hcontract : Refers "app.api" false (renamed "s") (Verb.contractName .get)
      (.dotted "s" ["contracts", "GET"]) :=
    .intro importedAs_s recognised_s (by decide)
  have hotherResource : Refers "app.api" false items endpointMarker (.dotted "r" []) :=
    refers_item "shapi.api.resources" "resource" (by decide) (by decide) (by decide)
  have hotherContract : Refers "app.api" false items (Verb.contractName .get)
      (.dotted "GET" []) :=
    refers_item "shapi.api.contracts" "GET" (by decide) (by decide) (by decide)
  refine ⟨?_, ?_, by decide, ?_⟩
  · intro name hname binder hmem
    have hbinders : moduleBinders "app.api" false (renamed "s")
        = [("s", .renamed "shapi.api"), ("A", .own)] := by decide
    rw [hbinders, List.mem_cons, List.mem_singleton] at hmem
    rcases hmem with heq | heq
    · cases heq
      exact .inr ⟨"api", by decide⟩
    · cases heq
      exact absurd hname (by decide)
  · intro name hname binder hmem
    have hbinders : moduleBinders "app.api" false items
        = [("r", .item "shapi.api.resources" "resource"),
          ("GET", .item "shapi.api.contracts" "GET"), ("A", .own)] := by decide
    rw [hbinders, List.mem_cons, List.mem_cons, List.mem_singleton] at hmem
    rcases hmem with heq | heq | heq
    · cases heq
      exact .inr ⟨"api.resources", by decide⟩
    · cases heq
      exact .inr ⟨"api.contracts", by decide⟩
    · cases heq
      exact absurd hname (by decide)
  -- the call of the decorator stays, only its name is spelled in another way
  · have hdecorator : ∀ {refer : Expr → Expr → Prop} {e e' : Expr}, refer e e' →
        Expr.Respelled refer ["s", "r", "GET"] (.apply (.call 1 []) [e, path])
          (.apply (.call 1 []) [e', path]) := by
      intro refer e e' both
      refine .apply id rfl fun part part' hmem => ?_
      rcases List.mem_cons.mp hmem with heq | hmem
      · cases heq
        exact .marker both
      · cases List.mem_singleton.mp hmem
        exact .same (by decide)
    refine .left trivial (.right trivial (.right trivial ?_))
    refine .classDef .nil (.cons (hdecorator ?_) .nil) ?_ .nil
    · exact ⟨endpointMarker, by decide, hresource, hotherResource⟩
    · refine .classDef (.cons (.brackets (.marker ?_)) .nil) .nil ?_ .nil
      · exact ⟨Verb.contractName .get, by decide, hcontract, hotherContract⟩
      · exact .left trivial (.right trivial .nil)

/-- By the new name `s` the root is seen. -/
theorem readRoots_renamed :
    (readRoots (Scope.ofStatements "app.api" false (renamed "s")) (renamed "s")).value ≠ [] := by
  have hdecorated : endpointDecorator (Scope.ofStatements "app.api" false (renamed "s"))
      [.apply (.call 1 []) [.dotted "s" ["resources", "resource"], path]]
        = some (.apply (.call 1 []) [.dotted "s" ["resources", "resource"], path]) := rfl
  have hknown : segmentCodes (.apply (.call 1 []) [.dotted "s" ["resources", "resource"], path])
      = some [97] := rfl
  have hread := fun inner => Endpoint.read_eq_some_iff.mpr
    (.intro hdecorated hknown : Endpoint.ReadFrom _ "" (.classDef "A" [] _ inner 3) _)
  rw [readRoots_value]
  exact List.ne_nil_of_mem
    (List.mem_filterMap.mpr ⟨_, List.mem_cons_of_mem _ List.mem_cons_self, hread _⟩)

end Sample.Spellings

/-- What `s` leads to is recognised, and the source with other imports is read if this one is. -/
theorem recognition_of_imports_sample :
    parseModule Sample.Spellings.renamedSource.toList = .ok (Sample.Spellings.renamed "s") ∧
      Respelled "app.api" false ["s", "r", "GET"] (Sample.Spellings.renamed "s")
        Sample.Spellings.items ∧
      (Scope.ofStatements "app.api" false (Sample.Spellings.renamed "s")).denoted
          (.dotted "s" ["resources", "resource"]) = some endpointMarker ∧
      (Descriptor.IsReadable "app.api" false Sample.Spellings.renamedSource ↔
        Descriptor.IsReadable "app.api" false Sample.Spellings.itemsSource) := by
  obtain ⟨hdenoted, hrespelled⟩ := @recognition_of_imports "app.api" false
    Sample.Spellings.renamedSource (Sample.Spellings.renamed "s")
    Sample.Spellings.parseModule_renamedSource
  have hname := (hdenoted "s" (.module "shapi.api") Sample.Spellings.importedAs_s
    ["resources", "resource"]).mpr Sample.Spellings.recognised_s
  have hsources := hrespelled Sample.Spellings.itemsSource Sample.Spellings.items ["s", "r", "GET"]
    Sample.Spellings.parseModule_itemsSource Sample.Spellings.renamedSource_no_null
    Sample.Spellings.itemsSource_no_null Sample.Spellings.respelled
  exact ⟨Sample.Spellings.parseModule_renamedSource, Sample.Spellings.respelled, hname, hsources.1⟩

/-- With `import shapi.api as shapi` the name means the module `shapi.api`, but what stands behind
    it is looked for in `shapi`. The root is not seen, as it is by the new name `s`. -/
theorem renamed_as_library_not_recognised :
    parseModule Sample.Spellings.librarySource.toList = .ok (Sample.Spellings.renamed "shapi") ∧
      ImportedAs "app.api" false (Sample.Spellings.renamed "shapi") "shapi" (.module "shapi.api") ∧
      pathOf "shapi.api" ["resources", "resource"] = endpointMarker ∧
      (Scope.ofStatements "app.api" false (Sample.Spellings.renamed "shapi")).denoted
          (.dotted "shapi" ["resources", "resource"]) = some "shapi.resources.resource" ∧
      (readRoots (Scope.ofStatements "app.api" false (Sample.Spellings.renamed "shapi"))
        (Sample.Spellings.renamed "shapi")).value = [] ∧
      (readRoots (Scope.ofStatements "app.api" false (Sample.Spellings.renamed "s"))
        (Sample.Spellings.renamed "s")).value ≠ [] := by
  have hlibrary : (readRoots
      (Scope.ofStatements "app.api" false (Sample.Spellings.renamed "shapi"))
      (Sample.Spellings.renamed "shapi")).value = [] := by
    cbv
  exact ⟨Sample.Spellings.parseModule_librarySource, .renamed (by decide), by decide, by decide,
    hlibrary, Sample.Spellings.readRoots_renamed⟩

end Waymark

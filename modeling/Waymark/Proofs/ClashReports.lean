import Waymark.Proofs.DiskContent
import Waymark.Proofs.NameClashes
import Waymark.Proofs.RootAccounting

/-! # Runs over classes of one name

    A run is asked for a root, in whose module two classes in one body have the same simple name.
    What comes of that depends on the body:

    * At the top of the module, the first endpoint of the name is the root, and all later ones
      are passed over without a word (`RootLabel.request?_of_first`).
    * In the body of an endpoint that compilation comes to, the name is reported, and no client of
      the module has a unit or an operation of either class (`Generation.RejectsName`).

    In the second case the root must have the name of its output to itself, since roots that share
    it are rejected without a look at what is in them.
-/

namespace Waymark

open Waymark.Grammar (Statement parseModule parseModule_named)
open Waymark.Files (Path Tree Workspace ModuleFile)

/-! ## Modules that are found -/

/-- The module is found, and its file spells the statements. -/
inductive Descriptor.FoundAs (w : Workspace) (search : List Path) (module : String) :
    (isPackage : Bool) → List Statement → Prop
  | intro {file : ModuleFile} {octets : ByteArray} {source : String} {body : List Statement}
      (found : w.findModule module search = .ok (some file))
      (read : w.files.read w.current file.path = .ok octets)
      (text : Tree.textOf? octets = some source)
      (parsed : parseModule source.toList = .ok body) :
      Descriptor.FoundAs w search module file.isPackage body

section

variable {w : Workspace} {search : List Path} {module : String} {isPackage : Bool}
  {body : List Statement}

theorem Descriptor.FoundAs.named (h : Descriptor.FoundAs w search module isPackage body) :
    ∀ s ∈ body, s.Named := by
  cases h with
  | intro _ _ _ parsed => exact parseModule_named parsed

/-- A module that is found, and does not end the run, is loaded from its statements. -/
theorem Descriptor.FoundAs.loaded_value (h : Descriptor.FoundAs w search module isPackage body)
    (hloads : Descriptor.Loads w search module) :
    (Descriptor.loaded w search module).value
      = some (Descriptor.ofStatements module isPackage body).value := by
  have hload := hloads.load_eq
  cases h with
  | @intro file octets source body found read text parsed =>
    simp only [Descriptor.load, found, Except.mapError, bind, Except.bind, Descriptor.ofFile, read,
      Descriptor.ofOctets, text] at hload
    cases hsource : Descriptor.ofSource module file.isPackage source (w.complaint source) with
    | error fault => simp [hsource] at hload
    | ok report =>
      simp only [hsource, Except.ok.injEq] at hload
      rw [← hload]
      exact Descriptor.value_of_ofSource parsed hsource

/-- Of the endpoints of one name at the top of a module the first is the root. -/
theorem Descriptor.root?_of_first {before after : List Statement} {root : Statement} {e : Endpoint}
    (hbody : body = before ++ root :: after)
    (hread : (Endpoint.read (Scope.ofStatements module isPackage body) "" root).value = some e)
    (hfirst : ∀ st ∈ before, ∀ earlier,
      (Endpoint.read (Scope.ofStatements module isPackage body) "" st).value = some earlier →
        earlier.name ≠ e.name) :
    (Descriptor.ofStatements module isPackage body).value.root? e.name = some e := by
  have hroots : (Descriptor.ofStatements module isPackage body).value.roots
      = (readRoots (Scope.ofStatements module isPackage body) body).value := rfl
  unfold Descriptor.root?
  rw [hroots, readRoots_value]
  generalize Scope.ofStatements module isPackage body = scope at hread hfirst
  rw [hbody, List.filterMap_append, List.filterMap_cons, hread, List.find?_append]
  -- no root in front of it has its name
  have hnone : (before.filterMap fun st => (Endpoint.read scope "" st).value).find?
      (fun earlier => earlier.name == e.name) = none := by
    rw [List.find?_eq_none]
    intro earlier hearlier
    obtain ⟨st, hst, hvalue⟩ := List.mem_filterMap.mp hearlier
    simpa using hfirst st hst earlier hvalue
  rw [hnone]
  simp

end

/-! ## Roots -/

namespace RootLabel

variable {w : Workspace} {search : List Path} {label : RootLabel} {scope : Scope}
  {root : Statement} {e : Endpoint} {labels : List RootLabel}

/-- Nothing is reported for a label that there is a request for. -/
theorem complaints_eq_nil {request : RootRequest} (h : label.request? w search = some request) :
    label.complaints w search = [] := by
  obtain ⟨d, hd, hroot⟩ := Option.bind_eq_some_iff.mp h
  obtain ⟨e, he, rfl⟩ := Option.map_eq_some_iff.mp hroot
  simp [complaints, hd, he]

/-- The class is the first endpoint at the top of the label's module that has the name of the
    label, and `e` is what is read from it. -/
inductive ClassOf (w : Workspace) (search : List Path) (label : RootLabel) :
    Scope → Statement → Endpoint → Prop
  | intro {isPackage : Bool} {before after : List Statement} {root : Statement} {e : Endpoint}
      (found : Descriptor.FoundAs w search label.module isPackage (before ++ root :: after))
      (read : (Endpoint.read
        (Scope.ofStatements label.module isPackage (before ++ root :: after)) "" root).value = some e)
      (name : e.name = label.name)
      (first : ∀ st ∈ before, ∀ earlier, (Endpoint.read
        (Scope.ofStatements label.module isPackage (before ++ root :: after)) "" st).value
          = some earlier → earlier.name ≠ e.name) :
      ClassOf w search label (Scope.ofStatements label.module isPackage (before ++ root :: after))
        root e

/-- No other of the labels asks for a root with the same output name. -/
def Alone (w : Workspace) (search : List Path) (labels : List RootLabel) (label : RootLabel) : Prop :=
  ∀ other ∈ labels, other ≠ label → (other.request? w search).isSome = true →
    Client.moduleName other.name ≠ Client.moduleName label.name

theorem ClassOf.name_eq (h : label.ClassOf w search scope root e) : e.name = label.name := by
  cases h with
  | intro _ _ name _ => exact name

theorem ClassOf.readFrom (h : label.ClassOf w search scope root e) :
    Endpoint.ReadFrom scope "" root e := by
  cases h with
  | intro _ read _ _ => exact Endpoint.read_eq_some_iff.mp read

/-- The first class of the name is asked for, whatever classes come after it. -/
theorem ClassOf.request?_eq (h : label.ClassOf w search scope root e)
    (hloads : Descriptor.Loads w search label.module) :
    label.request? w search = some { endpoint := e, scope } := by
  obtain ⟨hfound, hread, hname, hfirst⟩ := h
  unfold request?
  rw [hfound.loaded_value hloads, Option.bind_some, ← hname,
    Descriptor.root?_of_first rfl hread hfirst]
  rfl

/-- The root is placed at the top, and no name in it has dots. -/
theorem ClassOf.placed (h : label.ClassOf w search scope root e) :
    e.Placed "" ∧ ∀ d ∈ e.walk, '.' ∉ d.name.toList := by
  obtain ⟨hfound, hread, -, -⟩ := h
  have hnamed := hfound.named root (List.mem_append_right _ List.mem_cons_self)
  exact ⟨(read_placed _).1 "" root hnamed e hread, fun d hd => Endpoint.dot_not_mem_name hread hnamed hd⟩

/-- Any root of the module is placed at the top, and its name has no dots. -/
theorem ClassOf.placed_of_request? (h : label.ClassOf w search scope root e)
    (hloads : Descriptor.Loads w search label.module) {other : RootLabel}
    (hmodule : other.module = label.module) {request : RootRequest}
    (hrequest : other.request? w search = some request) :
    request.endpoint.Placed "" ∧ '.' ∉ request.endpoint.name.toList := by
  obtain ⟨hfound, -, -, -⟩ := h
  unfold request? at hrequest
  rw [hmodule, hfound.loaded_value hloads, Option.bind_some, Option.map_eq_some_iff] at hrequest
  obtain ⟨d, hd, rfl⟩ := hrequest
  have hmem : d ∈ (readRoots _ _).value := List.mem_of_find?_eq_some hd
  refine ⟨(readRoots_spec hfound.named hmem).1, ?_⟩
  rw [readRoots_value, List.mem_filterMap] at hmem
  obtain ⟨st, hst, hread⟩ := hmem
  exact Endpoint.dot_not_mem_name hread (hfound.named st hst) (Endpoint.mem_walk_self d)

end RootLabel

/-! ## Requests that have their output name to themselves -/

namespace Generation

open Gathering (labelsOf requestsOf)

variable {w : Workspace} {search : List Path} {settings : Settings} {r : Request} {g : Generation}
  {label : RootLabel} {labels : List RootLabel} {scope : Scope} {root : Statement} {e : Endpoint}

/-- What a root reports that nobody else shares the output name of is reported. -/
theorem diagnostics_of_alone (hnodup : (labels.map RootLabel.text).Nodup) (hlabel : label ∈ labels)
    {request : RootRequest} (hrequest : label.request? w search = some request)
    (halone : label.Alone w search labels) :
    request.compile.diagnostics ⊆ (compileAll (requestsOf w search labels)).diagnostics := by
  obtain ⟨shares, haccount⟩ := Account.exists_account (requestsOf w search labels)
  have hmem : request ∈ requestsOf w search labels := List.mem_filterMap.mpr ⟨label, hlabel, hrequest⟩
  rw [← haccount.requests] at hmem
  obtain ⟨s, hs, hasked⟩ := List.mem_map.mp hmem
  obtain ⟨others, hperm, hdue⟩ := haccount.exists_others hs
  rw [hasked] at hperm hdue
  -- the other requests are for other labels, which have other output names
  have hdistinct : ((request :: others).map RootLabel.ofRequest).Nodup :=
    (hperm.map RootLabel.ofRequest).nodup_iff.mpr
      (hnodup.sublist (map_ofRequest_sublist w search labels))
  have hrivals : request.rivalsAmong others = [] := by
    unfold RootRequest.rivalsAmong
    rw [List.filter_eq_nil_iff]
    intro rival hrival
    obtain ⟨other, hother, hasks⟩ :=
      List.mem_filterMap.mp (hperm.mem_iff.mp (List.mem_cons_of_mem _ hrival))
    have hne : other ≠ label := by
      rintro rfl
      rw [hrequest] at hasks
      obtain rfl := Option.some.inj hasks
      exact (List.nodup_cons.mp hdistinct).1 (List.mem_map_of_mem hrival)
    have hname := halone other hother hne (Option.isSome_iff_exists.mpr ⟨rival, hasks⟩)
    simp only [RootRequest.outputName, beq_iff_eq, (RootLabel.names_of_request? hasks).2,
      (RootLabel.names_of_request? hrequest).2]
    exact hname
  rw [hrivals] at hdue
  have hown : s = request.ownShare := by
    cases hdue with
    | alone _ => rw [← hasked]; rfl
    | rejected _ shared => exact absurd rfl shared
  rw [haccount.compileAll_eq.2]
  intro d hd
  refine List.mem_flatMap.mpr ⟨s, hs, ?_⟩
  rw [hown]
  exact hd

/-! ## Main result -/

/-- The run reports that two classes in the body of the endpoint have the name, and in the clients
    of the module there is neither a unit nor an operation of such a class, or of anything in it. -/
structure RejectsName (scope : Scope) (clients : List ClientRoot) (diagnostics : List Diagnostic)
    (o : Endpoint) (id : String) : Prop where
  reported : (Misfit.duplicateName id).diagnostic scope o.qualname o.line ∈ diagnostics
  absent : ∀ client ∈ clients, client.module = scope.module → ∀ v ∈ client.root.walk,
    ¬ IsUnder (o.qualname ++ "." ++ id) v.qualname ∧
      ∀ op ∈ v.operations, ¬ IsUnder (o.qualname ++ "." ++ id) op.capability

/-- Nothing of an endpoint with a clash is in the clients of its module, whatever other roots are
    compiled. By the names: a client that has something under the root is a client of the root. -/
theorem absent_of_clashing (hclass : label.ClassOf w search scope root e)
    (hloads : Descriptor.Loads w search label.module) {way : List Nat} {o : Endpoint}
    (hvisited : Endpoint.Visited true e way) (hat : e.at? way = some o) (hclash : o.Clashing)
    {client : ClientRoot} (hclient : client ∈ (compileAll (requestsOf w search labels)).value)
    (hmodule : client.module = label.module) {v : ClientUnit} (hv : v ∈ client.root.walk) :
    ¬ IsUnder o.qualname v.qualname ∧ ∀ op ∈ v.operations, ¬ IsUnder o.qualname op.capability := by
  -- the client was compiled for some label, which may be another one of the same module
  obtain ⟨request, hrequest, hcompiled⟩ := exists_request hclient
  obtain ⟨other, -, hasks⟩ := List.mem_filterMap.mp hrequest
  obtain ⟨hscope, hname⟩ := RootLabel.names_of_request? hasks
  unfold RootRequest.compile at hcompiled
  rw [Report.value_bind, Report.value_pure, Option.map_eq_some_iff] at hcompiled
  obtain ⟨u, hvalue, rfl⟩ := hcompiled
  obtain ⟨hplaced, hdots⟩ := hclass.placed
  by_cases hsame : other.name = label.name
  · -- the client is that of the root
    have hother : other = label := by
      have hmodules : other.module = label.module := hscope.symm.trans hmodule
      cases other
      cases label
      cases hmodules
      cases hsame
      rfl
    subst hother
    rw [hclass.request?_eq hloads] at hasks
    cases hasks
    exact hvisited.not_compiled hplaced hdots hat hclash hvalue hv
  · -- the client is that of another root, and all that is in it is under that one
    obtain ⟨hplaced', hdot'⟩ :=
      hclass.placed_of_request? hloads (hscope.symm.trans hmodule) hasks
    have hapart : ∀ qualname, IsUnder request.endpoint.qualname qualname →
        ¬ IsUnder o.qualname qualname := by
      intro qualname hmine hunder
      have hroot := (hplaced.isUnder (Endpoint.mem_walk_iff.mpr ⟨way, hat⟩)).trans hunder
      rw [hplaced'.qualname_eq] at hmine
      rw [hplaced.qualname_eq] at hroot
      have hnames : request.endpoint.name = e.name :=
        eq_of_isUnder hdot' (hdots e (Endpoint.mem_walk_self e)) hmine hroot
      exact hsame (hname.symm.trans (hnames.trans hclass.name_eq))
    obtain ⟨hunit, hoperations⟩ := hplaced'.isUnder_of_compile hvalue hv
    exact ⟨hapart _ hunit, fun op hop => hapart _ (hoperations op hop)⟩

/-- **Names that two classes share are never resolved silently in the body of an endpoint.** In any
    run with a result, the root of a label is the first class of its name at the top of its module,
    whatever classes come later. The outputs are printed from some clients, and if no other root
    has the output name of this one, then wherever two classes in the body of an endpoint that
    compilation comes to have the same name, the run reports an error for the name, and the
    clients of the module have nothing of the two classes. -/
theorem run_rejects_duplicates (h : (run w settings r).1 = .ok g) (hlabel : label ∈ g.roots)
    (hclass : label.ClassOf w (searchOf settings r.search) scope root e) :
    label.request? w (searchOf settings r.search) = some { endpoint := e, scope } ∧
    ∃ clients,
      List.Forall₂ (fun c m => Client.generate c (transportOf settings r.transport) = .ok m)
        clients g.outputs ∧
      (label.Alone w (searchOf settings r.search) g.roots →
        ∀ (place name : String) (bases decorators : List Grammar.Expr) (inner : List Statement)
          (line : Nat) (o : Endpoint),
          Statement.Reaches scope place (.classDef name bases decorators inner line) true "" root →
          Endpoint.ReadFrom scope place (.classDef name bases decorators inner line) o →
          ∀ (s t : Statement) (id : String), [s, t].Sublist inner →
            s.memberName? scope = some id → t.memberName? scope = some id →
            RejectsName scope clients g.diagnostics o id) := by
  obtain ⟨plan, hplan, hcarries, -⟩ := exists_plan_of_run h
  have hplanned := plannedFor_of_ofRequest hplan
  have hchecked := hplanned.checked
  rw [hcarries.roots] at hlabel ⊢
  have hloads : Descriptor.Loads w (searchOf settings r.search) label.module :=
    hplanned.loads label (hchecked.roots ▸ hlabel)
  have hrequest := hclass.request?_eq hloads
  refine ⟨hrequest, _, hcarries.outputs ▸ hchecked.outputs, ?_⟩
  intro halone place name bases decorators inner line o hreaches howner s t id htwo hs ht
  have htwice := howner.one_lt_count htwo hs ht
  obtain ⟨way, hvisited, hat⟩ := hreaches.exists_visited howner hclass.readFrom
  constructor
  · have hnodup : (plan.roots.map RootLabel.text).Nodup := by
      rw [hchecked.roots]
      exact Gathering.nodup_text_labelsOf r.roots
    have hreported : (Misfit.duplicateName id).diagnostic scope o.qualname o.line
        ∈ (RootRequest.compile { endpoint := e, scope }).diagnostics := by
      unfold RootRequest.compile
      rw [Report.diagnostics_bind]
      exact List.mem_append_left _ (hvisited.duplicate_reported hat htwice scope)
    rw [hcarries.diagnostics, hchecked.diagnostics]
    exact List.mem_append_right _ (diagnostics_of_alone hnodup hlabel hrequest halone hreported)
  · intro client hclient hmodule v hv
    have hscope : scope.module = label.module := (RootLabel.names_of_request? hrequest).1
    obtain ⟨hunit, hoperations⟩ := absent_of_clashing hclass hloads hvisited hat
      (Endpoint.clashing_of_count htwice) hclient (hmodule.trans hscope) hv
    -- what is under a class in the body is under the endpoint
    have hbelow : IsUnder o.qualname (o.qualname ++ "." ++ id) := .inr ⟨id, rfl⟩
    exact ⟨fun hunder => hunit (hbelow.trans hunder),
      fun op hop hunder => hoperations op hop (hbelow.trans hunder)⟩

end Generation

/-! ## A module with namesakes

    A root has an endpoint in it with two capabilities of one name, and there is another root of
    the same name after it. -/

namespace Sample.Namesakes

open Waymark.Grammar (Expr)

/-- The source of the module. -/
def source : String :=
  "import shapi.api.resources as s\n@s.resource('')\nclass A:\n @s.resource('c')\n class C:\n"
    ++ "  @s.capability\n  class B: 0\n  @s.capability\n  class B: 0\n"
    ++ "@s.resource('a')\nclass A: 0\n"

/-- The decorator of an endpoint with the segment. -/
def decorator (segment : List Nat) : Expr :=
  .apply (.call 1 [])
    [.apply (.attribute "resource") [.name "s"], .literal (.text segment false)]

/-- A capability, on the line. -/
def capabilityClass (line : Nat) : Statement :=
  .classDef "B" [] [.apply (.attribute "capability") [.name "s"]] [.simple] line

/-- The endpoint with the two capabilities. -/
def ownerClass : Statement :=
  .classDef "C" [] [decorator [99]] [capabilityClass 7, capabilityClass 9] 5

/-- The first root. -/
def rootClass : Statement :=
  .classDef "A" [] [decorator []] [ownerClass] 3

/-- The second root. -/
def laterClass : Statement :=
  .classDef "A" [] [decorator [97]] [.simple] 11

def before : List Statement :=
  [.importModules [{ name := "shapi.api.resources", newName := some "s" }]]

/-- The statements of the source. -/
def body : List Statement :=
  before ++ rootClass :: [laterClass]

def scope : Scope :=
  Scope.ofStatements "app.api" false body

/-- The endpoint with the two capabilities, as it is read. -/
def owner : Endpoint :=
  { name := "C", qualname := "A.C", segment := "c", line := 5
    capabilities := [7, 9].map fun line =>
      { name := "B", qualname := "A.C.B", marked := true, line } }

/-- The first root as it is read. -/
def endpoint : Endpoint :=
  { name := "A", qualname := "A", segment := "", children := [owner], line := 3 }

/-- The second root as it is read. -/
def later : Endpoint :=
  { name := "A", qualname := "A", segment := "a", line := 11 }

/-- The module as it is read. -/
def descriptor : Descriptor :=
  { module := "app.api", scope, roots := [endpoint, later] }

/-- The client of the first root. -/
def client : ClientRoot :=
  { module := "app.api", root := { name := "A", qualname := "A", segment := "" }, scope }

def workspace : Workspace :=
  { files := { nodes := [(["app"], .directory), (["app", "api.py"], .file source.toUTF8)] } }

/-- A request that is only to check. -/
def asked : Generation.Request :=
  { roots := ["app.api:A"], writes := false }

def label : RootLabel := ⟨"app.api", "A"⟩

theorem parseModule_source : parseModule source.toList = .ok body := by
  have hchars : source.toList = _ :=
    Text.toList_append_eq (Text.toList_append_eq String.toList_ofList String.toList_ofList)
      String.toList_ofList
  exact (congrArg parseModule hchars).trans (by decide +kernel)

theorem plain_source : ∀ c ∈ source.toList, c ≠ '\x00' ∧ c ≠ '\r' := by
  have hchars : source.toList = _ :=
    Text.toList_append_eq (Text.toList_append_eq String.toList_ofList String.toList_ofList)
      String.toList_ofList
  have hall : source.toList.all (fun c => c ≠ '\x00' ∧ c ≠ '\r') = true :=
    (congrArg (List.all · _) hchars).trans (by decide +kernel)
  simpa using hall

theorem textOf?_source : Tree.textOf? source.toUTF8 = some source :=
  Tree.textOf?_toUTF8 fun hreturn => (plain_source _ hreturn).2 rfl

theorem findModule_api : workspace.findModule "app.api" search
    = .ok (some { module := "app.api", place := ["app", "api.py"], isPackage := false }) := by
  rfl

theorem foundAs : Descriptor.FoundAs workspace search "app.api" false body :=
  .intro findModule_api rfl textOf?_source parseModule_source

theorem readFrom_owner : Endpoint.ReadFrom scope "A." ownerClass owner :=
  Endpoint.read_eq_some_iff.mp rfl

theorem read_rootClass : (Endpoint.read scope "" rootClass).value = some endpoint := by
  rfl

theorem classOf : label.ClassOf workspace search scope rootClass endpoint := by
  refine .intro foundAs read_rootClass rfl ?_
  intro st hst earlier hread
  cases List.mem_singleton.mp hst
  cases hread

theorem ofSource_source (complaint : String) : Descriptor.ofSource "app.api" false source complaint
    = .ok { value := some descriptor } := by
  have hnull : source.toList.contains '\x00' = false := by
    rw [List.contains_eq_mem, decide_eq_false_iff_not]
    exact fun hnull => (plain_source _ hnull).1 rfl
  have hfault : moduleFault? scope body = none := by rfl
  unfold Descriptor.ofSource
  rw [hnull, parseModule_source]
  simp only [Bool.false_eq_true, if_false]
  rw [show Scope.ofStatements "app.api" false body = scope from rfl, hfault]
  rfl

theorem load_api : Descriptor.load workspace search "app.api"
    = .ok { value := some descriptor } :=
  Descriptor.load_of_ofSource findModule_api rfl textOf?_source (ofSource_source _)

theorem loads_api : Descriptor.Loads workspace search "app.api" :=
  ⟨_, load_api⟩

theorem loaded_api : Descriptor.loaded workspace search "app.api"
    = { value := some descriptor } :=
  Except.ok.inj (loads_api.load_eq.symm.trans load_api)

theorem reaches : Statement.Reaches scope "A." ownerClass true "" rootClass := by
  refine .inside (Endpoint.read_eq_some_iff.mp read_rootClass) ?_ List.mem_cons_self .here
  decide

theorem labelsOf_asked : Gathering.labelsOf asked.roots = [label] := by
  cbv

theorem request?_label : label.request? workspace search = some { endpoint, scope } :=
  classOf.request?_eq loads_api

theorem requestsOf_label : Gathering.requestsOf workspace search [label] = [{ endpoint, scope }] ∧
    Gathering.lost workspace search [label] = [] ∧
    Gathering.news workspace search [] [label] = [] := by
  have hloaded : Descriptor.loaded workspace search label.module = { value := some descriptor } :=
    loaded_api
  refine ⟨?_, ?_, ?_⟩
  · simp [Gathering.requestsOf, request?_label]
  · simp [Gathering.lost, request?_label]
  · simp only [Gathering.news, List.not_mem_nil, if_false, hloaded,
      RootLabel.complaints_eq_nil request?_label, List.append_nil]

theorem compileAll_endpoint : (compileAll [{ endpoint, scope }]).value = [client] ∧
    (compileAll [{ endpoint, scope }]).diagnostics
      = [(Misfit.duplicateName "B").diagnostic scope "A.C" 5] :=
  ⟨rfl, rfl⟩

/-- There is a run with a result, which has a client of the first root and reports the name of the
    capabilities. -/
theorem exists_run : ∃ g, (Generation.run workspace {} asked).1 = .ok g ∧ g.roots = [label] ∧
    g.failed = [] ∧ g.diagnostics = [(Misfit.duplicateName "B").diagnostic scope "A.C" 5] ∧
    List.Forall₂ (fun c m => Client.generate c "shapi.client.transport" = .ok m) [client]
      g.outputs := by
  -- there is only one module to load, and nothing is written
  have hloads : Generation.AllLoad workspace {} asked := by
    intro other hother
    rw [labelsOf_asked] at hother
    cases List.mem_singleton.mp hother
    exact loads_api
  have hout : Generation.outOf workspace asked = .ok none := rfl
  obtain ⟨plan, hplan⟩ := (Generation.exists_plan_iff hout).mpr hloads
  have hchecked := (Generation.plannedFor_of_ofRequest hplan).checked
  have hroots : plan.roots = [label] := hchecked.roots.trans labelsOf_asked
  have hinvalid : Gathering.invalidTexts asked.roots = [] := by cbv
  have hsearch : Generation.searchOf {} asked.search = search := rfl
  have hrequests : Gathering.requestsOf workspace (Generation.searchOf {} asked.search) plan.roots
      = [{ endpoint, scope }] := by
    rw [hroots, hsearch, requestsOf_label.1]
  have hnews : Gathering.news workspace (Generation.searchOf {} asked.search) [] plan.roots = [] := by
    rw [hroots, hsearch, requestsOf_label.2.2]
  refine ⟨plan, ?_, hroots, ?_, ?_, ?_⟩
  · rw [Generation.run_of_not_writes hplan rfl]
  · rw [hchecked.failed, hinvalid, hrequests, compileAll_endpoint.1, hroots, hsearch,
      requestsOf_label.2.1]
    decide
  · rw [hchecked.diagnostics, hinvalid, hnews, hrequests, compileAll_endpoint.2]
    rfl
  · have houtputs := hchecked.outputs
    rw [hrequests, compileAll_endpoint.1] at houtputs
    exact houtputs

end Sample.Namesakes

open Sample.Namesakes in
/-- The name of the two capabilities is reported, and nothing of them is compiled. -/
theorem Generation.run_rejects_duplicates_sample :
    ∃ g clients, (run workspace {} asked).1 = .ok g ∧ label ∈ g.roots ∧
      label.ClassOf workspace Sample.search scope rootClass endpoint ∧
      RejectsName scope clients g.diagnostics owner "B" := by
  obtain ⟨g, hrun, hroots, -⟩ := exists_run
  have hlabel : label ∈ g.roots := hroots ▸ List.mem_singleton_self label
  obtain ⟨-, clients, -, hrejects⟩ := run_rejects_duplicates hrun hlabel classOf
  refine ⟨g, clients, hrun, hlabel, classOf, ?_⟩
  refine hrejects ?_ "A." "C" [] _ _ 5 owner reaches readFrom_owner (capabilityClass 7)
    (capabilityClass 9) "B" (List.Sublist.refl _) rfl rfl
  intro other hother hne
  rw [hroots] at hother
  exact absurd (List.mem_singleton.mp hother) hne

open Sample.Namesakes in
/-- **Of two roots with one name the first is taken without a word.** The only thing that the run
    reports is what is wrong inside the first root, and there is a client for it. -/
theorem Sample.Namesakes.second_passed_over :
    [rootClass, laterClass].Sublist body ∧ rootClass.memberName? scope = some "A" ∧
      laterClass.memberName? scope = some "A" ∧
      ∃ g, (Generation.run workspace {} asked).1 = .ok g ∧ g.roots = [label] ∧ g.failed = [] ∧
        g.diagnostics = [(Misfit.duplicateName "B").diagnostic scope "A.C" 5] ∧
        List.Forall₂ (fun c m => Client.generate c "shapi.client.transport" = .ok m) [client]
          g.outputs ∧
        client.root.qualname = "A" := by
  obtain ⟨g, hrun, hroots, hfailed, hdiagnostics, houtputs⟩ := exists_run
  refine ⟨.cons _ (List.Sublist.refl _), rfl, rfl, g, hrun, hroots, hfailed, hdiagnostics, houtputs,
    rfl⟩

end Waymark

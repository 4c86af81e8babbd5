import Waymark.Proofs.ModuleNames
import Waymark.Proofs.Referents

/-! # Replayed imports

    A client imports the names that it mentions, so that they mean what they mean in the
    descriptor. Its imports are written in ascending order and without repetition, and
    nothing is imported that is not needed.

    The imports do not always mean the same thing (`ClientRoot.Faithful`). The exact
    condition on the descriptor is `ClientRoot.Replayable`:

    * a mentioned name is recoverable from its record;
    * where a name also comes with every client, the import that is written last is the
      right one;
    * the submodules that the descriptor imports of a mentioned package are loaded by what
      the mentioned names need.
-/

namespace Waymark

open Waymark.Client

/-- The module that an import loads. -/
def Client.Import.modulePath : Import → String
  | whole path _ => path
  | item module _ _ => module

/-- The module that is loaded where a client imports a name because of the binder. -/
def Binder.modulePath (module : String) : Binder → String
  | package path | renamed path => path
  | item origin _ => origin
  | own | nested | bare => module

/-- A module is loaded with itself and with the modules inside it. -/
def LoadedWith (path loaded : String) : Prop :=
  loaded = path ∨ ∃ rest, loaded = path ++ "." ++ rest

/-! ## The two properties -/

/-- The imports of the client bind what it mentions as the descriptor does, and load what the
    descriptor loads. Of the descriptor only the outermost statements count (`moduleBinders`):
    imports inside other statements and `from m import *` are left out of account, so nothing is
    said of a name that only they bind. -/
structure ClientRoot.Faithful (module : String) (isPackage : Bool) (body : List Grammar.Statement)
    (client : ClientRoot) (transport : String) : Prop where
  /-- A mentioned name that the descriptor binds is bound to the same thing. -/
  meant : ∀ name ∈ client.mentioned, ∀ meaning, meaningOf module isPackage body name = some meaning →
    ∃ i, atModule (client.plan transport) name = .imported i ∧ i.Means module name meaning
  /-- A submodule that the descriptor imports of a mentioned package is loaded. -/
  loaded : ∀ name ∈ client.mentioned, ∀ path,
    (name, .package path) ∈ moduleBinders module isPackage body →
      ∃ i ∈ client.plan transport, LoadedWith path i.modulePath

/-- An import that comes with the client has the name, and no import that the name needs is
    written after it. -/
def ClientRoot.Overrules (client : ClientRoot) (transport name : String) (own : Import) : Prop :=
  own ∈ client.ownImports transport ∧ own.localName = name ∧
  ∀ i, importOf client.scope name = some i → ¬ own.Precedes i

/-- The modules that the client loads: that of the response type, the transport if anything is
    called, and for each mentioned name the one that its record names. -/
def ClientRoot.loadedModules (module : String) (isPackage : Bool) (body : List Grammar.Statement)
    (client : ClientRoot) (transport : String) : List String :=
  responseModule :: client.root.allOperations.map (fun _ => transport)
    ++ (client.mentioned.filterMap (recordOf module isPackage body)).map (Binder.modulePath module)

/-- The descriptor leaves no doubt what the client has to import. -/
structure ClientRoot.Replayable (module : String) (isPackage : Bool) (body : List Grammar.Statement)
    (client : ClientRoot) (transport : String) : Prop where
  /-- What is imported for a name means what the descriptor binds the name to. -/
  recoverable : ∀ name ∈ client.mentioned, ∀ meaning,
    meaningOf module isPackage body name = some meaning →
      (∀ own, ¬ client.Overrules transport name own) → Recoverable module isPackage body name
  /-- So does what takes its place. -/
  overruled : ∀ name ∈ client.mentioned, ∀ meaning,
    meaningOf module isPackage body name = some meaning →
      ∀ own, client.Overrules transport name own → own.Means module name meaning
  /-- The submodules of a mentioned package are loaded with those modules. -/
  loaded : ∀ name ∈ client.mentioned, ∀ path,
    (name, .package path) ∈ moduleBinders module isPackage body →
      ∃ other ∈ client.loadedModules module isPackage body transport, LoadedWith path other

/-! ## The import that holds -/

namespace Client

/-- In a plan the import that holds is the one that is written last. -/
theorem atModule_eq_imported_iff {plan : List Import} (hsorted : plan.Pairwise Import.Precedes)
    {name : String} {i : Import} :
    atModule plan name = .imported i ↔
      i ∈ plan ∧ i.localName = name ∧ ∀ j ∈ plan, j.localName = name → j = i ∨ j.Precedes i := by
  have hlast : ∀ found, atModule plan name = .imported found →
      ∀ j ∈ plan, j.localName = name → j = found ∨ j.Precedes found := by
    intro found h j hj hname
    unfold atModule at h
    split at h
    · next k hfind =>
      cases h
      obtain ⟨-, later, earlier, hsplit, hnone⟩ := List.find?_eq_some_iff_append.mp hfind
      have hplan : plan = earlier.reverse ++ found :: later.reverse := by
        rw [← List.reverse_reverse plan, hsplit]
        simp
      -- what stands before the import precedes it, what stands behind it has other names
      rw [hplan] at hj hsorted
      rcases List.mem_append.mp hj with hbefore | hafter
      · exact .inr ((List.pairwise_append.mp hsorted).2.2 j hbefore found List.mem_cons_self)
      · rcases List.mem_cons.mp hafter with rfl | hafter
        · exact .inl rfl
        · have hother := hnone j (List.mem_reverse.mp hafter)
          simp [hname] at hother
    · cases h
  constructor
  · intro h
    obtain ⟨hi, hname⟩ := atModule_eq_imported h
    exact ⟨hi, hname, hlast i h⟩
  · rintro ⟨hi, hname, hmax⟩
    -- the import that holds and the greatest one precede each other unless they are the same
    obtain ⟨found, hfound⟩ := exists_atModule hi
    rw [hname] at hfound
    obtain ⟨hmem, hfoundName⟩ := atModule_eq_imported hfound
    rcases hmax found hmem hfoundName with rfl | hbefore
    · exact hfound
    · rcases hlast found hfound i hi hname with rfl | hafter
      · exact hfound
      · exact absurd hafter hbefore.asymm

/-- Of two imports of a plan one precedes the other. -/
theorem precedes_or_precedes {plan : List Import} (hsorted : plan.Pairwise Import.Precedes)
    {i j : Import} (hi : i ∈ plan) (hj : j ∈ plan) (hne : i ≠ j) : i.Precedes j ∨ j.Precedes i := by
  have hboth : plan.Pairwise fun i j => i.Precedes j ∨ j.Precedes i := hsorted.imp .inl
  have : Std.Symm fun i j : Import => i.Precedes j ∨ j.Precedes i := ⟨fun _ _ h => h.symm⟩
  exact hboth.forall hi hj hne

end Client

namespace ClientRoot

variable {module : String} {isPackage : Bool} {body : List Grammar.Statement} {client : ClientRoot}
  {transport : String} {name : String}

/-- What overrules a name holds. -/
theorem Traced.atModule_of_overrules (h : client.Traced module isPackage body) {own : Import}
    (hown : client.Overrules transport name own) :
    atModule (client.plan transport) name = .imported own := by
  obtain ⟨hmem, hname, hlast⟩ := hown
  have hsorted := importPlan_sorted (client.imports transport)
  have hplanned : own ∈ client.plan transport := h.mem_plan_iff.mpr (.inl hmem)
  refine (atModule_eq_imported_iff hsorted).mpr ⟨hplanned, hname, fun j hj hjname => ?_⟩
  rcases h.mem_plan_iff.mp hj with hown' | ⟨other, -, himport⟩
  · exact .inl (own_inj hown' hmem (hjname.trans hname.symm))
  · obtain rfl : other = name := (localName_importOf himport).symm.trans hjname
    by_cases hsame : j = own
    · exact .inl hsame
    · rcases precedes_or_precedes hsorted hj hplanned hsame with hbefore | hafter
      · exact .inr hbefore
      · exact absurd hafter (hlast j himport)

/-- A name that nothing overrules means what is imported for it. -/
theorem Traced.atModule_of_not_overruled (h : client.Traced module isPackage body)
    (hname : name ∈ client.mentioned) (hno : ∀ own, ¬ client.Overrules transport name own)
    {i : Import} :
    atModule (client.plan transport) name = .imported i ↔ importOf client.scope name = some i := by
  have hsorted := importPlan_sorted (client.imports transport)
  -- what comes with the client under this name is written before what the name needs
  have hearlier : ∀ own ∈ client.ownImports transport, own.localName = name →
      ∃ k, importOf client.scope name = some k ∧ own.Precedes k := by
    intro own hmem hlocal
    by_contra hnone
    refine hno own ⟨hmem, hlocal, fun k hk hbefore => ?_⟩
    exact hnone ⟨k, hk, hbefore⟩
  have hplanned : ∀ k, importOf client.scope name = some k → k ∈ client.plan transport := by
    intro k hk
    exact h.mem_plan_iff.mpr (.inr ⟨name, hname, hk⟩)
  constructor
  · intro hmodule
    obtain ⟨hi, hlocal, hlast⟩ := (atModule_eq_imported_iff hsorted).mp hmodule
    rcases h.mem_plan_iff.mp hi with hown | ⟨other, -, himport⟩
    · obtain ⟨k, hk, hbefore⟩ := hearlier i hown hlocal
      rcases hlast k (hplanned k hk) (localName_importOf hk) with rfl | hafter
      · exact hk
      · exact absurd hafter hbefore.asymm
    · obtain rfl : other = name := (localName_importOf himport).symm.trans hlocal
      exact himport
  · intro himport
    refine (atModule_eq_imported_iff hsorted).mpr
      ⟨hplanned i himport, localName_importOf himport, fun j hj hjname => ?_⟩
    rcases h.mem_plan_iff.mp hj with hown | ⟨other, -, himport'⟩
    · obtain ⟨k, hk, hbefore⟩ := hearlier j hown hjname
      obtain rfl : k = i := Option.some.inj (hk.symm.trans himport)
      exact .inr hbefore
    · obtain rfl : other = name := (localName_importOf himport').symm.trans hjname
      exact .inl (Option.some.inj (himport'.symm.trans himport))

/-- A name means what the descriptor binds it to exactly if it is recoverable, or overruled by
    what means the same. -/
theorem Traced.meant_iff (h : client.Traced module isPackage body) (hname : name ∈ client.mentioned)
    {meaning : Meaning} (hmeaning : meaningOf module isPackage body name = some meaning) :
    (∃ i, atModule (client.plan transport) name = .imported i ∧ i.Means module name meaning) ↔
      ((∀ own, ¬ client.Overrules transport name own) → Recoverable module isPackage body name) ∧
      ∀ own, client.Overrules transport name own → own.Means module name meaning := by
  by_cases hexists : ∃ own, client.Overrules transport name own
  · obtain ⟨own, hown⟩ := hexists
    have hmodule := h.atModule_of_overrules hown
    constructor
    · rintro ⟨i, hi, hmeans⟩
      refine ⟨fun hno => absurd hown (hno own), fun other hother => ?_⟩
      have hother' := h.atModule_of_overrules hother
      rw [hi] at hother'
      cases hother'
      exact hmeans
    · rintro ⟨-, hall⟩
      exact ⟨own, hmodule, hall own hown⟩
  -- nothing comes in between, so the name means what its record says
  · have hno : ∀ own, ¬ client.Overrules transport name own := fun own hown => hexists ⟨own, hown⟩
    have hrecover := means_iff_recoverable hmeaning
    rw [← h.scope] at hrecover
    simp only [h.atModule_of_not_overruled hname hno]
    rw [hrecover]
    constructor
    · exact fun hrecoverable => ⟨fun _ => hrecoverable, fun own hown => absurd hown (hno own)⟩
    · exact fun ⟨hrecoverable, _⟩ => hrecoverable hno

/-- What is planned: the response type, the functions for the verbs that occur, and what the
    mentioned names need. -/
theorem Traced.mem_plan_iff_needed (h : client.Traced module isPackage body) {i : Import} :
    i ∈ client.plan transport ↔
      i = .item responseModule responseType none ∨
      (∃ op ∈ client.root.allOperations,
        i = .item transport op.verb.method (some (primitive op.verb))) ∨
      ∃ name ∈ client.mentioned, importOf client.scope name = some i := by
  -- its own imports are the type of the answers and a primitive for each verb in use
  have hown : i ∈ client.ownImports transport ↔
      i = .item responseModule responseType none ∨
      ∃ op ∈ client.root.allOperations,
        i = .item transport op.verb.method (some (primitive op.verb)) := by
    unfold ClientRoot.ownImports Client.ownImports verbsOf
    rw [List.mem_cons, List.mem_map]
    constructor
    · rintro (hresponse | ⟨v, hv, rfl⟩)
      · exact .inl hresponse
      · obtain ⟨op, hop, hverb⟩ := List.any_eq_true.mp (List.mem_filter.mp hv).2
        exact .inr ⟨op, hop, by rw [eq_of_beq hverb]⟩
    · rintro (hresponse | ⟨op, hop, rfl⟩)
      · exact .inl hresponse
      · refine .inr ⟨op.verb, List.mem_filter.mpr ⟨op.verb.mem_all, ?_⟩, rfl⟩
        exact List.any_eq_true.mpr ⟨op, hop, beq_self_eq_true _⟩
  rw [h.mem_plan_iff, hown, or_assoc]

/-- The modules that the client loads are those of its imports. -/
theorem Traced.mem_loadedModules_iff (h : client.Traced module isPackage body) {path : String} :
    path ∈ client.loadedModules module isPackage body transport ↔
      ∃ i ∈ client.plan transport, i.modulePath = path := by
  have hrecord : ∀ name, importOf client.scope name
      = (recordOf module isPackage body name).map (Binder.toImport module name) := by
    intro name
    rw [h.scope, importOf_eq]
  -- an import loads the module that its record names
  have hpath : ∀ (name : String) (record : Binder),
      (record.toImport module name).modulePath = record.modulePath module := by
    intro name record
    cases record <;> rfl
  unfold loadedModules
  simp only [h.mem_plan_iff_needed, List.mem_append, List.mem_cons, List.mem_map, List.mem_filterMap]
  constructor
  · rintro ((rfl | ⟨op, hop, rfl⟩) | ⟨record, ⟨name, hname, hlast⟩, rfl⟩)
    · exact ⟨_, .inl rfl, rfl⟩
    · exact ⟨_, .inr (.inl ⟨op, hop, rfl⟩), rfl⟩
    · refine ⟨record.toImport module name, .inr (.inr ⟨name, hname, ?_⟩), hpath name record⟩
      rw [hrecord, hlast]
      rfl
  · rintro ⟨i, rfl | ⟨op, hop, rfl⟩ | ⟨name, hname, himport⟩, rfl⟩
    · exact .inl (.inl rfl)
    · exact .inl (.inr ⟨op, hop, rfl⟩)
    · rw [hrecord] at himport
      obtain ⟨record, hlast, rfl⟩ := Option.map_eq_some_iff.mp himport
      exact .inr ⟨record, ⟨name, hname, hlast⟩, (hpath name record).symm⟩

/-- For clients that come from a descriptor the two properties are the same. -/
theorem Traced.faithful_iff (h : client.Traced module isPackage body) :
    client.Faithful module isPackage body transport ↔
      client.Replayable module isPackage body transport := by
  -- what is meant is said name by name, and so is what is loaded
  constructor
  · intro faithful
    refine ⟨?_, ?_, ?_⟩
    · intro name hname meaning hmeaning
      exact ((h.meant_iff hname hmeaning).mp (faithful.meant name hname meaning hmeaning)).1
    · intro name hname meaning hmeaning
      exact ((h.meant_iff hname hmeaning).mp (faithful.meant name hname meaning hmeaning)).2
    · intro name hname path hpath
      obtain ⟨i, hi, hloaded⟩ := faithful.loaded name hname path hpath
      exact ⟨_, h.mem_loadedModules_iff.mpr ⟨i, hi, rfl⟩, hloaded⟩
  · intro replayable
    refine ⟨?_, ?_⟩
    · intro name hname meaning hmeaning
      exact (h.meant_iff hname hmeaning).mpr
        ⟨replayable.recoverable name hname meaning hmeaning,
          replayable.overruled name hname meaning hmeaning⟩
    · intro name hname path hpath
      obtain ⟨other, hother, hloaded⟩ := replayable.loaded name hname path hpath
      obtain ⟨i, hi, rfl⟩ := h.mem_loadedModules_iff.mp hother
      exact ⟨i, hi, hloaded⟩

end ClientRoot

/-- **When imports are replayed faithfully.** The client of every root of every descriptor can
    be printed. Its imports are written out in ascending order without repetition, and they
    are the response type, the functions for the verbs that occur, and the imports of the
    mentioned names. They mean what the descriptor means exactly if the descriptor leaves no
    doubt what has to be imported. -/
theorem generate_faithful_iff {module : String} {isPackage : Bool} {source : String}
    {client : ClientRoot} (h : CompiledFrom module isPackage source client) (transport : String) :
    ∃ body m, Grammar.parseModule source.toList = .ok body ∧
      generate client transport = .ok m ∧
      ∃ lines, WrittenOut (client.plan transport) lines ∧
        m.source = textOfLines (headerLines client.module
          ++ lines ++ ["", ""] ++ (outline client.root).lines 0) ∧
        (∀ i, i ∈ client.plan transport ↔
          i = .item responseModule responseType none ∨
          (∃ op ∈ client.root.allOperations,
            i = .item transport op.verb.method (some (primitive op.verb))) ∨
          ∃ name ∈ client.mentioned, importOf client.scope name = some i) ∧
        (client.Faithful module isPackage body transport ↔
          client.Replayable module isPackage body transport) := by
  obtain ⟨body, hparse, htraced⟩ := h.traced
  obtain ⟨m, hgenerate, hsource⟩ := generate_eq htraced transport
  exact ⟨body, m, hparse, hgenerate, _, importPlan_writtenOut _, hsource,
    fun _ => htraced.mem_plan_iff_needed, htraced.faithful_iff⟩

/-- The short descriptor: it binds `t` to the module `t.m`, and its client binds it to the
    package. -/
theorem sample_not_faithful :
    CompiledFrom "app.api" false Sample.source Sample.client ∧
      Grammar.parseModule Sample.source.toList = .ok Sample.body ∧
      ¬ Sample.client.Faithful "app.api" false Sample.body "shapi.client.transport" := by
  refine ⟨Sample.compiledFrom, Sample.parseModule_source, fun faithful => ?_⟩
  have hmentioned : "t" ∈ Sample.client.mentioned := by decide
  have hmeaning : meaningOf "app.api" false Sample.body "t" = some (.module "t.m") := rfl
  have himport : atModule (Sample.client.plan "shapi.client.transport") "t"
      = .imported (.whole "t.m" none) := rfl
  obtain ⟨i, hi, hmeans⟩ := faithful.meant "t" hmentioned _ hmeaning
  rw [himport] at hi
  cases hi
  revert hmeans
  unfold Import.Means
  decide

theorem generate_faithful_iff_sample :
    CompiledFrom "app.api" false Sample.source Sample.client ∧
      ∃ body m, Grammar.parseModule Sample.source.toList = .ok body ∧
        generate Sample.client "shapi.client.transport" = .ok m ∧
        ∃ lines, WrittenOut (Sample.client.plan "shapi.client.transport") lines ∧
          m.source = textOfLines (headerLines Sample.client.module
            ++ lines ++ ["", ""] ++ (outline Sample.client.root).lines 0) ∧
          (∀ i, i ∈ Sample.client.plan "shapi.client.transport" ↔
            i = .item responseModule responseType none ∨
            (∃ op ∈ Sample.client.root.allOperations,
              i = .item "shapi.client.transport" op.verb.method (some (primitive op.verb))) ∨
            ∃ name ∈ Sample.client.mentioned, importOf Sample.client.scope name = some i) ∧
          (Sample.client.Faithful "app.api" false body "shapi.client.transport" ↔
            Sample.client.Replayable "app.api" false body "shapi.client.transport") :=
  ⟨Sample.compiledFrom, generate_faithful_iff Sample.compiledFrom "shapi.client.transport"⟩

end Waymark

import Waymark.Proofs.ArgumentEdit
import Waymark.Proofs.ClassDefinition
import Waymark.Proofs.ClassStatement

/-! # Reading and defining agree

    A descriptor module is used in two ways. The generator reads its source, and a program runs
    it, which defines its classes. For a tree of classes both come to the same: the same classes
    with the same names, nested in the same order, with the same capabilities and the same
    fields for their parents.

    Reading drops the blanks at the ends of segments, and defining keeps them. So both show
    the same tree if and only if there are no such blanks (`read_agrees_with_define`).
-/

namespace Waymark

open Waymark.Grammar
open Waymark.Api

variable {ε φ : Type}

/-! ## Shapes are unique -/

namespace Api.Registry

variable {r : Registry}

mutual
/-- Going through the classes shows one shape only. -/
theorem Shows.unique {c : ClassInfo} {shape shape' : ClassShape} (h : r.Shows c shape)
    (h' : r.Shows c shape') : shape = shape' := by
  match shape, h with
  | .mk _ _ _ _ _ children, .intro own nested =>
    cases h' with
    | intro own' nested' =>
      obtain rfl := Option.some.inj (own.symm.trans own')
      rw [unique_of_forall₂ nested nested']

theorem unique_of_forall₂ {cs : List ClassInfo} {shapes shapes' : List ClassShape}
    (h : List.Forall₂ r.Shows cs shapes) (h' : List.Forall₂ r.Shows cs shapes') :
    shapes = shapes' := by
  match shapes, h with
  | [], .nil =>
    cases h'
    rfl
  | shape :: rest, .cons hfirst hlater =>
    cases h' with
    | cons hfirst' hlater' => rw [hfirst.unique hfirst', unique_of_forall₂ hlater hlater']
end

end Api.Registry

/-! ## Modules with one tree -/

/-- The statement is no class that is read as an endpoint. -/
def IsNoEndpoint (scope : Scope) : Statement → Prop
  | .classDef _ _ decorators _ _ => isEndpointClass scope decorators = false
  | _ => True

/-- The source is that of a module, in which what is defined is the only class at the top that
    is read as an endpoint. -/
structure IsSourceOf (module : String) (isPackage : Bool) (d : Definition ε) (source : String) :
    Prop where
  noNull : source.toList.contains '\x00' = false
  parses : ∃ before s after, parseModule source.toList = .ok (before ++ s :: after) ∧
    Writes (Scope.ofStatements module isPackage (before ++ s :: after)) d s ∧
    ∀ t ∈ before ++ after, IsNoEndpoint (Scope.ofStatements module isPackage (before ++ s :: after)) t

section

variable {scope : Scope} {s : Statement} {body : List Statement}

theorem IsNoEndpoint.read_eq (h : IsNoEndpoint scope s) :
    (Endpoint.read scope "" s).value = none ∧ classFault? scope s = none := by
  cases s with
  | classDef name bases decorators body line =>
    have hnone : endpointDecorator scope decorators = none := by
      rw [← Option.not_isSome_iff_eq_none]
      exact Bool.eq_false_iff.mp h
    simp [Endpoint.read, classFault?, hnone]
  | _ => simp [Endpoint.read, classFault?]

theorem readRoots_eq_nil (h : ∀ t ∈ body, IsNoEndpoint scope t) :
    (readRoots scope body).value = [] := by
  induction body with
  | nil => rfl
  | cons t rest ih =>
    simp [readRoots, (h t List.mem_cons_self).read_eq.1,
      ih fun other hother => h other (List.mem_cons_of_mem _ hother)]

end

/-- The source of a resource is read, and its only root has the shape of the definition, but for
    blanks at the ends of segments. -/
theorem IsSourceOf.exists_root {module source : String} {isPackage : Bool} {d : Definition ε}
    (h : IsSourceOf module isPackage d source) {shape : ClassShape}
    (hshape : d.shape? none = some shape) :
    ∃ descriptor ds e, Descriptor.IsReadFrom module isPackage source descriptor ds ∧
      descriptor.roots = [e] ∧ e.shape = shape.trimmed := by
  obtain ⟨hnull, before, s, after, hparsed, hwrites, hothers⟩ := h
  generalize hbody : before ++ s :: after = body at hparsed hwrites hothers
  have hbefore : ∀ t ∈ before, IsNoEndpoint (Scope.ofStatements module isPackage body) t :=
    fun t ht => hothers t (List.mem_append_left _ ht)
  have hafter : ∀ t ∈ after, IsNoEndpoint (Scope.ofStatements module isPackage body) t :=
    fun t ht => hothers t (List.mem_append_right _ ht)
  have hpath : ∀ name, "" ++ name = nestedName none name := fun _ => String.empty_append
  obtain ⟨e, hvalue, he, hreadable⟩ := hwrites.exists_endpoint hpath hshape
  -- the statements around the class give no roots and no faults
  have hroots : (readRoots (Scope.ofStatements module isPackage body) body).value = [e] := by
    rw [← hbody] at hbefore hafter hvalue ⊢
    rw [readRoots_fill_value, readRoots_eq_nil hbefore, readRoots_eq_nil hafter, hvalue]
    rfl
  have hfault : moduleFault? (Scope.ofStatements module isPackage body) body = none := by
    unfold moduleFault?
    rw [List.findSome?_eq_none_iff]
    intro t ht
    rw [← hbody, List.mem_append, List.mem_cons] at ht
    rcases ht with ht | rfl | ht
    · exact (hbefore t ht).read_eq.2
    · exact hreadable
    · exact (hafter t ht).read_eq.2
  refine ⟨(Descriptor.ofStatements module isPackage body).value,
    (Descriptor.ofStatements module isPackage body).diagnostics, e, ?_, hroots, he⟩
  unfold Descriptor.IsReadFrom Descriptor.ofSource
  rw [hnull, hparsed]
  simp only [Bool.false_eq_true, if_false, hfault]
  exact congrArg Except.ok (Report.ext rfl (by simp))

/-! ## Main result -/

/-- **Reading and defining show the same tree, but for blanks at the ends of segments.** Any
    tree of resources, fields, plain classes and capabilities, in which no default is taken for
    a nested class, can be defined, and its source can be read. Going through the classes shows
    a tree, and what is read has the shape of that tree with all segments trimmed: the same
    names, the same nesting and order, the same capabilities and the same fields for parents.
    The segments agree as well if and only if none of them has blanks at its ends. -/
theorem read_agrees_with_define {evaluate : ε → StateT Registry (Except φ) Value}
    (fault : DefinitionFault → φ) {module source : String} {isPackage : Bool} {start : Registry}
    {d : Definition ε} (hsource : IsSourceOf module isPackage d source)
    (hsound : d.Sound (Evaluates evaluate start)) (hresource : d.segment.isSome = true) :
    ∃ c r shape descriptor ds e,
      define evaluate fault module none d start = .ok (c, r) ∧ r.Shows c shape ∧
      Descriptor.IsReadFrom module isPackage source descriptor ds ∧ descriptor.roots = [e] ∧
      e.shape = shape.trimmed ∧
      (r.Shows c e.shape ↔ ∀ segment ∈ shape.segments, Text.trim segment = segment) := by
  obtain ⟨shape, hshape⟩ : ∃ shape, d.shape? none = some shape := by
    obtain ⟨name, base, segment, refusal, members⟩ := d
    obtain ⟨text, rfl⟩ := Option.isSome_iff_exists.mp hresource
    exact ⟨_, rfl⟩
  obtain ⟨c, r, hdefine, hout⟩ : ∃ c r, define evaluate fault module none d start = .ok (c, r) ∧
      Outcome start r none d c := exists_define d hsound none (Registry.grows_of_classes_eq rfl)
  have hshows := hout.defined.shows hsound hshape
  obtain ⟨descriptor, ds, e, hread, hroots, he⟩ := hsource.exists_root hshape
  refine ⟨c, r, shape, descriptor, ds, e, hdefine, hshows, hread, hroots, he, ?_⟩
  -- the reader trims segments and the runtime keeps them, and nothing else is different
  rw [← ClassShape.trimmed_eq_self_iff, he]
  constructor
  · intro htrimmed
    exact htrimmed.unique hshows
  · intro hsame
    rw [hsame]
    exact hshows

/-! ## A path that begins with a blank -/

namespace Sample.Nested

/-- A resource with a nested one in it, whose path begins with a blank. -/
def source : String :=
  "import shapi.api.resources as s\n@s.resource('a')\nclass A:\n @s.resource(' b')\n class B:\n"
    ++ "  p:A=s.parent()\n"

/-- What the source defines. -/
def definition : Definition Value :=
  .mk "A" none (some "a") none [.nested (.mk "B" none (some " b") none [.parent "p"])]

/-- A decorator that gives a path. -/
def decorator (codes : List Nat) : Expr :=
  .apply (.call 1 []) [.apply (.attribute "resource") [.name "s"], .literal (.text codes false)]

/-- The value of the field for the parent. -/
def parentCall : Expr :=
  .apply (.call 0 []) [.apply (.attribute "parent") [.name "s"]]

/-- The class statement of the source. -/
def statement : Statement :=
  .classDef "A" [] [decorator [97]]
    [.classDef "B" [] [decorator [32, 98]]
      [.annotate (.name "p") (.name "A") (some parentCall)] 5] 3

def body : List Statement :=
  [.importModules [{ name := "shapi.api.resources", newName := some "s" }], statement]

def scope : Scope :=
  Scope.ofStatements "app.api" false body

theorem parseModule_source : parseModule source.toList = .ok body := by
  have hchars : source.toList = _ :=
    Text.toList_append_eq String.toList_ofList String.toList_ofList
  exact (congrArg parseModule hchars).trans (by decide +kernel)

theorem source_no_null : source.toList.contains '\x00' = false := by
  have hchars : source.toList = _ :=
    Text.toList_append_eq String.toList_ofList String.toList_ofList
  exact (congrArg (List.contains · '\x00') hchars).trans (by cbv)

theorem writes : Writes scope definition statement := by
  have hA : isClassVariable scope (.name "A") = false := by cbv
  have hreadable : printFault? (.name "A") = none := by cbv
  have hroot : Decorates scope [decorator [97]] (some "a") :=
    ⟨decorator [97], .literal (.text [97] false), rfl, rfl, rfl⟩
  have hnested : Decorates scope [decorator [32, 98]] (some " b") :=
    ⟨decorator [32, 98], .literal (.text [32, 98] false), rfl, rfl, rfl⟩
  have hinner : Writes scope (.mk "B" none (some " b") none [.parent "p"] : Definition Value)
      (.classDef "B" [] [decorator [32, 98]]
        [.annotate (.name "p") (.name "A") (some parentCall)] 5) :=
    .intro hnested rfl (fun _ h => by cases h) (.parent hA hreadable rfl .nil)
  exact .intro hroot rfl (fun _ h => by cases h) (.nested hinner .nil)

theorem isSourceOf : IsSourceOf "app.api" false definition source where
  noNull := source_no_null
  parses := by
    refine ⟨[.importModules [{ name := "shapi.api.resources", newName := some "s" }]], statement,
      [], parseModule_source, writes, ?_⟩
    intro t ht
    rw [List.append_nil, List.mem_singleton] at ht
    rw [ht]
    trivial

/-- Values stand for themselves. -/
def evaluate : Value → StateT Registry (Except Unit) Value :=
  fun v => pure v

theorem sound (start : Registry) : definition.Sound (Evaluates evaluate start) := by
  refine .intro (by decide) (by decide) ?_
  intro m hm
  rw [List.mem_singleton.mp hm]
  refine .nested (by cbv) (.intro (by decide) (by decide) ?_) (fun _ => rfl)
  intro m hm
  rw [List.mem_singleton.mp hm]
  exact .parent (by cbv)

/-- The tree can be defined and its source can be read. -/
theorem read_agrees_with_define_sample :
    IsSourceOf "app.api" false definition source ∧
      definition.Sound (Evaluates evaluate {}) ∧ definition.segment.isSome = true ∧
      ∃ c r shape descriptor ds e,
        define evaluate (fun _ => ()) "app.api" none definition {} = .ok (c, r) ∧
        r.Shows c shape ∧ Descriptor.IsReadFrom "app.api" false source descriptor ds ∧
        descriptor.roots = [e] ∧ e.shape = shape.trimmed := by
  obtain ⟨c, r, shape, descriptor, ds, e, hdefine, hshows, hread, hroots, he, -⟩ :=
    read_agrees_with_define (fun _ => ()) isSourceOf (sound {}) rfl
  exact ⟨isSourceOf, sound {}, rfl, c, r, shape, descriptor, ds, e, hdefine, hshows, hread, hroots,
    he⟩

/-- The classes and what is read do not show the same tree: the segment of the nested resource
    begins with a blank, and what is read of it does not. -/
theorem segment_differs :
    IsSourceOf "app.api" false definition source ∧ definition.Sound (Evaluates evaluate {}) ∧
      ∃ c r descriptor ds e,
        define evaluate (fun _ => ()) "app.api" none definition {} = .ok (c, r) ∧
        Descriptor.IsReadFrom "app.api" false source descriptor ds ∧ descriptor.roots = [e] ∧
        ¬ r.Shows c e.shape := by
  have hshape : definition.shape? none = some (.mk "A" "A" "a" none []
      [.mk "B" "A.B" " b" (some "p") [] []]) := by
    rfl
  obtain ⟨c, r, hdefine, hout⟩ : ∃ c r,
      define evaluate (fun _ => ()) "app.api" none definition {} = .ok (c, r) ∧
        Outcome {} r none definition c :=
    exists_define definition (sound {}) none (Registry.grows_of_classes_eq rfl)
  obtain ⟨descriptor, ds, e, hread, hroots, he⟩ := isSourceOf.exists_root hshape
  refine ⟨isSourceOf, sound {}, c, r, descriptor, ds, e, hdefine, hread, hroots, ?_⟩
  intro hshows
  have hsame := hshows.unique (hout.defined.shows (sound {}) hshape)
  rw [he, ClassShape.trimmed_eq_self_iff] at hsame
  have hblank := hsame " b" (by decide)
  revert hblank
  decide

end Sample.Nested

end Waymark

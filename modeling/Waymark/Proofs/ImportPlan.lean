import Mathlib.Data.List.Nodup
import Mathlib.Data.List.TakeWhile
import Waymark.Client.Source

/-! # The order of the imports

    A client module writes its imports as sorted lines. `importPlan` lists the imports
    themselves in the order in which they are written, which is the order in which they
    take effect.

    * Nothing is lost or doubled on the way: the plan has the same imports as the list it
      is made of, each once (`mem_importPlan_iff`, `importPlan_nodup`). This needs that
      no two imports look alike, hence names without blanks (`Import.Legible`).
    * The plan is printed as the list it is made of (`importBlock_importPlan`).
    * The plan ascends in the order of `Import.Precedes`: whole modules come first, then
      items, by module and by their text (`importPlan_sorted`).
-/

namespace Waymark.Client

namespace Import

/-! ## Single imports -/

/-- The name that an import binds. A whole module without a new name binds its outermost
    package. -/
def localName : Import → String
  | whole path newName => newName.getD (topName path)
  | item _ name newName => newName.getD name

/-- The name that is written first has no blanks, so it can be told where it ends. -/
def Legible : Import → Prop
  | whole path _ => ' ' ∉ path.toList
  | item _ name _ => ' ' ∉ name.toList

/-- The order in which imports are written. -/
def Precedes : Import → Import → Prop
  | whole path newName, whole path' newName' => renamed path newName < renamed path' newName'
  | whole .., item .. => True
  | item .., whole .. => False
  | item module name newName, item module' name' newName' =>
    module < module' ∨ module = module' ∧ renamed name newName < renamed name' newName'

theorem toList_renamed (name : String) (newName : Option String) :
    (renamed name newName).toList
      = name.toList ++ (newName.map fun other => " as ".toList ++ other.toList).getD [] := by
  cases newName with
  | none => simp [renamed]
  | some other => simp [renamed, String.toList_append]

/-- Where a name ends can be told by the first blank. -/
theorem takeWhile_renamed {name : String} (h : ' ' ∉ name.toList) (newName : Option String) :
    (renamed name newName).toList.takeWhile (· ≠ ' ') = name.toList := by
  have hname : name.toList.takeWhile (· ≠ ' ') = name.toList := by
    rw [List.takeWhile_eq_self_iff]
    intro c hc
    simpa using fun heq : c = ' ' => h (heq ▸ hc)
  rw [toList_renamed, List.takeWhile_append_of_pos]
  · cases newName with
    | none => simp
    | some other => simp
  · intro c hc
    simpa using fun heq : c = ' ' => h (heq ▸ hc)

/-- A name and its new name can be read off the text. -/
theorem renamed_inj {name name' : String} {newName newName' : Option String}
    (h : ' ' ∉ name.toList) (h' : ' ' ∉ name'.toList)
    (heq : renamed name newName = renamed name' newName') : name = name' ∧ newName = newName' := by
  -- the old name ends before the first blank
  have hname : name = name' := by
    apply String.toList_inj.mp
    rw [← takeWhile_renamed h newName, heq, takeWhile_renamed h' newName']
  subst hname
  refine ⟨rfl, ?_⟩
  have hlists := congrArg String.toList heq
  rw [toList_renamed, toList_renamed, List.append_cancel_left_eq] at hlists
  cases newName with
  | none =>
    cases newName' with
    | none => rfl
    | some other => simp at hlists
  | some other =>
    cases newName' with
    | none => simp at hlists
    | some other' =>
      simp only [Option.map_some, Option.getD_some, List.append_cancel_left_eq] at hlists
      rw [String.toList_inj.mp hlists]

theorem statement?_eq_some_iff {i : Import} {line : String} :
    i.statement? = some line ↔
      ∃ path newName, i = whole path newName ∧ line = "import " ++ renamed path newName := by
  cases i with
  | whole path newName => simp [statement?, eq_comm]
  | item module name newName => simp [statement?]

theorem itemOf?_eq_some_iff {i : Import} {module text : String} :
    i.itemOf? module = some text ↔
      ∃ name newName, i = item module name newName ∧ text = renamed name newName := by
  cases i with
  | whole path newName => simp [itemOf?]
  | item module' name newName =>
    by_cases h : module' = module
    · subst h
      simp [itemOf?, eq_comm]
    · simp [itemOf?, h]

/-- No two imports of whole modules are written alike. -/
theorem statement?_inj {i j : Import} (hi : i.Legible) (hj : j.Legible) {line : String}
    (h : i.statement? = some line) (h' : j.statement? = some line) : i = j := by
  obtain ⟨path, newName, rfl, rfl⟩ := statement?_eq_some_iff.mp h
  obtain ⟨path', newName', rfl, heq⟩ := statement?_eq_some_iff.mp h'
  have htexts : renamed path newName = renamed path' newName' := by
    have hlists := congrArg String.toList heq
    rw [String.toList_append, String.toList_append, List.append_cancel_left_eq] at hlists
    exact String.toList_inj.mp hlists
  obtain ⟨rfl, rfl⟩ := renamed_inj hi hj htexts
  rfl

/-- No two items of a module are written alike. -/
theorem itemOf?_inj {i j : Import} (hi : i.Legible) (hj : j.Legible) {module text : String}
    (h : i.itemOf? module = some text) (h' : j.itemOf? module = some text) : i = j := by
  obtain ⟨name, newName, rfl, rfl⟩ := itemOf?_eq_some_iff.mp h
  obtain ⟨name', newName', rfl, heq⟩ := itemOf?_eq_some_iff.mp h'
  obtain ⟨rfl, rfl⟩ := renamed_inj hi hj heq
  rfl

end Import

theorem append_lt_append_iff {front a b : String} : front ++ a < front ++ b ↔ a < b := by
  show (front ++ a).toList < (front ++ b).toList ↔ a.toList < b.toList
  rw [String.toList_append, String.toList_append]
  induction front.toList with
  | nil => rfl
  | cons c rest ih => rw [List.cons_append, List.cons_append, List.cons_lt_cons_self, ih]

/-! ## Imports found by their texts -/

/-- The imports that are written as the texts say, in the order of the texts. -/
def writtenAs (write : Import → Option String) (all : List Import) (texts : List String) :
    List Import :=
  texts.filterMap fun text => all.find? fun i => write i = some text

theorem written_of_find {write : Import → Option String} {all : List Import} {text : String}
    {i : Import} (h : all.find? (fun i => write i = some text) = some i) :
    i ∈ all ∧ write i = some text := by
  have hwrite := List.find?_some h
  exact ⟨List.mem_of_find?_eq_some h, of_decide_eq_true hwrite⟩

theorem mem_of_mem_writtenAs {write : Import → Option String} {all : List Import}
    {texts : List String} {i : Import} (h : i ∈ writtenAs write all texts) :
    i ∈ all ∧ ∃ text ∈ texts, write i = some text := by
  obtain ⟨text, htext, hfind⟩ := List.mem_filterMap.mp h
  obtain ⟨hi, hwrite⟩ := written_of_find hfind
  exact ⟨hi, text, htext, hwrite⟩

/-- Imports that ascend in their texts. -/
theorem writtenAs_sorted {write : Import → Option String} {all : List Import}
    (texts : List String) (h : texts.Pairwise (· < ·)) :
    (writtenAs write all texts).Pairwise fun i j =>
      ∃ text text', write i = some text ∧ write j = some text' ∧ text < text' := by
  refine h.filterMap _ ?_
  intro text text' hlt i hi j hj
  exact ⟨text, text', (written_of_find hi).2, (written_of_find hj).2, hlt⟩

/-- An import is found by its text if no other one is written alike. -/
theorem mem_writtenAs {write : Import → Option String} {all : List Import} {texts : List String}
    {i : Import} {text : String} (hi : i ∈ all) (htext : text ∈ texts) (hwrite : write i = some text)
    (hinj : ∀ j ∈ all, write j = some text → j = i) : i ∈ writtenAs write all texts := by
  refine List.mem_filterMap.mpr ⟨text, htext, ?_⟩
  cases hfind : all.find? fun j => write j = some text with
  | none => exact absurd (decide_eq_true hwrite) (List.find?_eq_none.mp hfind i hi)
  | some j =>
    obtain ⟨hj, hsame⟩ := written_of_find hfind
    rw [hinj j hj hsame]

/-! ## The plan -/

/-- The texts of the imports of whole modules, sorted. -/
def wholeLines (all : List Import) : List String :=
  Text.sortDistinct (all.filterMap Import.statement?)

/-- The modules that items are imported from, sorted. -/
def itemModules (all : List Import) : List String :=
  Text.sortDistinct (all.filterMap Import.itemModule?)

/-- The texts of the items that are imported from a module, sorted. -/
def itemTexts (all : List Import) (module : String) : List String :=
  Text.sortDistinct (all.filterMap (Import.itemOf? module))

/-- The imports in the order in which they are written. -/
def importPlan (all : List Import) : List Import :=
  writtenAs Import.statement? all (wholeLines all)
    ++ (itemModules all).flatMap fun module =>
        writtenAs (Import.itemOf? module) all (itemTexts all module)

/-- Nothing is left out of the plan, and nothing is put in. -/
theorem mem_importPlan_iff {all : List Import} (h : ∀ i ∈ all, i.Legible) {i : Import} :
    i ∈ importPlan all ↔ i ∈ all := by
  unfold importPlan
  rw [List.mem_append, List.mem_flatMap]
  constructor
  · rintro (hmem | ⟨module, -, hmem⟩)
    · exact (mem_of_mem_writtenAs hmem).1
    · exact (mem_of_mem_writtenAs hmem).1
  · intro hi
    -- what is written tells the import, as long as all of them are legible
    cases i with
    | whole path newName =>
      have hwrite : (Import.whole path newName).statement? = some _ := rfl
      have hline := Text.mem_sortDistinct.mpr (List.mem_filterMap.mpr ⟨_, hi, hwrite⟩)
      exact .inl (mem_writtenAs hi hline hwrite fun j hj hsame =>
        Import.statement?_inj (h j hj) (h _ hi) hsame hwrite)
    | item module name newName =>
      have hmodule : (Import.item module name newName).itemModule? = some module := rfl
      have hwrite : (Import.item module name newName).itemOf? module = some _ :=
        Import.itemOf?_eq_some_iff.mpr ⟨name, newName, rfl, rfl⟩
      have htext := Text.mem_sortDistinct.mpr (List.mem_filterMap.mpr ⟨_, hi, hwrite⟩)
      refine .inr ⟨module, Text.mem_sortDistinct.mpr (List.mem_filterMap.mpr ⟨_, hi, hmodule⟩), ?_⟩
      exact mem_writtenAs hi htext hwrite fun j hj hsame =>
        Import.itemOf?_inj (h j hj) (h _ hi) hsame hwrite

/-- The imports are written in ascending order. -/
theorem importPlan_sorted (all : List Import) : (importPlan all).Pairwise Import.Precedes := by
  unfold importPlan
  rw [List.pairwise_append]
  refine ⟨?_, ?_, ?_⟩
  · refine (writtenAs_sorted _ (Text.sortDistinct_sorted _)).imp ?_
    rintro i j ⟨line, line', hi, hj, hlt⟩
    obtain ⟨path, newName, rfl, rfl⟩ := Import.statement?_eq_some_iff.mp hi
    obtain ⟨path', newName', rfl, rfl⟩ := Import.statement?_eq_some_iff.mp hj
    exact append_lt_append_iff.mp hlt
  · rw [List.pairwise_flatMap]
    constructor
    · intro module _
      refine (writtenAs_sorted _ (Text.sortDistinct_sorted _)).imp ?_
      rintro i j ⟨text, text', hi, hj, hlt⟩
      obtain ⟨name, newName, rfl, rfl⟩ := Import.itemOf?_eq_some_iff.mp hi
      obtain ⟨name', newName', rfl, rfl⟩ := Import.itemOf?_eq_some_iff.mp hj
      exact .inr ⟨rfl, hlt⟩
    · refine (Text.sortDistinct_sorted _).imp ?_
      intro module module' hlt i hi j hj
      obtain ⟨-, text, -, hi⟩ := mem_of_mem_writtenAs hi
      obtain ⟨-, text', -, hj⟩ := mem_of_mem_writtenAs hj
      obtain ⟨name, newName, rfl, -⟩ := Import.itemOf?_eq_some_iff.mp hi
      obtain ⟨name', newName', rfl, -⟩ := Import.itemOf?_eq_some_iff.mp hj
      exact .inl hlt
  -- whole modules come before items
  · intro i hi j hj
    obtain ⟨-, line, -, hwhole⟩ := mem_of_mem_writtenAs hi
    obtain ⟨module, -, hj⟩ := List.mem_flatMap.mp hj
    obtain ⟨-, text, -, hitem⟩ := mem_of_mem_writtenAs hj
    obtain ⟨path, newName, rfl, -⟩ := Import.statement?_eq_some_iff.mp hwhole
    obtain ⟨name, newName, rfl, -⟩ := Import.itemOf?_eq_some_iff.mp hitem
    trivial

/-- The plan has whole modules in ascending order of their lines. -/
theorem importPlan_wholes_sorted (all : List Import) :
    ((importPlan all).filterMap Import.statement?).Pairwise (· < ·) := by
  refine (importPlan_sorted all).filterMap _ ?_
  intro i j hlt line hi line' hj
  obtain ⟨path, newName, rfl, rfl⟩ := Import.statement?_eq_some_iff.mp hi
  obtain ⟨path', newName', rfl, rfl⟩ := Import.statement?_eq_some_iff.mp hj
  exact append_lt_append_iff.mpr hlt

/-- The plan has the items of a module in ascending order of their texts. -/
theorem importPlan_items_sorted (all : List Import) (module : String) :
    ((importPlan all).filterMap (Import.itemOf? module)).Pairwise (· < ·) := by
  refine (importPlan_sorted all).filterMap _ ?_
  intro i j hlt text hi text' hj
  obtain ⟨name, newName, rfl, rfl⟩ := Import.itemOf?_eq_some_iff.mp hi
  obtain ⟨name', newName', rfl, rfl⟩ := Import.itemOf?_eq_some_iff.mp hj
  rcases hlt with hlt | ⟨-, hlt⟩
  · exact absurd hlt (String.lt_irrefl module)
  · exact hlt

/-- The plan and the list it is made of are sorted to the same texts. -/
theorem sortDistinct_importPlan {all : List Import} (h : ∀ i ∈ all, i.Legible)
    (write : Import → Option String) :
    Text.sortDistinct ((importPlan all).filterMap write) = Text.sortDistinct (all.filterMap write) := by
  refine Text.eq_sortDistinct (Text.sortDistinct_sorted _) fun text => ?_
  simp only [Text.mem_sortDistinct, List.mem_filterMap, mem_importPlan_iff h]

/-- The plan is printed as the list it is made of. -/
theorem importBlock_importPlan {all : List Import} (h : ∀ i ∈ all, i.Legible) :
    importBlock (importPlan all) = importBlock all := by
  unfold importBlock
  simp only [sortDistinct_importPlan h]

/-- The lines write the imports out in their order: first the whole modules, then for each
    module that items are taken from one statement with its items. All of these ascend, so
    none is repeated. -/
structure WrittenOut (plan : List Import) (lines : List String) : Prop where
  lines : lines = plan.filterMap Import.statement?
    ++ (itemModules plan).flatMap fun module =>
        itemStatement module (plan.filterMap (Import.itemOf? module))
  wholes : (plan.filterMap Import.statement?).Pairwise (· < ·)
  modules : (itemModules plan).Pairwise (· < ·)
  items : ∀ module, (plan.filterMap (Import.itemOf? module)).Pairwise (· < ·)

theorem importPlan_writtenOut (all : List Import) :
    WrittenOut (importPlan all) (importBlock (importPlan all)) := by
  have hwholes := importPlan_wholes_sorted all
  have hitems := importPlan_items_sorted all
  refine ⟨?_, hwholes, Text.sortDistinct_sorted _, hitems⟩
  unfold importBlock
  -- sorting changes nothing any more
  rw [← Text.eq_sortDistinct hwholes fun _ => Iff.rfl]
  simp only [← Text.eq_sortDistinct (hitems _) fun _ => Iff.rfl]
  rfl

/-- Of two imports at most one precedes the other. -/
theorem Import.Precedes.asymm {i j : Import} (h : i.Precedes j) : ¬ j.Precedes i := by
  intro h'
  -- the order is by kind, then by module, then by text
  cases i with
  | whole path newName =>
    cases j with
    | whole path' newName' => exact String.lt_asymm h h'
    | item module' name' newName' => exact h'
  | item module name newName =>
    cases j with
    | whole path' newName' => exact h
    | item module' name' newName' =>
      rcases h with h | ⟨rfl, h⟩
      · rcases h' with h' | ⟨rfl, -⟩
        · exact String.lt_asymm h h'
        · exact String.lt_irrefl _ h
      · rcases h' with h' | ⟨-, h'⟩
        · exact String.lt_irrefl _ h'
        · exact String.lt_asymm h h'

/-- Nothing precedes itself. -/
theorem Import.precedes_irrefl (i : Import) : ¬ i.Precedes i :=
  fun h => h.asymm h

/-- Nothing is imported twice. -/
theorem importPlan_nodup (all : List Import) : (importPlan all).Nodup := by
  refine (importPlan_sorted all).imp ?_
  rintro i j hlt rfl
  exact i.precedes_irrefl hlt

end Waymark.Client

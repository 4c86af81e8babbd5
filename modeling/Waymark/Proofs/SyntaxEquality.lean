import Waymark.Grammar.Tree

/-! # Equality of syntax trees

    Whether two expressions or two statements are the same can be computed. So what a source
    parses to can be checked against the statements that are expected, once its characters are
    listed (`toList_append_eq`).
-/

namespace Waymark.Grammar

/-! ## Expressions -/

namespace Expr

mutual
/-- Are the expressions the same? -/
def same : Expr → Expr → Bool
  | .name id, .name id' => decide (id = id')
  | .literal value, .literal value' => decide (value = value')
  | .apply form parts, .apply form' parts' => decide (form = form') && sameAll parts parts'
  | _, _ => false

def sameAll : List Expr → List Expr → Bool
  | [], [] => true
  | e :: rest, e' :: rest' => e.same e' && sameAll rest rest'
  | _, _ => false
end

theorem eq_of_same : (∀ e e' : Expr, e.same e' = true → e = e') ∧
    ∀ es es' : List Expr, sameAll es es' = true → es = es' := by
  apply same.mutual_induct
  case case3 =>
    intro form parts form' parts' ih h
    simp only [same, Bool.and_eq_true, decide_eq_true_eq] at h
    rw [h.1, ih h.2]
  case case6 =>
    intro e rest e' rest' ih ih' h
    simp only [sameAll, Bool.and_eq_true] at h
    rw [ih h.1, ih' h.2]
  all_goals simp_all [same, sameAll]

mutual
theorem same_self (e : Expr) : e.same e = true := by
  cases e with
  | name id => simp [same]
  | literal value => simp [same]
  | apply form parts => simp [same, sameAll_self parts]

theorem sameAll_self (es : List Expr) : sameAll es es = true := by
  cases es with
  | nil => simp [sameAll]
  | cons e rest => simp [sameAll, same_self e, sameAll_self rest]
end

instance : DecidableEq Expr := fun e e' =>
  if h : e.same e' = true then isTrue (eq_of_same.1 e e' h)
  else isFalse fun hsame => h (hsame ▸ same_self e)

end Expr

/-! ## Statements -/

namespace Statement

mutual
/-- Are the statements the same? -/
def same : Statement → Statement → Bool
  | .importModules items, .importModules items' => decide (items = items')
  | .importItems level module items, .importItems level' module' items' =>
    decide (level = level') && decide (module = module') && decide (items = items')
  | .classDef name bases decorators body line, .classDef name' bases' decorators' body' line' =>
    decide (name = name') && decide (bases = bases') && decide (decorators = decorators')
      && sameAll body body' && decide (line = line')
  | .functionDef name decorators body, .functionDef name' decorators' body' =>
    decide (name = name') && decide (decorators = decorators') && sameAll body body'
  | .assign targets value, .assign targets' value' =>
    decide (targets = targets') && decide (value = value')
  | .annotate target typeExpr value, .annotate target' typeExpr' value' =>
    decide (target = target') && decide (typeExpr = typeExpr') && decide (value = value')
  | .compound body, .compound body' => sameAll body body'
  | .simple, .simple => true
  | _, _ => false

def sameAll : List Statement → List Statement → Bool
  | [], [] => true
  | s :: rest, s' :: rest' => s.same s' && sameAll rest rest'
  | _, _ => false
end

theorem eq_of_same : (∀ s s' : Statement, s.same s' = true → s = s') ∧
    ∀ ss ss' : List Statement, sameAll ss ss' = true → ss = ss' := by
  apply same.mutual_induct
  case case3 =>
    intro name bases decorators body line name' bases' decorators' body' line' ih h
    simp only [same, Bool.and_eq_true, decide_eq_true_eq] at h
    obtain ⟨⟨⟨⟨rfl, rfl⟩, rfl⟩, hbody⟩, rfl⟩ := h
    rw [ih hbody]
  case case4 =>
    intro name decorators body name' decorators' body' ih h
    simp only [same, Bool.and_eq_true, decide_eq_true_eq] at h
    obtain ⟨⟨rfl, rfl⟩, hbody⟩ := h
    rw [ih hbody]
  case case11 =>
    intro s rest s' rest' ih ih' h
    simp only [sameAll, Bool.and_eq_true] at h
    rw [ih h.1, ih' h.2]
  all_goals simp_all [same, sameAll]

mutual
theorem same_self (s : Statement) : s.same s = true := by
  cases s with
  | classDef name bases decorators body line => simp [same, sameAll_self body]
  | functionDef name decorators body => simp [same, sameAll_self body]
  | compound body => simp [same, sameAll_self body]
  | _ => simp [same]

theorem sameAll_self (ss : List Statement) : sameAll ss ss = true := by
  cases ss with
  | nil => simp [sameAll]
  | cons s rest => simp [sameAll, same_self s, sameAll_self rest]
end

instance : DecidableEq Statement := fun s s' =>
  if h : s.same s' = true then isTrue (eq_of_same.1 s s' h)
  else isFalse fun hsame => h (hsame ▸ same_self s)

end Statement

end Waymark.Grammar

namespace Waymark.Text

/-! ## The characters of a text -/

/-- The characters of a text are those of its pieces. With it and with `String.toList_ofList` the
    characters of a source that is written in pieces are read off its literals; to evaluate
    `String.toList` would take the bytes of each literal apart. -/
theorem toList_append_eq {a b : String} {as bs : List Char} (ha : a.toList = as)
    (hb : b.toList = bs) : (a ++ b).toList = as ++ bs := by
  rw [String.toList_append, ha, hb]

/-- In the same way for lines, each of which ends with a line feed. -/
theorem toList_lines_cons {line : String} {lines : List String} {cs ds : List Char}
    (h : line.toList = cs) (hrest : (lines.flatMap fun line => line.toList ++ ['\n']) = ds) :
    ((line :: lines).flatMap fun line => line.toList ++ ['\n']) = cs ++ '\n' :: ds := by
  rw [List.flatMap_cons, h, hrest, List.append_assoc]
  rfl

theorem map_toList_cons {s : String} {rest : List String} {cs : List Char} {css : List (List Char)}
    (h : s.toList = cs) (hrest : rest.map String.toList = css) :
    (s :: rest).map String.toList = cs :: css := by
  rw [List.map_cons, h, hrest]

/-- What holds of the characters of each of some names. -/
theorem forall_of_map_toList {names : List String} {css : List (List Char)} {P : List Char → Prop}
    (h : names.map String.toList = css) (hall : ∀ cs ∈ css, P cs) : ∀ name ∈ names, P name.toList := by
  subst h
  exact fun name hname => hall _ (List.mem_map_of_mem hname)

end Waymark.Text

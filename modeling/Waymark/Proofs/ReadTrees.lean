import Waymark.Proofs.ParserRules

/-! # Trees that the grammar reads

    What is known of every expression that is read from a text, whatever the text is.

    * Names are identifiers, each form has the parts that belong to it (`Form.Takes`), and a text
      literal is shorter than the source (`Expr.Read`, which leaves out what stands in formatted
      texts).
    * Where an expression may stand alone, what is read is neither starred nor a slice
      (`Expr.IsValue`).

    One lemma for each rule of the grammar says so of what the rule reads, and `Rules.atDepth_sound`
    ties them together. The main result is `parseExpression_value`.
-/

namespace Waymark

namespace Grammar

/-! ## Well-formed trees -/

/-- The number of parts that stand before the clauses of a comprehension. -/
def Comprehension.elements : Comprehension → Nat
  | .dictionary => 2
  | _ => 1

/-- May the form have that many parts? -/
def Form.Takes : Form → Nat → Prop
  | .attribute _, n | .unary _, n | .await, n | .yieldFrom, n | .starred, n => n = 1
  | .subscript, n | .binary _, n | .named, n => n = 2
  | .conditional, n => n = 3
  | .call positional keywords, n => n = 1 + positional + keywords.length
  | .boolean _, n => 2 ≤ n
  | .comparison ops, n => n = ops.length + 1
  | .lambda _, n => 1 ≤ n
  | .comprehension kind _, n => kind.elements ≤ n
  | .yield, n => n ≤ 1
  | .slice lower upper step, n => n = lower.toNat + upper.toNat + step.toNat
  | .tuple, _ | .list, _ | .set, _ | .dictionary _, _ => True
  | .joined, _ | .replacement _, _ => False

/-- A tree as it is read from a text of length `n`. Of formatted texts nothing is said. -/
inductive Expr.Read (n : Nat) : Expr → Prop
  | name {id : String} (isIdentifier : Text.isIdentifier id = true) : Read n (.name id)
  | text {codes : List Nat} {marked : Bool} (shorter : codes.length < n) :
    Read n (.literal (.text codes marked))
  | literal {value : Literal} (noText : (Expr.literal value).text? = none) :
    Read n (.literal value)
  | joined {parts : List Expr} : Read n (.apply .joined parts)
  | apply {form : Form} {parts : List Expr} (takes : form.Takes parts.length)
    (read : ∀ e ∈ parts, Read n e) : Read n (.apply form parts)

/-- May the expression stand alone? -/
def Expr.IsValue : Expr → Prop
  | .apply .starred _ => False
  | .apply (.slice _ _ _) _ => False
  | _ => True

/-- A tree as it is read where an expression stands alone. -/
structure Expr.Value (n : Nat) (e : Expr) : Prop where
  read : e.Read n
  isValue : e.IsValue

/-- A tree as it is read where an expression stands alone or is starred. -/
structure Expr.Item (n : Nat) (e : Expr) : Prop where
  read : e.Read n
  isValue : Rules.isStarred e = false → e.IsValue

namespace Expr

variable {n : Nat} {e : Expr}

theorem Value.item (h : e.Value n) : e.Item n :=
  ⟨h.read, fun _ => h.isValue⟩

theorem Item.value (h : e.Item n) (hstar : Rules.isStarred e = false) : e.Value n :=
  ⟨h.read, h.isValue hstar⟩

theorem Read.mono {m : Nat} (h : e.Read n) (hle : n ≤ m) : e.Read m := by
  induction h with
  | name isIdentifier => exact .name isIdentifier
  | text shorter => exact .text (shorter.trans_le hle)
  | literal noText => exact .literal noText
  | joined => exact .joined
  | apply takes _ ih => exact .apply takes ih

theorem item_starred (h : e.Read n) : (Expr.apply .starred [e]).Item n :=
  ⟨.apply rfl (List.forall_mem_singleton.mpr h), fun hstar => by cases hstar⟩

theorem value_pair {form : Form} {a b : Expr} (htakes : form.Takes 2)
    (hvalue : (Expr.apply form [a, b]).IsValue) (ha : a.Read n) (hb : b.Read n) :
    (Expr.apply form [a, b]).Value n :=
  ⟨.apply htakes (by simp [ha, hb]), hvalue⟩

theorem value_single {form : Form} {a : Expr} (htakes : form.Takes 1)
    (hvalue : (Expr.apply form [a]).IsValue) (ha : a.Read n) : (Expr.apply form [a]).Value n :=
  ⟨.apply htakes (List.forall_mem_singleton.mpr ha), hvalue⟩

end Expr

theorem tupleOf_read {n : Nat} {items : List Expr} {trailing : Bool} (h : ∀ e ∈ items, e.Read n) :
    (Rules.tupleOf items trailing).Read n := by
  unfold Rules.tupleOf
  split
  · exact h _ List.mem_cons_self
  · exact .apply trivial h

theorem tupleOf_value {n : Nat} {items : List Expr} {trailing : Bool} (h : ∀ e ∈ items, e.Read n)
    (hone : ∀ e, items = [e] → trailing = false → e.IsValue) :
    (Rules.tupleOf items trailing).Value n := by
  refine ⟨tupleOf_read h, ?_⟩
  unfold Rules.tupleOf
  split
  · exact hone _ rfl rfl
  · trivial

/-- A number is no text. -/
theorem numberValue?_noText {cs : List Char} {value : Literal} (h : numberValue? cs = some value) :
    (Expr.literal value).text? = none := by
  -- whichever test holds, the value is a number
  have hite : ∀ {condition : Prop} [Decidable condition] {a b : Option Literal},
      (∀ v ∈ a, (Expr.literal v).text? = none) → (∀ v ∈ b, (Expr.literal v).text? = none) →
      ∀ v ∈ (if condition then a else b), (Expr.literal v).text? = none := by
    intro condition _ a b ha hb
    split
    · exact ha
    · exact hb
  have hsome : ∀ v : Literal, (Expr.literal v).text? = none →
      ∀ w ∈ some v, (Expr.literal w).text? = none := by
    intro v hv w hw
    cases hw
    exact hv
  exact hite (hsome _ rfl) (hite (hsome _ rfl) (hite (hsome _ rfl) (hite (hsome _ rfl)
    (hite (hite (by simp) (hsome _ rfl)) (hsome _ rfl))))) value h

/-! ## The rules of the grammar -/

/-- What the rules for nested expressions read is well-formed. -/
structure Rules.Sound (r : Rules) : Prop where
  expression (n : Nat) : Parser.Keeps (Parser.Within n) r.expression (Expr.Value n)
  inversion (n : Nat) : Parser.Keeps (Parser.Within n) r.inversion (Expr.Value n)
  factor (n : Nat) : Parser.Keeps (Parser.Within n) r.factor (Expr.Value n)

namespace Rules

open Waymark.Grammar.Parser

variable {r : Rules} {n : Nat}

/-! ### Operators -/

theorem leftChain_reads {operator : Parser (Option BinaryOp)} {operand : Parser Expr}
    [Steady (Within n) operator] (hoperand : Keeps (Within n) operand (Expr.Value n)) {limit : Nat}
    {left : Expr} (h : left.Value n) :
    Keeps (Within n) (leftChain operator operand limit left) (Expr.Value n) := by
  induction limit generalizing left with
  | zero => exact .pure h
  | succ limit ih =>
    unfold leftChain
    refine .after fun op => ?_
    cases op with
    | none => exact .pure h
    | some op =>
      exact .after fun _ => .bind hoperand fun right hright =>
        ih (Expr.value_pair rfl trivial h.read hright.read)

instance (table : List (String × BinaryOp)) : Steady (Within n) (binaryAmong table) := by
  unfold binaryAmong; infer_instance

theorem binaryLevel_reads {table : List (String × BinaryOp)} {operand : Parser Expr}
    (h : Keeps (Within n) operand (Expr.Value n)) :
    Keeps (Within n) (r.binaryLevel table operand) (Expr.Value n) :=
  .bind h fun _ hfirst => leftChain_reads h hfirst

theorem bitOr_reads (h : r.Sound) : Keeps (Within n) r.bitOr (Expr.Value n) :=
  binaryLevel_reads (binaryLevel_reads (binaryLevel_reads (binaryLevel_reads
    (binaryLevel_reads (binaryLevel_reads (h.factor n))))))

instance : Steady (Within n) compareOp := by
  refine ⟨.after fun token => ?_⟩
  split
  · dsimp only
    split
    · exact Steady.keeps
    · exact Steady.keeps
  · refine .after fun _ => ?_
    split
    · exact Steady.keeps
    · exact Steady.keeps

theorem comparisons_read (h : r.Sound) (limit : Nat) :
    Keeps (Within n) (r.comparisons limit) fun found => ∀ e ∈ found.map Prod.snd, e.Read n := by
  induction limit with
  | zero => exact .pure (by simp)
  | succ limit ih =>
    unfold comparisons
    refine .after fun op => ?_
    cases op with
    | none => exact .pure (by simp)
    | some op =>
      exact .bind (bitOr_reads h) fun right hright => .bind ih fun later hlater =>
        .pure (List.forall_mem_cons.mpr ⟨hright.read, hlater⟩)

theorem comparison_reads (h : r.Sound) : Keeps (Within n) r.comparison (Expr.Value n) := by
  refine .bind (bitOr_reads h) fun first hfirst => .bind (comparisons_read h _) fun rest hrest => ?_
  split
  · exact .pure hfirst
  · refine .pure ⟨.apply ?_ (List.forall_mem_cons.mpr ⟨hfirst.read, hrest⟩), trivial⟩
    simp [Form.Takes]

theorem wordOperands_read {joint : String} {operand : Parser Expr}
    (h : Keeps (Within n) operand (Expr.Value n)) (limit : Nat) :
    Keeps (Within n) (wordOperands joint operand limit) fun found => ∀ e ∈ found, e.Read n := by
  induction limit with
  | zero => exact .pure (by simp)
  | succ limit ih =>
    unfold wordOperands
    refine .after fun _ => ?_
    split
    · exact .bind h fun e he => .bind ih fun later hlater =>
        .pure (List.forall_mem_cons.mpr ⟨he.read, hlater⟩)
    · exact .pure (by simp)

theorem wordChain_reads {joint : String} {op : BoolOp} {operand : Parser Expr}
    (h : Keeps (Within n) operand (Expr.Value n)) :
    Keeps (Within n) (r.wordChain joint op operand) (Expr.Value n) := by
  refine .bind h fun first hfirst => .bind (wordOperands_read h _) fun rest hrest => ?_
  split
  · exact .pure hfirst
  · next hne =>
    refine .pure ⟨.apply ?_ (List.forall_mem_cons.mpr ⟨hfirst.read, hrest⟩), trivial⟩
    cases rest with
    | nil => exact absurd rfl hne
    | cons second rest => exact Nat.le_add_left 2 rest.length

theorem disjunction_reads (h : r.Sound) : Keeps (Within n) r.disjunction (Expr.Value n) :=
  wordChain_reads (wordChain_reads (h.inversion n))

/-! ### Names in passing and stars -/

theorem namedTarget_reads :
    Keeps (Within n) namedTarget fun found => ∀ id ∈ found, Text.isIdentifier id = true :=
  .attempt (.bind name_keeps fun _ hid => .after fun _ => .pure hid)

theorem named_value {id : String} {e : Expr} (hid : Text.isIdentifier id = true) (he : e.Read n) :
    (Expr.apply .named [.name id, e]).Value n :=
  Expr.value_pair rfl trivial (.name hid) he

theorem namedExpression_reads (h : r.Sound) :
    Keeps (Within n) r.namedExpression (Expr.Value n) := by
  refine .bind namedTarget_reads fun target htarget => ?_
  cases target with
  | some id =>
    exact .bind (h.expression n) fun value hvalue =>
      .pure (named_value (htarget id rfl) hvalue.read)
  | none =>
    exact .bind (h.expression n) fun e he => .after fun _ => .require fun _ => .pure he

theorem starExpression_reads (h : r.Sound) : Keeps (Within n) r.starExpression (Expr.Item n) := by
  refine .after fun _ => ?_
  split
  · exact .bind (bitOr_reads h) fun e he => .pure (Expr.item_starred he.read)
  · exact (h.expression n).imp fun _ he => he.item

theorem starExpressions_read (h : r.Sound) :
    Keeps (Within n) r.starExpressions (Expr.Read n) :=
  .bind ((starExpression_reads h).commaList r.limit) fun _ hitems =>
    .pure (tupleOf_read fun e he => (hitems e he).read)

theorem starNamedExpression_reads (h : r.Sound) :
    Keeps (Within n) r.starNamedExpression (Expr.Item n) := by
  refine .after fun _ => ?_
  split
  · exact .bind (bitOr_reads h) fun e he => .pure (Expr.item_starred he.read)
  · exact (namedExpression_reads h).imp fun _ he => he.item

theorem starTargets_read (h : r.Sound) : Keeps (Within n) r.starTargets (Expr.Read n) := by
  have hend : ∀ e : Expr, e.Read n → Keeps (Within n) (do
      require (isStarTarget e)
      return e) (Expr.Read n) := fun e he => .require fun _ => .pure he
  refine .bind (.commaList (P := Expr.Read n) ?_ r.limit) fun _ hitems => .pure (tupleOf_read hitems)
  refine .after fun _ => ?_
  dsimp only
  split
  · exact .bind (bitOr_reads h) fun e he =>
      .bind (.pure (Expr.item_starred he.read).read) hend
  · exact .bind (bitOr_reads h) fun e he => hend e he.read

/-! ### Comprehensions -/

theorem conditions_read (h : r.Sound) (limit : Nat) :
    Keeps (Within n) (r.conditions limit) fun found => ∀ e ∈ found, e.Read n := by
  induction limit with
  | zero => exact .pure (by simp)
  | succ limit ih =>
    unfold conditions
    refine .after fun _ => ?_
    split
    · exact .bind (disjunction_reads h) fun e he => .bind ih fun later hlater =>
        .pure (List.forall_mem_cons.mpr ⟨he.read, hlater⟩)
    · exact .pure (by simp)

instance : Steady (Within n) comprehensionFollows := by
  unfold comprehensionFollows; infer_instance

theorem clauses_read (h : r.Sound) (limit : Nat) :
    Keeps (Within n) (r.clauses limit) fun found => ∀ e ∈ found.flatMap Prod.snd, e.Read n := by
  induction limit with
  | zero => exact .pure (by simp)
  | succ limit ih =>
    unfold clauses
    refine .after fun _ => ?_
    split
    · refine .after fun _ => .after fun _ => .bind (starTargets_read h) fun target htarget => ?_
      refine .after fun _ => .bind (disjunction_reads h) fun source hsource => ?_
      refine .bind (conditions_read h r.limit) fun conds hconds => .bind ih fun later hlater => ?_
      refine .pure fun e he => ?_
      rcases List.mem_append.mp he with he | he
      · exact List.forall_mem_cons.mpr ⟨htarget, List.forall_mem_cons.mpr ⟨hsource.read, hconds⟩⟩ e he
      · exact hlater e he
    · exact .pure (by simp)

theorem comprehension_reads (h : r.Sound) {kind : Comprehension} {front : List Expr}
    (hfront : ∀ e ∈ front, e.Read n) (hlength : kind.elements ≤ front.length) :
    Keeps (Within n) (r.comprehension kind front) (Expr.Value n) := by
  refine .bind (clauses_read h r.limit) fun cs hcs => .require fun _ => .pure ⟨.apply ?_ ?_, trivial⟩
  · rw [Form.Takes, List.length_append]
    omega
  · exact fun e he => (List.mem_append.mp he).elim (hfront e) (hcs e)

/-! ### Brackets -/

theorem yieldExpression_reads (h : r.Sound) :
    Keeps (Within n) r.yieldExpression (Expr.Value n) := by
  refine .after fun _ => .after fun _ => ?_
  split
  · exact .bind (h.expression n) fun e he => .pure (Expr.value_single rfl trivial he.read)
  · refine .bind (starExpressions_read h).attempt fun value hvalue => ?_
    cases value with
    | some e => exact .pure (Expr.value_single le_rfl trivial (hvalue e rfl))
    | none => exact .pure ⟨.apply (Nat.zero_le _) (by simp), trivial⟩

/-- What is read before a closing bracket. -/
theorem before_op {p : Parser Expr} {P : Expr → Prop} (hp : Keeps (Within n) p P) (s : String) :
    Keeps (Within n) (do let e ← p; op s; return e) P :=
  .bind hp fun _ he => .after fun _ => .pure he

theorem items_read (h : r.Sound) {first : Expr} (hfirst : first.Read n) :
    Keeps (Within n) (afterSeparators (acceptOp ",") r.starNamedExpression r.limit)
      fun found => ∀ e ∈ first :: found.1, e.Read n :=
  ((starNamedExpression_reads h).afterSeparators r.limit).imp fun _ hlater =>
    List.forall_mem_cons.mpr ⟨hfirst, fun e he => (hlater e he).read⟩

theorem parenthesized_reads (h : r.Sound) :
    Keeps (Within n) r.parenthesized (Expr.Value n) := by
  refine .after fun _ => ?_
  -- nothing, a yield, a comprehension or items
  split
  · exact .pure ⟨.apply trivial (by simp), trivial⟩
  · refine .after fun _ => ?_
    split
    · exact before_op (yieldExpression_reads h) _
    · refine .bind (starNamedExpression_reads h) fun first hfirst => .after fun _ => ?_
      split
      · exact .require fun _ => before_op (comprehension_reads h
          (List.forall_mem_singleton.mpr hfirst.read) le_rfl) _
      · refine .bind (items_read h hfirst.read) fun later hlater => ?_
        refine .after fun _ => .require fun hrequired => .pure (tupleOf_value hlater ?_)
        intro e hone htrailing
        obtain ⟨rfl, hnil⟩ := List.cons.inj hone
        rw [hnil, htrailing] at hrequired
        exact hfirst.isValue (by simpa using hrequired)

theorem bracketed_reads (h : r.Sound) : Keeps (Within n) r.bracketed (Expr.Value n) := by
  refine .after fun _ => ?_
  split
  · exact .pure ⟨.apply trivial (by simp), trivial⟩
  · refine .bind (starNamedExpression_reads h) fun first hfirst => .after fun _ => ?_
    split
    · exact .require fun _ => before_op (comprehension_reads h
        (List.forall_mem_singleton.mpr hfirst.read) le_rfl) _
    · exact .bind (items_read h hfirst.read) fun later hlater => .after fun _ =>
        .pure ⟨.apply trivial hlater, trivial⟩

/-- An entry of a dictionary that is well-formed. -/
def EntryRead (n : Nat) (entry : Option Expr × Expr) : Prop :=
  (∀ key ∈ entry.1, key.Read n) ∧ entry.2.Read n

theorem entry_reads (h : r.Sound) : Keeps (Within n) r.entry (EntryRead n) := by
  refine .after fun _ => ?_
  split
  · exact .bind (bitOr_reads h) fun e he => .pure ⟨by simp, he.read⟩
  · exact .bind (h.expression n) fun key hkey => .after fun _ => .bind (h.expression n)
      fun value hvalue => .pure ⟨by simpa using hkey.read, hvalue.read⟩

theorem dictionaryFrom_reads (h : r.Sound) {first : Option Expr × Expr} (hfirst : EntryRead n first) :
    Keeps (Within n) (r.dictionaryFrom first) (Expr.Value n) := by
  refine .after fun _ => ?_
  split
  -- a comprehension has one entry, which must have a key
  · refine .require fun hkey => before_op (comprehension_reads h ?_ ?_) _
    · intro e he
      rcases List.mem_append.mp he with he | he
      · exact hfirst.1 e (Option.mem_toList.mp he)
      · rw [List.mem_singleton.mp he]
        exact hfirst.2
    · obtain ⟨key, hkey⟩ := Option.isSome_iff_exists.mp hkey
      rw [hkey]
      exact le_rfl
  · refine .bind ((entry_reads h).afterSeparators r.limit) fun later hlater => .after fun _ => ?_
    have hentries : ∀ entry ∈ first :: later.1, EntryRead n entry :=
      List.forall_mem_cons.mpr ⟨hfirst, hlater⟩
    refine .pure ⟨.apply trivial fun e he => ?_, trivial⟩
    rcases List.mem_append.mp he with he | he
    · obtain ⟨entry, hentry, hkey⟩ := List.mem_filterMap.mp he
      exact (hentries entry hentry).1 e hkey
    · obtain ⟨entry, hentry, rfl⟩ := List.mem_map.mp he
      exact (hentries entry hentry).2

theorem braced_reads (h : r.Sound) : Keeps (Within n) r.braced (Expr.Value n) := by
  refine .after fun _ => ?_
  split
  · exact .pure ⟨.apply trivial (by simp), trivial⟩
  · refine .after fun _ => ?_
    split
    · exact .bind (entry_reads h) fun first hfirst => dictionaryFrom_reads h hfirst
    -- a colon behind the first item makes it a dictionary, anything else a set
    · refine .after fun _ => .after fun _ => .bind (starNamedExpression_reads h) fun first hfirst => ?_
      refine .after fun _ => ?_
      split
      · refine .require fun _ => .after fun _ => .bind (h.expression n) fun value hvalue => ?_
        exact dictionaryFrom_reads h ⟨by simpa using hfirst.read, hvalue.read⟩
      · refine .after fun _ => ?_
        split
        · exact .require fun _ => before_op (comprehension_reads h
            (List.forall_mem_singleton.mpr hfirst.read) le_rfl) _
        · exact .bind (items_read h hfirst.read) fun later hlater => .after fun _ =>
            .pure ⟨.apply trivial hlater, trivial⟩

/-! ### Texts -/

/-- The literal text that is pending has at most that many characters, unless the text turned out to
    be formatted. -/
def TextState.Short (k : Nat) (s : TextState) : Prop :=
  s.isFormatted = true ∨ s.pending.length ≤ k

theorem TextState.isFormatted_flush (s : TextState) : s.flush.isFormatted = s.isFormatted := by
  unfold TextState.flush
  split
  · rfl
  · rfl

theorem fieldExpression_keeps {starExpressions : Parser Expr} {line : Nat} {source : List Char} :
    Keeps (Within n) (fieldExpression starExpressions line source) fun _ => True := by
  unfold fieldExpression
  dsimp only
  split
  · exact .pure trivial
  · exact .complain

instance (starExpressions : Parser Expr) (line : Nat) (source : List Char) :
    Steady (Within n) (fieldExpression starExpressions line source) :=
  ⟨fieldExpression_keeps⟩

/-- Its pieces do not change whether a text is formatted. -/
theorem addPieces_keeps {starExpressions : Parser Expr} {line : Nat} (fuel : Nat)
    (pieces : List Piece) (s : TextState) :
    Keeps (Within n) (addPieces starExpressions line fuel pieces s)
      fun t => t.isFormatted = s.isFormatted := by
  induction fuel generalizing pieces s with
  | zero => exact .refuse
  | succ fuel ih =>
    match pieces with
    | [] => exact .pure rfl
    | .literal codes :: rest => exact ih rest _
    | .broken :: _ => exact .complainHere
    | .field source linesBefore shown conversion format :: rest =>
      -- a field is one more part, and whether the text is formatted stays as it was
      have hend : ∀ (value : Expr) (spec : List Expr), Keeps (Within n)
          (let t := { s with pending := s.pending ++ shown.getD [] }.flush
          addPieces starExpressions line fuel rest
            { t with parts := t.parts ++ [Expr.apply (.replacement conversion) (value :: spec)] })
          fun t => t.isFormatted = s.isFormatted := fun value spec =>
        (ih rest _).imp fun _ hlater => hlater.trans (TextState.isFormatted_flush _)
      unfold addPieces
      refine .after fun value => ?_
      cases format with
      | none => exact .bind (P := fun _ => True) (.pure trivial) fun spec _ => hend value spec
      | some pieces =>
        exact .bind (ih pieces {}) fun _ _ => .bind (P := fun _ => True) (.pure trivial)
          fun spec _ => hend value spec

theorem addText_keeps {starExpressions : Parser Expr} {token : Token} {t : TextSpelling}
    {s : TextState} {k : Nat} (hs : s.Short k) :
    Keeps (Within n) (addText starExpressions token t s) (TextState.Short (k + t.body.length)) := by
  -- codes that are put behind the pending ones are no more than the characters of the token
  have hplain : ∀ codes : List Nat, codes.length ≤ t.body.length →
      TextState.Short (k + t.body.length) { s with pending := s.pending ++ codes } := by
    intro codes hle
    refine hs.imp id fun hk => ?_
    rw [List.length_append]
    omega
  unfold addText
  split
  · exact .bind (addPieces_keeps _ _ _) fun later hlater =>
      .ite (fun _ => .pure (.inl hlater)) fun _ => .complainHere
  · split
    · exact .pure (hplain _ (List.length_map _).le)
    · split
      · next codes hcodes => exact .pure (hplain codes (length_decodeText_le hcodes))
      · exact .complainHere

theorem joinTexts_keeps {starExpressions : Parser Expr} {spellings : List (Token × TextSpelling)}
    {s : TextState} {k : Nat} (hs : s.Short k) :
    Keeps (Within n) (joinTexts starExpressions spellings s)
      (TextState.Short (k + (spellings.map fun t => t.2.body.length).sum)) := by
  induction spellings generalizing s k with
  | nil => exact .pure hs
  | cons first rest ih =>
    obtain ⟨token, t⟩ := first
    unfold joinTexts
    split
    · split
      · exact .complain
      · exact .complainHere
    · refine .bind (addText_keeps hs) fun later hlater => ?_
      rw [List.map_cons, List.sum_cons, ← Nat.add_assoc]
      exact ih hlater

theorem joinBytes_keeps {spellings : List (Token × TextSpelling)} :
    Keeps (Within n) (joinBytes spellings) fun _ => True := by
  induction spellings with
  | nil => exact .pure trivial
  | cons first rest ih =>
    unfold joinBytes
    dsimp only
    split
    · exact .complainHere
    · split
      · exact .complain
      · split
        · exact .complainHere
        · exact .bind ih fun _ _ => .pure trivial

theorem sum_length_body_add {tokens : List Token} (h : ∀ t ∈ tokens, t.kind = .text) :
    ((tokens.map fun t => (t, TextSpelling.ofChars t.spelling.toList)).map
      fun t => t.2.body.length).sum + tokens.length = weightOf tokens := by
  induction tokens with
  | nil => rfl
  | cons t rest ih =>
    obtain ⟨ht, hrest⟩ := List.forall_mem_cons.mp h
    have := ih hrest
    simp only [List.map_cons, List.sum_cons, weightOf_cons, Token.weight, ht, if_true,
      List.length_cons]
    omega

/-- Neighbouring literals are shorter together than what they weigh. -/
theorem texts_reads {starExpressions : Parser Expr} :
    Keeps (Within n) (r.texts starExpressions) (Expr.Value n) := by
  -- the texts side by side weigh no more than what was there
  have htokens : Keeps (Within n) (many (kind .text) r.limit) fun found =>
      weightOf found ≤ n ∧ ∀ t ∈ found, t.kind = .text := by
    intro input found next hI h
    obtain ⟨hrest, hkind⟩ := many_kind_eq_accepted h
    unfold Within at hI ⊢
    rw [hrest, weightOf_append] at hI
    exact ⟨by omega, by omega, hkind⟩
  refine .bind htokens fun tokens htokens => ?_
  cases tokens with
  | nil => exact .refuse
  | cons token rest =>
    refine .ite (fun _ => ?_) fun _ => ?_
    · exact .bind joinBytes_keeps fun _ _ => .pure ⟨.literal rfl, trivial⟩
    · refine .bind (joinTexts_keeps (k := 0) (.inr le_rfl)) fun s hs => ?_
      refine .ite (fun _ => .pure ⟨.joined, trivial⟩) fun hplain => ?_
      refine .pure ⟨.text ((hs.resolve_left hplain).trans_lt ?_), trivial⟩
      have hsum := sum_length_body_add htokens.2
      rw [List.length_cons] at hsum
      exact lt_of_lt_of_le (by omega) htokens.1

/-! ### Atoms and what follows them -/

theorem atom_reads (h : r.Sound) : Keeps (Within n) r.atom (Expr.Value n) := by
  -- all literals but texts have no weight
  have hliteral : ∀ value : Literal, (Expr.literal value).text? = none →
      Keeps (Within n) (pure (Expr.literal value)) (Expr.Value n) :=
    fun value hvalue => .pure ⟨.literal hvalue, trivial⟩
  refine .after fun token => ?_
  split
  · refine .ite (fun _ => .bind name_keeps fun id hid => .pure ⟨.name hid, trivial⟩) fun _ => ?_
    refine .after fun _ => .ite (fun _ => hliteral _ rfl) fun _ => ?_
    refine .after fun _ => .ite (fun _ => hliteral _ rfl) fun _ => ?_
    exact .after fun _ => .ite (fun _ => hliteral _ rfl) fun _ => .refuse
  · refine .after fun _ => ?_
    split
    · next value hvalue => exact hliteral value (numberValue?_noText hvalue)
    · exact .complain
  · exact texts_reads
  · refine .after fun _ => .ite (fun _ => parenthesized_reads h) fun _ => ?_
    refine .after fun _ => .ite (fun _ => bracketed_reads h) fun _ => ?_
    refine .after fun _ => .ite (fun _ => braced_reads h) fun _ => ?_
    exact .after fun _ => .ite (fun _ => hliteral _ rfl) fun _ => .refuse
  · exact .refuse

/-- The expression that an argument passes. -/
def Argument.value : Argument → Expr
  | .positional e | .starred e | .keyword _ e | .unpacked e => e

theorem argument_reads (h : r.Sound) :
    Keeps (Within n) r.argument fun a => a.value.Read n := by
  refine .after fun _ => .ite (fun _ => ?_) fun _ => ?_
  · exact .bind (h.expression n) fun e he => .pure (Expr.item_starred he.read).read
  refine .after fun _ => .ite (fun _ => ?_) fun _ => ?_
  · exact .bind (h.expression n) fun e he => .pure he.read
  refine .after fun keyword => ?_
  cases keyword with
  | some id => exact .bind (h.expression n) fun e he => .pure he.read
  | none =>
    exact .bind (namedExpression_reads h) fun e he => .after fun _ => .require fun _ => .pure he.read

theorem callOf_value {function : Expr} {arguments : List Argument} (hfunction : function.Read n)
    (h : ∀ a ∈ arguments, a.value.Read n) : (callOf function arguments).Value n := by
  refine ⟨.apply ?_ fun e he => ?_, trivial⟩
  · simp only [Form.Takes, List.length_cons, List.length_append, List.length_map]
    omega
  · rcases List.mem_append.mp he with he | he
    · rcases List.mem_cons.mp he with rfl | he
      · exact hfunction
      · obtain ⟨a, ha, heq⟩ := List.mem_filterMap.mp he
        cases a <;> cases heq <;> exact h _ ha
    · obtain ⟨keyword, hkeyword, rfl⟩ := List.mem_map.mp he
      obtain ⟨a, ha, heq⟩ := List.mem_filterMap.mp hkeyword
      cases a <;> cases heq <;> exact h _ ha

/-- A comprehension is an argument only if nothing else is. -/
theorem furtherArguments_read (h : r.Sound) {first : Argument} (hfirst : first.value.Read n)
    (generates : Option (List Argument))
    (hgenerates : ∀ found ∈ generates, ∀ a ∈ found, a.value.Read n) :
    Keeps (Within n)
      (match generates with
      | some arguments => pure arguments
      | none => do
        let (rest, _) ← afterSeparators (acceptOp ",") r.argument r.limit
        require (argumentsInOrder false false (first :: rest))
        op ")"
        return first :: rest) fun found => ∀ a ∈ found, a.value.Read n := by
  cases generates with
  | some found => exact .pure (hgenerates found rfl)
  | none =>
    exact .bind ((argument_reads h).afterSeparators r.limit) fun later hlater =>
      .require fun _ => .after fun _ => .pure (List.forall_mem_cons.mpr ⟨hfirst, hlater⟩)

theorem arguments_read (h : r.Sound) :
    Keeps (Within n) r.arguments fun found => ∀ a ∈ found, a.value.Read n := by
  refine .after fun _ => .ite (fun _ => .pure (by simp)) fun _ => ?_
  refine .bind (argument_reads h) fun first hfirst => ?_
  have hend := furtherArguments_read h hfirst
  dsimp only
  split
  · refine .after fun _ => .ite (fun _ => ?_) fun _ => ?_
    · refine .bind (comprehension_reads h (List.forall_mem_singleton.mpr hfirst) le_rfl) fun g hg => ?_
      refine .after fun _ => .bind (.pure ?_) hend
      simpa [Argument.value] using hg.read
    · exact .bind (.pure (by simp)) hend
  · exact .bind (.pure (by simp)) hend

/-- A slice is read around its colons, where each bound may be missing. -/
theorem range_reads {bound : Parser (Option Expr)}
    (hbound : Keeps (Within n) bound fun found => ∀ e ∈ found, e.Read n) {lower : Option Expr}
    (hlower : ∀ e ∈ lower, e.Read n) :
    Keeps (Within n) (do
      let upper ← bound
      let step ← if ← acceptOp ":" then bound else pure none
      return Expr.apply (.slice lower.isSome upper.isSome step.isSome)
        (lower.toList ++ upper.toList ++ step.toList)) (Expr.Read n) := by
  refine .bind hbound fun upper hupper => .after fun _ => ?_
  have hend : ∀ step : Option Expr, (∀ e ∈ step, e.Read n) → Keeps (Within n)
      (pure (Expr.apply (.slice lower.isSome upper.isSome step.isSome)
        (lower.toList ++ upper.toList ++ step.toList))) (Expr.Read n) := by
    intro step hstep
    refine .pure (.apply ?_ fun e he => ?_)
    · cases lower <;> cases upper <;> cases step <;> rfl
    · simp only [List.mem_append, Option.mem_toList] at he
      exact he.elim (fun he => he.elim (hlower e) (hupper e)) (hstep e)
  exact .ite (fun _ => .bind hbound hend) fun _ => .bind (.pure (by simp)) hend

theorem sliceItem_reads (h : r.Sound) : Keeps (Within n) r.sliceItem (Expr.Read n) := by
  -- a bound may be left out before a colon, a comma or the bracket
  have hbound : Keeps (Within n) (do
      if (← isOp ":") || (← isOp ",") || (← isOp "]") then return none
      else return some (← r.expression)) fun found => ∀ e ∈ found, e.Read n := by
    refine .after fun _ => .after fun _ => .after fun _ => .ite (fun _ => .pure (by simp)) fun _ => ?_
    exact .bind (h.expression n) fun e he => .pure (by simpa using he.read)
  refine .after fun _ => .ite (fun _ => range_reads hbound (by simp)) fun _ => ?_
  refine .after fun _ => .ite (fun _ => ?_) fun _ => .bind namedTarget_reads fun target htarget => ?_
  · exact .bind (h.expression n) fun e he => .pure (Expr.item_starred he.read).read
  · cases target with
    | some id =>
      exact .bind (h.expression n) fun e he => .pure (named_value (htarget id rfl) he.read).read
    | none =>
      refine .bind (h.expression n) fun first hfirst => .after fun _ => ?_
      exact .ite (fun _ => range_reads hbound (by simpa using hfirst.read)) fun _ => .pure hfirst.read

theorem subscriptIndex_reads (h : r.Sound) :
    Keeps (Within n) r.subscriptIndex (Expr.Read n) := by
  refine .bind ((sliceItem_reads h).commaList r.limit) fun items hitems => .after fun _ => ?_
  split
  · next e heq _ =>
    have he : e.Read n := hitems e (by rw [heq]; exact List.mem_cons_self)
    refine .pure ?_
    split
    · exact .apply trivial (List.forall_mem_singleton.mpr he)
    · exact he
  · exact .pure (.apply trivial hitems)

theorem trailer_reads (h : r.Sound) {e : Expr} (he : e.Read n) :
    Keeps (Within n) (r.trailer e) (Expr.Value n) := by
  refine .after fun _ => .ite (fun _ => ?_) fun _ => ?_
  · exact .after fun _ => .pure (Expr.value_single rfl trivial he)
  refine .after fun _ => .ite (fun _ => ?_) fun _ => ?_
  · exact .bind (arguments_read h) fun _ harguments => .pure (callOf_value he harguments)
  · exact .after fun _ => .bind (subscriptIndex_reads h) fun _ hindex =>
      .pure (Expr.value_pair rfl trivial he hindex)

theorem trailers_reads (h : r.Sound) {limit : Nat} {e : Expr} (he : e.Value n) :
    Keeps (Within n) (r.trailers limit e) (Expr.Value n) := by
  induction limit generalizing e with
  | zero => exact .pure he
  | succ limit ih =>
    unfold trailers
    refine .bind (trailer_reads h he.read).attempt fun found hfound => ?_
    cases found with
    | some longer => exact ih (hfound longer rfl)
    | none => exact .pure he

theorem primary_reads (h : r.Sound) : Keeps (Within n) r.primary (Expr.Value n) :=
  .bind (atom_reads h) fun _ hfirst => trailers_reads h hfirst

theorem power_reads (h : r.Sound) : Keeps (Within n) r.power (Expr.Value n) := by
  have hend : ∀ base : Expr, base.Value n → Keeps (Within n) (do
      if ← acceptOp "**" then
        let exponent ← r.factor
        return .apply (.binary .power) [base, exponent]
      else return base) (Expr.Value n) := by
    intro base hbase
    refine .after fun _ => .ite (fun _ => ?_) fun _ => .pure hbase
    exact .bind (h.factor n) fun exponent hexponent =>
      .pure (Expr.value_pair rfl trivial hbase.read hexponent.read)
  refine .after fun _ => .ite (fun _ => ?_) fun _ => ?_
  · exact .bind (primary_reads h) fun e he =>
      .bind (.pure (Expr.value_single rfl trivial he.read)) hend
  · exact .bind (primary_reads h) hend

/-! ### The rules that come back to themselves -/

theorem factorRule_reads (h : r.Sound) : Keeps (Within n) r.factorRule (Expr.Value n) := by
  have hsign : ∀ op : UnaryOp, Keeps (Within n) (do
      return Expr.apply (.unary op) [← r.factor]) (Expr.Value n) := fun op =>
    .bind (h.factor n) fun e he => .pure (Expr.value_single rfl trivial he.read)
  refine .after fun _ => .ite (fun _ => hsign _) fun _ => ?_
  refine .after fun _ => .ite (fun _ => hsign _) fun _ => ?_
  exact .after fun _ => .ite (fun _ => hsign _) fun _ => power_reads h

theorem inversionRule_reads (h : r.Sound) : Keeps (Within n) r.inversionRule (Expr.Value n) := by
  refine .after fun _ => .ite (fun _ => ?_) fun _ => comparison_reads h
  exact .bind (h.inversion n) fun e he => .pure (Expr.value_single rfl trivial he.read)

/-- The default values among the parameters so far are well-formed. -/
def ParameterState.Read (n : Nat) (s : ParameterState) : Prop :=
  (∀ e ∈ s.defaults, e.Read n) ∧ ∀ e ∈ s.keywordDefaults, e.Read n

theorem parameter_reads (h : r.Sound) {annotated : Bool} {s : ParameterState}
    (hs : ParameterState.Read n s) :
    Keeps (Within n) (r.parameter annotated s) (ParameterState.Read n) := by
  -- annotations of parameters are read and forgotten
  have htype : ∀ starred : Bool, Keeps (Within n) (do
      if annotated then
        if ← acceptOp ":" then
          if starred then let _ ← acceptOp "*"
          let _ ← r.expression : Parser Unit) fun _ => True := by
    intro starred
    refine .ite (fun _ => .after fun _ => .ite (fun _ => ?_) fun _ => .pure trivial)
      fun _ => .pure trivial
    have hend : Keeps (Within n) (do let _ ← r.expression : Parser Unit) fun _ => True :=
      .bind (h.expression n) fun _ _ => .pure trivial
    exact .ite (fun _ => .after fun _ => hend) fun _ => hend
  have hdefault : Keeps (Within n) (do
      if ← acceptOp "=" then return some (← r.expression) else return none)
      fun found => ∀ e ∈ found.toList, e.Read n := by
    refine .after fun _ => .ite (fun _ => ?_) fun _ => .pure (by simp)
    exact .bind (h.expression n) fun e he => .pure (by simpa using he.read)
  refine .require fun _ => .after fun _ => .ite (fun _ => .require fun _ => .pure hs) fun _ => ?_
  refine .after fun _ => .ite (fun _ => .require fun _ => .after fun id => ?_) fun _ => ?_
  · cases id with
    | some id => exact .bind (htype true) fun _ _ => .pure hs
    | none => exact .pure hs
  refine .after fun _ => .ite (fun _ => .require fun _ => .after fun id => ?_) fun _ => ?_
  · exact .bind (htype false) fun _ _ => .pure hs
  refine .after fun id => .bind (htype false) fun _ _ => .bind hdefault fun value hvalue => ?_
  refine .ite (fun _ => .pure ⟨hs.1, fun e he => ?_⟩) fun _ => .require fun _ =>
    .pure ⟨fun e he => ?_, hs.2⟩
  · exact (List.mem_append.mp he).elim (hs.2 e) (hvalue e)
  · exact (List.mem_append.mp he).elim (hs.1 e) (hvalue e)

theorem parameters_read (h : r.Sound) {annotated : Bool} {stop : String} :
    Keeps (Within n) (r.parameters annotated stop) fun found => ∀ e ∈ found.2, e.Read n := by
  have hfrom : ∀ (limit : Nat) (s : ParameterState), ParameterState.Read n s →
      Keeps (Within n) (r.parametersFrom annotated stop limit s) (ParameterState.Read n) := by
    intro limit
    induction limit with
    | zero => exact fun s hs => .refuse
    | succ limit ih =>
      intro s hs
      refine .after fun _ => .ite (fun _ => .require fun _ => .pure hs) fun _ => ?_
      refine .bind (parameter_reads h hs) fun later hlater => .after fun _ => ?_
      refine .ite (fun _ => ?_) fun _ => .after fun _ => .require fun _ => .pure hlater
      exact .after fun _ => .require fun _ => ih later hlater
  refine .bind (hfrom _ {} ⟨by simp, by simp⟩) fun s hs => .pure fun e he => ?_
  exact (List.mem_append.mp he).elim (hs.2 e) (hs.1 e)

theorem lambdaExpression_reads (h : r.Sound) :
    Keeps (Within n) r.lambdaExpression (Expr.Value n) := by
  refine .after fun _ => .bind (parameters_read h) fun params hparams => .after fun _ => ?_
  refine .bind (h.expression n) fun body hbody => .pure ⟨.apply ?_ fun e he => ?_, trivial⟩
  · simp [Form.Takes]
  · rcases List.mem_append.mp he with he | he
    · exact hparams e he
    · rw [List.mem_singleton.mp he]
      exact hbody.read

instance (start : Token) (first : Expr) : Steady (Within n) (r.forgottenComma start first) := by
  refine ⟨.after fun _ => .ite (fun _ => ?_) fun _ => .pure trivial⟩
  refine .after fun token => ?_
  dsimp only
  refine .ite (fun _ => ?_) fun _ => .pure trivial
  exact .after fun _ => .ite (fun _ => .ite (fun _ => .complain) fun _ => .pure trivial) fun _ => .pure trivial

theorem expressionRule_reads (h : r.Sound) :
    Keeps (Within n) r.expressionRule (Expr.Value n) := by
  refine .after fun _ => .ite (fun _ => lambdaExpression_reads h) fun _ => ?_
  refine .after fun start => .bind (disjunction_reads h) fun value hvalue => ?_
  refine .after fun _ => .after fun _ => .ite (fun _ => ?_) fun _ => .pure hvalue
  refine .bind (disjunction_reads h) fun condition hcondition => ?_
  -- whatever is complained of on the way, a conditional comes out
  have hend : Keeps (Within n) (do
      word "else"
      let other ← r.expression
      return .apply .conditional [condition, value, other]) (Expr.Value n) :=
    .after fun _ => .bind (h.expression n) fun other hother =>
      .pure ⟨.apply rfl (by simp [hcondition.read, hvalue.read, hother.read]), trivial⟩
  refine .after fun _ => .ite (fun _ => ?_) fun _ => hend
  refine .after fun _ => .ite (fun _ => ?_) fun _ => hend
  exact .after fun _ => .ite (fun _ => .after fun _ => hend) fun _ => hend

/-- By induction on the depth: each level reads with the rules of the one below. -/
theorem atDepth_sound (limit depth : Nat) : (atDepth limit depth).Sound := by
  induction depth with
  | zero => exact ⟨fun _ => .refuse, fun _ => .refuse, fun _ => .refuse⟩
  | succ depth ih =>
    exact ⟨fun _ => expressionRule_reads ih, fun _ => inversionRule_reads ih,
      fun _ => factorRule_reads ih⟩

theorem soleExpression_reads (h : r.Sound) :
    Keeps (Within n) r.soleExpression (Expr.Value n) := by
  refine .bind ((h.expression n).commaList r.limit) fun items hitems => ?_
  refine .after fun _ => .after fun _ =>
    .pure (tupleOf_value (fun e he => (hitems e he).read) fun e hone _ => ?_)
  exact (hitems e (by rw [hone]; exact List.mem_cons_self)).isValue

end Rules

/-- **What a text spells is well-formed, stands alone, and has in it only texts that are shorter
    than it.** -/
theorem parseExpression_value {source : List Char} {e : Expr}
    (h : parseExpression source = .ok e) : e.Value source.length := by
  unfold parseExpression parseWith at h
  dsimp only at h
  split at h
  · next found hrun =>
    cases h
    refine (Rules.soleExpression_reads (Rules.atDepth_sound _ _)).run ?_ hrun
    exact (weightOf_tokenize_le 1 _).trans (length_unifyLineEnds_le source)
  · cases h

end Grammar

end Waymark

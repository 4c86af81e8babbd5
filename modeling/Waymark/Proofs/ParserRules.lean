import Waymark.Proofs.TextLiterals

/-! # Rules for parsers

    What holds of all that a parser accepts is found by going through the parser.

    * `Keeps I p P`: from tokens with the property `I`, all that `p` accepts has the property `P`,
      and what is left of the tokens has `I` again. There is a rule for each way of putting parsers
      together.
    * `Yields p P` is the case in which nothing is asked of the tokens.
    * `Steady I p`: `p` keeps `I`, whatever it accepts. What is read on the way and not used needs no
      more than that, and for the parsers of single tokens it is found by their instances.
    * `Within n`: the text literals among the tokens weigh at most `n`. Reading takes tokens away,
      so it stays.
-/

namespace Waymark

namespace Grammar

namespace Parser

variable {α β : Type} {I : List Token → Prop} {P : α → Prop} {Q : β → Prop} {p : Parser α}

theorem bind_eq_accepted {f : α → Parser β} {input next : Input} {b : β}
    (h : (p >>= f) input = .accepted b next) :
    ∃ a seen, p input = .accepted a seen ∧ f a seen = .accepted b next := by
  change Parser.bind p f input = _ at h
  unfold Parser.bind at h
  split at h
  · next a seen ha => exact ⟨a, seen, ha, h⟩
  · cases h
  · cases h

/-- From tokens with the property `I`, what the parser accepts has the property `P`, and what is
    left of the tokens has `I` again. -/
def Keeps (I : List Token → Prop) (p : Parser α) (P : α → Prop) : Prop :=
  ∀ input a next, I input.rest → p input = .accepted a next → I next.rest ∧ P a

/-- Whatever the parser accepts, what is left of the tokens has the property again. -/
class Steady (I : List Token → Prop) (p : Parser α) : Prop where
  keeps : Keeps I p fun _ => True

namespace Keeps

theorem pure {a : α} (h : P a) : Keeps I (Pure.pure a) P := by
  intro input b next hI hb
  cases hb
  exact ⟨hI, h⟩

theorem refuse : Keeps I (Parser.refuse : Parser α) P := by
  intro input a next _ ha
  cases ha

theorem complain {line : Nat} {shown : Option String} :
    Keeps I (Parser.complain line shown : Parser α) P := by
  intro input a next _ ha
  cases ha

theorem complainHere : Keeps I (Parser.complainHere : Parser α) P := by
  intro input a next _ ha
  cases ha

theorem imp {P' : α → Prop} (hp : Keeps I p P) (h : ∀ a, P a → P' a) : Keeps I p P' :=
  fun input a next hI ha => ⟨(hp input a next hI ha).1, h a (hp input a next hI ha).2⟩

/-- What is read first has a property, and with it what is read then has the other. -/
theorem bind {f : α → Parser β} (hp : Keeps I p P) (hf : ∀ a, P a → Keeps I (f a) Q) :
    Keeps I (p >>= f) Q := by
  intro input b next hI h
  obtain ⟨a, seen, ha, h⟩ := bind_eq_accepted h
  obtain ⟨hseen, hP⟩ := hp input a seen hI ha
  exact hf a hP seen b next hseen h

/-- The same where nothing need be known of what is read first. -/
theorem after {f : α → Parser β} [Steady I p] (hf : ∀ a, Keeps I (f a) Q) : Keeps I (p >>= f) Q :=
  bind Steady.keeps fun a _ => hf a

theorem attempt (hp : Keeps I p P) : Keeps I (attempt p) (fun found => ∀ a ∈ found, P a) := by
  intro input found next hI h
  unfold Parser.attempt at h
  cases hp' : p input with
  | accepted b rest =>
    rw [hp'] at h
    obtain ⟨hrest, hb⟩ := hp input b rest hI hp'
    cases h
    refine ⟨hrest, fun a ha => ?_⟩
    cases ha
    exact hb
  | refused reach =>
    rw [hp'] at h
    cases h
    exact ⟨hI, by simp⟩
  | complained c => rw [hp'] at h; cases h

theorem afterSeparators {separator : Parser Bool} [Steady I separator] (hp : Keeps I p P)
    (limit : Nat) : Keeps I (afterSeparators separator p limit) (fun found => ∀ a ∈ found.1, P a) := by
  induction limit with
  | zero => exact .pure (by simp)
  | succ limit ih =>
    unfold Parser.afterSeparators
    refine .after fun more => ?_
    split
    · refine .bind hp.attempt fun found hfound => ?_
      split
      · exact .pure (by simp)
      · next a =>
        exact .bind ih fun later hlater =>
          .pure (List.forall_mem_cons.mpr ⟨hfound a rfl, hlater⟩)
    · exact .pure (by simp)

theorem commaList [Steady I (acceptOp ",")] (hp : Keeps I p P) (limit : Nat) :
    Keeps I (commaList limit p) (fun found => ∀ a ∈ found.1, P a) :=
  .bind hp fun _ hfirst => .bind (hp.afterSeparators limit) fun _ hlater =>
    .pure (List.forall_mem_cons.mpr ⟨hfirst, hlater⟩)

theorem many (hp : Keeps I p P) (limit : Nat) :
    Keeps I (many p limit) (fun found => ∀ a ∈ found, P a) := by
  induction limit with
  | zero => exact .pure (by simp)
  | succ limit ih =>
    unfold Parser.many
    refine .bind hp.attempt fun found hfound => ?_
    split
    · exact .pure (by simp)
    · next a =>
      exact .bind ih fun later hlater =>
        .pure (List.forall_mem_cons.mpr ⟨hfound a rfl, hlater⟩)

theorem ite {condition : Prop} [Decidable condition] {q : Parser α}
    (hp : condition → Keeps I p P) (hq : ¬condition → Keeps I q P) :
    Keeps I (if condition then p else q) P := by
  split
  · exact hp ‹_›
  · exact hq ‹_›

/-- What follows a requirement may use it. -/
theorem require {condition : Bool} {f : Unit → Parser β}
    (hf : condition = true → Keeps I (f ()) Q) : Keeps I (Parser.require condition >>= f) Q := by
  cases condition with
  | true => exact .bind (P := fun _ => True) (.pure trivial) fun _ _ => hf rfl
  | false => exact .bind (P := fun _ => False) .refuse fun _ h => h.elim

end Keeps

/-! ## Nothing asked of the tokens -/

/-- Nothing is asked of the tokens. -/
def Anything (_ : List Token) : Prop :=
  True

instance (p : Parser α) : Steady Anything p :=
  ⟨fun _ _ _ _ _ => ⟨trivial, trivial⟩⟩

/-- All that the parser accepts has the property. -/
abbrev Yields (p : Parser α) (P : α → Prop) : Prop :=
  Keeps Anything p P

/-- What a parse answers with is what its parser accepts. -/
theorem Keeps.run (hp : Keeps I p P) {tokens : List Token} (hI : I tokens) {a : α}
    (h : p.run tokens = .ok a) : P a := by
  unfold Parser.run at h
  dsimp only at h
  split at h
  · next b next haccepted =>
    cases h
    exact (hp _ _ next hI haccepted).2
  · cases h
  · cases h

/-! ## Tokens are taken away -/

/-- The text literals among the tokens weigh at most that much. -/
def Within (n : Nat) (tokens : List Token) : Prop :=
  weightOf tokens ≤ n

variable {n : Nat}

instance (a : α) : Steady (Within n) (pure a) :=
  ⟨.pure trivial⟩

instance : Steady (Within n) (refuse : Parser α) :=
  ⟨.refuse⟩

instance (line : Nat) (shown : Option String) :
    Steady (Within n) (complain line shown : Parser α) :=
  ⟨.complain⟩

instance : Steady (Within n) (complainHere : Parser α) :=
  ⟨.complainHere⟩

instance (p : Parser α) (f : α → Parser β) [Steady (Within n) p] [∀ a, Steady (Within n) (f a)] :
    Steady (Within n) (p >>= f) :=
  ⟨.after fun _ => Steady.keeps⟩

instance (condition : Prop) [Decidable condition] (p q : Parser α) [Steady (Within n) p]
    [Steady (Within n) q] : Steady (Within n) (if condition then p else q) := by
  split
  · infer_instance
  · infer_instance

instance (p : Parser α) [Steady (Within n) p] : Steady (Within n) (attempt p) :=
  ⟨(Steady.keeps (p := p)).attempt.imp fun _ _ => trivial⟩

instance (p : Parser α) [Steady (Within n) p] (limit : Nat) : Steady (Within n) (many p limit) :=
  ⟨((Steady.keeps (p := p)).many limit).imp fun _ _ => trivial⟩

/-- Looking ahead takes nothing away, whatever is looked for. -/
instance (p : Parser α) : Steady (Within n) (follows p) := by
  refine ⟨fun input a next hI h => ⟨?_, trivial⟩⟩
  unfold follows at h
  split at h
  · cases h
    exact hI
  · cases h
    exact hI
  · cases h

instance : Steady (Within n) isDiagnosing :=
  ⟨fun _ _ _ hI h => by cases h; exact ⟨hI, trivial⟩⟩

instance : Steady (Within n) peek := by
  refine ⟨fun input a next hI h => ⟨?_, trivial⟩⟩
  unfold peek at h
  split at h
  · cases h
  · split at h
    · cases h
    · cases h
      exact hI

instance : Steady (Within n) advance := by
  refine ⟨fun input a next hI h => ⟨?_, trivial⟩⟩
  cases h
  unfold Within at hI ⊢
  cases htokens : input.rest with
  | nil => exact Nat.zero_le _
  | cons t rest =>
    rw [htokens, weightOf_cons] at hI
    simp only [List.drop_succ_cons, List.drop_zero]
    omega

instance (condition : Bool) : Steady (Within n) (require condition) := by
  unfold require; infer_instance

instance (condition : Token → Bool) : Steady (Within n) (satisfy condition) := by
  unfold satisfy; infer_instance

instance (k : TokenKind) : Steady (Within n) (kind k) := by
  unfold kind; infer_instance

instance (s : String) : Steady (Within n) (isOp s) := by
  unfold isOp; infer_instance

instance (s : String) : Steady (Within n) (op s) := by
  unfold op; infer_instance

instance (s : String) : Steady (Within n) (acceptOp s) := by
  unfold acceptOp; infer_instance

instance (s : String) : Steady (Within n) (isWord s) := by
  unfold isWord; infer_instance

instance (s : String) : Steady (Within n) (word s) := by
  unfold word; infer_instance

instance (s : String) : Steady (Within n) (acceptWord s) := by
  unfold acceptWord; infer_instance

/-- A name is an identifier. -/
theorem name_keeps [Steady I (satisfy isName)] :
    Keeps I name (fun id => Text.isIdentifier id = true) :=
  .after fun _ => .require fun h => .pure h

instance : Steady (Within n) name :=
  ⟨name_keeps.imp fun _ _ => trivial⟩

/-! ## Tokens of one kind -/

theorem peek_eq_accepted {input next : Input} {t : Token} (h : peek input = .accepted t next) :
    ∃ rest, input.rest = t :: rest ∧ next.rest = t :: rest := by
  unfold peek at h
  split at h
  · cases h
  · next token rest hrest =>
    split at h
    · cases h
    · cases h
      exact ⟨rest, hrest, hrest⟩

theorem require_eq_accepted {condition : Bool} {input next : Input} {u : Unit}
    (h : require condition input = .accepted u next) : condition = true ∧ next = input := by
  cases condition with
  | true =>
    cases h
    exact ⟨rfl, rfl⟩
  | false => cases h

theorem kind_eq_accepted {k : TokenKind} {input next : Input} {t : Token}
    (h : kind k input = .accepted t next) : input.rest = t :: next.rest ∧ t.kind = k := by
  unfold kind satisfy at h
  obtain ⟨token, seen, hpeek, hafter⟩ := bind_eq_accepted h
  obtain ⟨rest, hrest, hseen⟩ := peek_eq_accepted hpeek
  obtain ⟨_, required, hrequire, hread⟩ := bind_eq_accepted hafter
  obtain ⟨hkind, rfl⟩ := require_eq_accepted hrequire
  cases hread
  rw [hrest, hseen]
  exact ⟨rfl, by simpa using hkind⟩

/-- Reading tokens of a kind takes just these away. -/
theorem many_kind_eq_accepted {k : TokenKind} {limit : Nat} {input next : Input}
    {found : List Token} (h : many (kind k) limit input = .accepted found next) :
    input.rest = found ++ next.rest ∧ ∀ t ∈ found, t.kind = k := by
  induction limit generalizing input found with
  | zero =>
    cases h
    exact ⟨rfl, by simp⟩
  | succ limit ih =>
    obtain ⟨first, seen, hfirst, h⟩ := bind_eq_accepted h
    unfold attempt at hfirst
    split at hfirst
    · next t after haccepted =>
      -- one token was read, and the others come after it
      cases hfirst
      obtain ⟨later, final, hlater, h⟩ := bind_eq_accepted h
      cases h
      obtain ⟨hrest, hkind⟩ := kind_eq_accepted haccepted
      obtain ⟨hlaterRest, hkinds⟩ := ih hlater
      rw [hrest, hlaterRest]
      exact ⟨rfl, List.forall_mem_cons.mpr ⟨hkind, hkinds⟩⟩
    · cases hfirst
      cases h
      exact ⟨rfl, by simp⟩
    · cases hfirst

end Parser

end Grammar

end Waymark

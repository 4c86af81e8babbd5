import Waymark.Proofs.Provenance

/-! # When the arguments of a capability fill its contract

    A capability extends a contract if its only supertype is one (`Capability.Extends`), and the
    type arguments of that supertype fill the contract if there is one for each slot, each of
    them is sound, and the first of them is the endpoint around the capability
    (`Capability.Fills`).

    * A capability resolves exactly if it extends a contract that its arguments fill
      (`Capability.exists_resolve_eq_ok_iff`), and the operation has the texts of the arguments
      by the positions of their slots (`Operation.MadeOf`).
    * Otherwise there is one reason against it (`Capability.resolve_eq_error_iff`). Where
      several things are wrong, the supertypes come first (`Capability.Unfit`), then the slots in
      order, then the arguments that are left over, then the endpoint (`Capability.Misfilled`).

    The main result is `resolveAfter_exact`. It says of any capability, endpoint and scope what
    is answered and what is reported, and which slot is to blame (`Capability.Blame`).
-/

namespace Waymark

/-! ## Arguments -/

/-- Nothing is wrong with the argument: it has no problem that is said in words, and its names
    are known. -/
structure TypeArgument.Sound (scope : Scope) (argument : TypeArgument) : Prop where
  noProblem : ∀ problem, argument.problem = some problem → problem = ""
  known : ∀ name ∈ argument.names, scope.Knows name

/-- A scope has nothing against an argument exactly if the argument is sound. -/
theorem TypeArgument.fault_eq_none_iff {scope : Scope} {argument : TypeArgument} :
    argument.fault scope = none ↔ argument.Sound scope := by
  have hnames : argument.names.findSome? scope.nameFault = none ↔
      ∀ name ∈ argument.names, scope.Knows name := by
    rw [List.findSome?_eq_none_iff]
    exact forall₂_congr fun name _ => Scope.nameFault_eq_none_iff
  unfold fault
  cases hproblem : argument.problem with
  | none =>
    rw [hnames]
    constructor
    · intro hknown
      exact ⟨fun problem h => by simp [hproblem] at h, hknown⟩
    · exact fun hsound => hsound.known
  | some problem =>
    -- an empty problem counts as none
    by_cases hempty : problem = ""
    · simp only [hempty, if_true, hnames]
      constructor
      · intro hknown
        refine ⟨fun other hother => ?_, hknown⟩
        rw [hproblem] at hother
        exact (Option.some.inj hother).symm.trans hempty
      · exact fun hsound => hsound.known
    · simp only [hempty, if_false, reduceCtorEq, false_iff]
      exact fun hsound => hempty (hsound.noProblem problem hproblem)

/-- There is a sound argument at the position. -/
def Filled (scope : Scope) (arguments : List TypeArgument) (index : Nat) : Prop :=
  ∃ argument, arguments[index]? = some argument ∧ argument.Sound scope

/-! ## Contracts -/

/-- A qualified name is that of a contract, or of none. -/
theorem Verb.ofContract?_eq_some_iff {qualified : String} {v : Verb} :
    Verb.ofContract? qualified = some v ↔ qualified = v.contractName := by
  constructor
  · intro h
    have hname := List.find?_some h
    exact (of_decide_eq_true hname).symm
  · rintro rfl
    exact Verb.ofContract?_contractName v

namespace Capability

variable {scope : Scope} {node : Endpoint} {cap : Capability} {verb : Verb}
  {arguments : List TypeArgument}

/-- The only supertype of the capability is the contract, with the type arguments. -/
inductive Extends (cap : Capability) : Verb → List TypeArgument → Prop where
  | intro {base : Supertype} {verb : Verb} (only : cap.supertypes = [base])
      (target : base.target = some verb.contractName) : Extends cap verb (base.arguments.getD [])

/-- A target that is missing denotes no contract. -/
theorem ofContract?_getD_iff {target : Option String} :
    Verb.ofContract? (target.getD "") = some verb ↔ target = some verb.contractName := by
  rw [Verb.ofContract?_eq_some_iff]
  cases target with
  | none =>
    have hne : verb.contractName ≠ "" := by cases verb <;> decide
    simp [hne.symm]
  | some qualified => simp

theorem contract_eq_ok_iff : cap.contract = .ok (verb, arguments) ↔ cap.Extends verb arguments := by
  constructor
  · intro h
    unfold contract at h
    split at h
    · cases h
    · next base honly =>
      split at h
      · cases h
      · next found hfound =>
        cases h
        exact .intro honly (ofContract?_getD_iff.mp hfound)
    · cases h
  · rintro ⟨honly, htarget⟩
    unfold contract
    rw [honly]
    simp only [ofContract?_getD_iff.mpr htarget]

/-- A capability extends one contract at most. -/
theorem Extends.unique {verb' : Verb} {arguments' : List TypeArgument}
    (h : cap.Extends verb arguments) (h' : cap.Extends verb' arguments') :
    verb = verb' ∧ arguments = arguments' := by
  have hsame := (contract_eq_ok_iff.mpr h).symm.trans (contract_eq_ok_iff.mpr h')
  cases hsame
  exact ⟨rfl, rfl⟩

/-- The arguments fill the contract: one sound argument for each slot, of which the first is the
    endpoint. -/
structure Fills (scope : Scope) (node : Endpoint) (verb : Verb) (arguments : List TypeArgument) :
    Prop where
  count : arguments.length = verb.arity
  sound : ∀ argument ∈ arguments, argument.Sound scope
  owner : arguments.head?.map TypeArgument.source = some node.qualname

/-! ### Supertypes that are no contract -/

/-- What is wrong with the supertypes of a capability that extends no contract. -/
inductive Unfit (cap : Capability) : Rejection → Prop where
  | noSupertype (none : cap.supertypes = []) : Unfit cap .noSupertype
  | severalSupertypes (several : 1 < cap.supertypes.length) :
    Unfit cap (.severalSupertypes (cap.supertypes.map Supertype.display))
  | unknownSupertype {base : Supertype} (only : cap.supertypes = [base])
    (unknown : ∀ verb : Verb, base.target ≠ some verb.contractName) :
    Unfit cap (.unknownSupertype base.display)

theorem ofContract?_getD_eq_none_iff {target : Option String} :
    Verb.ofContract? (target.getD "") = none ↔ ∀ verb : Verb, target ≠ some verb.contractName := by
  rw [Option.eq_none_iff_forall_ne_some]
  exact forall_congr' fun verb => not_congr ofContract?_getD_iff

theorem contract_eq_error_iff {r : Rejection} : cap.contract = .error r ↔ cap.Unfit r := by
  unfold contract
  constructor
  · intro h
    split at h
    · next hnone =>
      cases h
      exact .noSupertype hnone
    · next base honly =>
      split at h
      · next hunknown =>
        cases h
        exact .unknownSupertype honly (ofContract?_getD_eq_none_iff.mp hunknown)
      · cases h
    · next hnil hsingle =>
      cases h
      refine .severalSupertypes ?_
      -- neither none nor one
      match cap.supertypes, hnil, hsingle with
      | [], hnil, _ => exact absurd rfl hnil
      | [base], _, hsingle => exact absurd rfl (hsingle base)
      | _ :: _ :: _, _, _ => simp
  · rintro (hnone | hseveral | ⟨honly, hunknown⟩)
    · rw [hnone]
    · split
      · next hnone => simp [hnone] at hseveral
      · next base honly => simp [honly] at hseveral
      · rfl
    · rw [honly]
      simp only [ofContract?_getD_eq_none_iff.mpr hunknown]

/-- Either a capability extends a contract or something is wrong with its supertypes. -/
theorem exists_extends_or_unfit (cap : Capability) :
    (∃ verb arguments, cap.Extends verb arguments) ∨ ∃ r, cap.Unfit r := by
  cases h : cap.contract with
  | error r => exact .inr ⟨r, contract_eq_error_iff.mp h⟩
  | ok given => exact .inl ⟨given.1, given.2, contract_eq_ok_iff.mp h⟩

theorem Unfit.not_extends {r : Rejection} (h : cap.Unfit r) : ¬ cap.Extends verb arguments := by
  intro hextends
  have herror := contract_eq_error_iff.mpr h
  rw [contract_eq_ok_iff.mpr hextends] at herror
  cases herror

/-! ### Arguments that do not fill the contract -/

/-- What is wrong with the arguments of a capability that extends a contract. -/
inductive Misfilled (scope : Scope) (node : Endpoint) (verb : Verb)
    (arguments : List TypeArgument) : Rejection → Prop where
  | missing {index : Nat} {slot : Slot} (at_slot : verb.slots[index]? = some slot)
    (before : ∀ i < index, Filled scope arguments i) (missing : arguments[index]? = none) :
    Misfilled scope node verb arguments (.missingArgument verb index slot)
  | faulty {index : Nat} {slot : Slot} {argument : TypeArgument} {fault : ArgumentFault}
    (at_slot : verb.slots[index]? = some slot) (before : ∀ i < index, Filled scope arguments i)
    (given : arguments[index]? = some argument) (faulty : argument.fault scope = some fault) :
    Misfilled scope node verb arguments (.faultyArgument index slot fault)
  | surplus (filled : ∀ i < verb.arity, Filled scope arguments i)
    (more : verb.arity < arguments.length) :
    Misfilled scope node verb arguments (.surplusArgument verb)
  | foreign {first : TypeArgument} (filled : ∀ i < verb.arity, Filled scope arguments i)
    (count : arguments.length = verb.arity) (head : arguments.head? = some first)
    (other : first.source ≠ node.qualname) :
    Misfilled scope node verb arguments (.foreignNode first.source node.qualname)

theorem slotFault_of_missing {slot : Slot} {index : Nat} (h : arguments[index]? = none) :
    slotFault scope verb arguments (slot, index) = some (.missingArgument verb index slot) := by
  simp only [slotFault, h]

theorem slotFault_of_given {slot : Slot} {index : Nat} {argument : TypeArgument}
    (h : arguments[index]? = some argument) :
    slotFault scope verb arguments (slot, index)
      = (argument.fault scope).map (.faultyArgument index slot ·) := by
  simp only [slotFault, h]

/-- Nothing is wrong at a slot exactly if it is filled. -/
theorem slotFault_eq_none_iff {slot : Slot} {index : Nat} :
    slotFault scope verb arguments (slot, index) = none ↔ Filled scope arguments index := by
  unfold Filled
  cases hargument : arguments[index]? with
  | none => simp [slotFault_of_missing hargument]
  | some argument => simp [slotFault_of_given hargument, TypeArgument.fault_eq_none_iff]

theorem findSome?_slotFault_eq_none_iff :
    verb.slots.zipIdx.findSome? (slotFault scope verb arguments) = none ↔
      ∀ i < verb.arity, Filled scope arguments i := by
  rw [List.findSome?_eq_none_iff]
  constructor
  · intro h i hi
    have hmem : (verb.slots[i], i) ∈ verb.slots.zipIdx :=
      List.mem_zipIdx_iff_getElem?.mpr (List.getElem?_eq_getElem hi)
    exact slotFault_eq_none_iff.mp (h _ hmem)
  · rintro h ⟨slot, i⟩ hmem
    have hslot := List.mem_zipIdx_iff_getElem?.mp hmem
    exact slotFault_eq_none_iff.mpr (h i (List.getElem?_eq_some_iff.mp hslot).1)

/-- The first slot at which something is wrong. -/
theorem findSome?_slotFault_eq_some_iff {r : Rejection} :
    verb.slots.zipIdx.findSome? (slotFault scope verb arguments) = some r ↔
      ∃ index slot, verb.slots[index]? = some slot ∧
        (∀ i < index, Filled scope arguments i) ∧
        slotFault scope verb arguments (slot, index) = some r := by
  -- the position of an entry is that of its slot
  have hpositions : ∀ i : Nat, verb.slots.zipIdx[i]? = verb.slots[i]?.map fun slot => (slot, i) := by
    intro i
    rw [List.getElem?_zipIdx, Nat.zero_add]
  rw [List.findSome?_eq_some_iff]
  constructor
  · rintro ⟨before, ⟨slot, index⟩, after, hsplit, hfault, hbefore⟩
    have hat : verb.slots.zipIdx[before.length]? = some (slot, index) := by simp [hsplit]
    rw [hpositions] at hat
    obtain ⟨found, hslot, heq⟩ := Option.map_eq_some_iff.mp hat
    cases heq
    refine ⟨before.length, slot, hslot, fun i hi => ?_, hfault⟩
    have hlt : i < verb.slots.length := by
      have hbound := (List.getElem?_eq_some_iff.mp hslot).1
      omega
    have hmem : (verb.slots[i], i) ∈ before := by
      have hfront : (before ++ (slot, before.length) :: after)[i]? = before[i]? :=
        List.getElem?_append_left hi
      refine List.mem_of_getElem? (i := i) ?_
      rw [← hfront, ← hsplit, hpositions, List.getElem?_eq_getElem hlt]
      rfl
    exact slotFault_eq_none_iff.mp (hbefore _ hmem)
  · rintro ⟨index, slot, hslot, hbefore, hfault⟩
    have hat : verb.slots.zipIdx[index]? = some (slot, index) := by
      rw [hpositions, hslot]
      rfl
    obtain ⟨hlt, hget⟩ := List.getElem?_eq_some_iff.mp hat
    refine ⟨verb.slots.zipIdx.take index, (slot, index), verb.slots.zipIdx.drop (index + 1), ?_,
      hfault, ?_⟩
    · rw [← hget, List.cons_getElem_drop_succ, List.take_append_drop]
    · rintro ⟨other, i⟩ hmem
      obtain ⟨j, hj, hother⟩ := List.mem_take_iff_getElem.mp hmem
      have hother' := List.getElem?_eq_some_iff.mpr ⟨by omega, hother⟩
      rw [hpositions] at hother'
      obtain ⟨found, -, heq⟩ := Option.map_eq_some_iff.mp hother'
      obtain rfl : j = i := congrArg Prod.snd heq
      exact slotFault_eq_none_iff.mpr (hbefore j (by omega))

/-- With a contract at hand, the slots are looked at in order, then the number of the arguments,
    then the first of them. -/
theorem resolve_of_extends (h : cap.Extends verb arguments) :
    cap.resolve scope node =
      match verb.slots.zipIdx.findSome? (slotFault scope verb arguments) with
      | some r => .error r
      | none =>
        if arguments.length > verb.arity then .error (.surplusArgument verb)
        else
          let op := cap.operation node verb arguments
          if op.requestType ≠ node.qualname then
            .error (.foreignNode op.requestType node.qualname)
          else .ok op := by
  unfold resolve
  rw [contract_eq_ok_iff.mpr h]
  rfl

/-- Where every slot is filled and nothing is left over, there are as many arguments as slots. -/
theorem length_eq_of_filled (filled : ∀ i < verb.arity, Filled scope arguments i)
    (hlength : arguments.length ≤ verb.arity) : arguments.length = verb.arity := by
  by_contra hne
  obtain ⟨argument, hargument, -⟩ := filled arguments.length (by omega)
  simp at hargument

/-! ### What stands at the slots -/

end Capability

theorem Verb.nodup_slots (v : Verb) : v.slots.Nodup := by
  cases v <;> decide

/-- Of two lists side by side, what is beside a key that occurs once is what has its position. -/
theorem find?_zip_of_nodup {α β : Type} [BEq α] [LawfulBEq α] {keys : List α} (h : keys.Nodup)
    (values : List β) {index : Nat} {key : α} (hkey : keys[index]? = some key) :
    ((keys.zip values).find? fun (k, _) => k == key).map (fun (_, v) => v) = values[index]? := by
  induction keys generalizing values index with
  | nil => simp at hkey
  | cons first rest ih =>
    rw [List.nodup_cons] at h
    cases values with
    | nil => simp
    | cons value more =>
      cases index with
      | zero =>
        obtain rfl : first = key := by simpa using hkey
        simp
      | succ index =>
        have hrest : rest[index]? = some key := by simpa using hkey
        -- a later key is not the first one
        have hne : first ≠ key := by
          rintro rfl
          exact h.1 (List.mem_of_getElem? hrest)
        simpa [hne] using ih h.2 more hrest

/-- The type that an operation has for a slot. -/
def Operation.typeAt (op : Operation) : Slot → Option String
  | .node => some op.requestType
  | .param => op.paramType
  | .result => some op.resultType
  | .error => some op.errorType

/-- The operation is that of the capability, with the types and the names of the arguments. -/
structure Operation.MadeOf (cap : Capability) (node : Endpoint) (verb : Verb)
    (arguments : List TypeArgument) (op : Operation) : Prop where
  node : op.node = node.qualname
  capability : op.capability = cap.qualname
  ofVerb : op.verb = verb
  types : ∀ (index : Nat) (slot : Slot), verb.slots[index]? = some slot →
    op.typeAt slot = arguments[index]?.map TypeArgument.source
  noOther : ∀ slot ∉ verb.slots, op.typeAt slot = none
  ascending : op.names.Pairwise (· < ·)
  names : ∀ name, name ∈ op.names ↔ ∃ argument ∈ arguments, name ∈ argument.names

namespace Capability

variable {scope : Scope} {node : Endpoint} {cap : Capability} {verb : Verb}
  {arguments : List TypeArgument}

theorem sourceAt_eq {index : Nat} {slot : Slot} (hslot : verb.slots[index]? = some slot) :
    sourceAt verb arguments slot = arguments[index]?.map TypeArgument.source := by
  unfold sourceAt
  rw [← find?_zip_of_nodup verb.nodup_slots arguments hslot, Option.map_map]
  rfl

/-- Nothing stands at a slot that the contract does not have. -/
theorem sourceAt_eq_none {slot : Slot} (hslot : slot ∉ verb.slots) :
    sourceAt verb arguments slot = none := by
  unfold sourceAt
  rw [Option.map_eq_none_iff, List.find?_eq_none]
  rintro ⟨other, argument⟩ hmem heq
  obtain rfl : other = slot := by simpa using heq
  exact hslot (List.of_mem_zip hmem).1

/-- The text of the node argument is that of the first argument. -/
theorem operation_requestType :
    (cap.operation node verb arguments).requestType
      = (arguments.head?.map TypeArgument.source).getD "" := by
  have hslot : verb.slots[0]? = some .node := by cases verb <;> rfl
  show (sourceAt verb arguments .node).getD "" = _
  rw [sourceAt_eq hslot, List.head?_eq_getElem?]

/-- The operation of a capability with as many arguments as slots is made of them. -/
theorem operation_madeOf (hcount : arguments.length = verb.arity) :
    (cap.operation node verb arguments).MadeOf cap node verb arguments where
  node := rfl
  capability := rfl
  ofVerb := rfl
  types := by
    intro index slot hslot
    have hlt : index < arguments.length := by
      rw [hcount]
      exact (List.getElem?_eq_some_iff.mp hslot).1
    have hsource : sourceAt verb arguments slot = some arguments[index].source := by
      rw [sourceAt_eq hslot, List.getElem?_eq_getElem hlt]
      rfl
    rw [List.getElem?_eq_getElem hlt]
    cases slot <;> simp [Operation.typeAt, operation, hsource]
  -- a slot that the verb does not have stays empty
  noOther := by
    intro slot hslot
    cases slot with
    | param => exact sourceAt_eq_none hslot
    | node => cases verb <;> exact absurd (by decide) hslot
    | result => cases verb <;> exact absurd (by decide) hslot
    | error => cases verb <;> exact absurd (by decide) hslot
  ascending := Text.sortDistinct_sorted _
  names := by
    intro name
    show name ∈ Text.sortDistinct (arguments.flatMap TypeArgument.names) ↔ _
    rw [Text.mem_sortDistinct, List.mem_flatMap]

/-! ### Resolution -/

/-- The arguments fill a contract exactly if each slot is filled, nothing is left over and the
    first argument is the endpoint. -/
theorem fills_iff :
    Fills scope node verb arguments ↔
      (∀ i < verb.arity, Filled scope arguments i) ∧ arguments.length ≤ verb.arity ∧
        (cap.operation node verb arguments).requestType = node.qualname := by
  constructor
  · intro h
    refine ⟨fun i hi => ?_, Nat.le_of_eq h.count, ?_⟩
    · have hlt : i < arguments.length := h.count ▸ hi
      exact ⟨arguments[i], List.getElem?_eq_getElem hlt, h.sound _ (List.getElem_mem hlt)⟩
    · rw [operation_requestType, h.owner]
      rfl
  · rintro ⟨hfilled, hlength, howner⟩
    have hcount := length_eq_of_filled hfilled hlength
    refine ⟨hcount, fun argument hmem => ?_, ?_⟩
    · obtain ⟨i, hi⟩ := List.getElem?_of_mem hmem
      have hlt : i < verb.arity := hcount ▸ (List.getElem?_eq_some_iff.mp hi).1
      obtain ⟨found, hfound, hsound⟩ := hfilled i hlt
      rw [hi] at hfound
      cases hfound
      exact hsound
    -- there always is a first argument, which names the node
    · have hpos : 0 < verb.arity := by cases verb <;> decide
      obtain ⟨first, hfirst, -⟩ := hfilled 0 hpos
      rw [operation_requestType, List.head?_eq_getElem?, hfirst] at howner
      rw [List.head?_eq_getElem?, hfirst, ← howner]
      rfl

/-- **A capability resolves exactly if it extends a contract that its arguments fill.** -/
theorem exists_resolve_eq_ok_iff :
    (∃ op, cap.resolve scope node = .ok op) ↔
      ∃ verb arguments, cap.Extends verb arguments ∧ Fills scope node verb arguments := by
  constructor
  · rintro ⟨op, h⟩
    obtain ⟨verb, arguments, hcontract, hslots, hlength, howner, -⟩ := resolve_eq_ok_iff.mp h
    exact ⟨verb, arguments, contract_eq_ok_iff.mp hcontract,
      fills_iff.mpr ⟨findSome?_slotFault_eq_none_iff.mp hslots, hlength, howner⟩⟩
  · rintro ⟨verb, arguments, hextends, hfills⟩
    obtain ⟨hfilled, hlength, howner⟩ := (@fills_iff scope node cap verb arguments).mp hfills
    exact ⟨_, resolve_eq_ok_iff.mpr ⟨verb, arguments, contract_eq_ok_iff.mpr hextends,
      findSome?_slotFault_eq_none_iff.mpr hfilled, hlength, howner, rfl⟩⟩

/-- What a capability resolves to is made of its arguments. -/
theorem exists_madeOf {op : Operation} (h : cap.resolve scope node = .ok op) :
    ∃ verb arguments, cap.Extends verb arguments ∧ op.MadeOf cap node verb arguments := by
  obtain ⟨verb, arguments, hcontract, hslots, hlength, -, rfl⟩ := resolve_eq_ok_iff.mp h
  have hcount := length_eq_of_filled (findSome?_slotFault_eq_none_iff.mp hslots) hlength
  exact ⟨verb, arguments, contract_eq_ok_iff.mp hcontract, operation_madeOf hcount⟩

/-- A capability that extends a contract is refused exactly because of its arguments. -/
theorem resolve_eq_error_iff_misfilled (h : cap.Extends verb arguments) {r : Rejection} :
    cap.resolve scope node = .error r ↔ Misfilled scope node verb arguments r := by
  rw [resolve_of_extends h]
  constructor
  · intro herror
    -- the checks come in this order: each slot, then the number, then the node
    split at herror
    · next found hfound =>
      cases herror
      obtain ⟨index, slot, hslot, hbefore, hfault⟩ := findSome?_slotFault_eq_some_iff.mp hfound
      cases hargument : arguments[index]? with
      | none =>
        rw [slotFault_of_missing hargument] at hfault
        cases hfault
        exact .missing hslot hbefore hargument
      | some argument =>
        rw [slotFault_of_given hargument] at hfault
        obtain ⟨fault, hfaulty, rfl⟩ := Option.map_eq_some_iff.mp hfault
        exact .faulty hslot hbefore hargument hfaulty
    · next hnone =>
      have hfilled := findSome?_slotFault_eq_none_iff.mp hnone
      split at herror
      · next hmore =>
        cases herror
        exact .surplus hfilled hmore
      · next hlength =>
        have hcount := length_eq_of_filled hfilled (Nat.le_of_not_gt hlength)
        have hpos : 0 < verb.arity := by cases verb <;> decide
        obtain ⟨first, hfirst, -⟩ := hfilled 0 hpos
        rw [← List.head?_eq_getElem?] at hfirst
        simp only [operation_requestType, hfirst, Option.map_some, Option.getD_some] at herror
        split at herror
        · next hother =>
          cases herror
          exact .foreign hfilled hcount hfirst hother
        · cases herror
  · intro hmisfilled
    cases hmisfilled with
    | missing hslot hbefore hnone =>
      rw [findSome?_slotFault_eq_some_iff.mpr ⟨_, _, hslot, hbefore, slotFault_of_missing hnone⟩]
    | @faulty index slot argument fault hslot hbefore hgiven hfaulty =>
      have hfault : slotFault scope verb arguments (slot, index)
          = some (.faultyArgument index slot fault) := by
        rw [slotFault_of_given hgiven, hfaulty]
        rfl
      rw [findSome?_slotFault_eq_some_iff.mpr ⟨_, _, hslot, hbefore, hfault⟩]
    | surplus hfilled hmore =>
      rw [findSome?_slotFault_eq_none_iff.mpr hfilled]
      simp only [gt_iff_lt, hmore, if_true]
    | foreign hfilled hcount hhead hother =>
      rw [findSome?_slotFault_eq_none_iff.mpr hfilled]
      simp only [operation_requestType, hhead, Option.map_some, Option.getD_some, hcount, gt_iff_lt,
        Nat.lt_irrefl, if_false, ne_eq, hother, not_false_eq_true, if_true]

/-- The reason against a capability: its supertypes, or else its arguments. -/
inductive Refused (scope : Scope) (node : Endpoint) (cap : Capability) (r : Rejection) : Prop where
  | unfit (unfit : cap.Unfit r)
  | misfilled {verb : Verb} {arguments : List TypeArgument} (extend : cap.Extends verb arguments)
    (misfilled : Misfilled scope node verb arguments r)

theorem resolve_of_unfit {r : Rejection} (h : cap.Unfit r) : cap.resolve scope node = .error r := by
  unfold resolve
  rw [contract_eq_error_iff.mpr h]
  rfl

/-- **A capability is refused for one reason, and does not resolve exactly if there is one.** -/
theorem resolve_eq_error_iff {r : Rejection} :
    cap.resolve scope node = .error r ↔ cap.Refused scope node r := by
  constructor
  · intro h
    rcases exists_extends_or_unfit cap with ⟨verb, arguments, hextends⟩ | ⟨found, hunfit⟩
    · exact .misfilled hextends ((resolve_eq_error_iff_misfilled hextends).mp h)
    · rw [resolve_of_unfit hunfit] at h
      cases h
      exact .unfit hunfit
  · rintro (hunfit | ⟨hextends, hmisfilled⟩)
    · exact resolve_of_unfit hunfit
    · exact (resolve_eq_error_iff_misfilled hextends).mpr hmisfilled

/-! ### The report -/

/-- The slot to blame where the arguments do not fill the contract: the first slot without a
    sound argument; if there is none, the slot after the last where arguments are left over; and
    else the first slot, where the first argument is another endpoint. -/
inductive Blame (scope : Scope) (node : Endpoint) (verb : Verb) (arguments : List TypeArgument) :
    Nat → Prop where
  | unfilled {index : Nat} (lt : index < verb.arity) (before : ∀ i < index, Filled scope arguments i)
    (unfilled : ¬ Filled scope arguments index) : Blame scope node verb arguments index
  | surplus (filled : ∀ i < verb.arity, Filled scope arguments i)
    (more : verb.arity < arguments.length) : Blame scope node verb arguments verb.arity
  | foreign (filled : ∀ i < verb.arity, Filled scope arguments i)
    (count : arguments.length = verb.arity)
    (other : arguments.head?.map TypeArgument.source ≠ some node.qualname) :
    Blame scope node verb arguments 0

/-- Trouble with the supertypes is a matter of configuration and has no slot. -/
theorem Unfit.concern {r : Rejection} (h : cap.Unfit r) :
    r.concern = .configuration ∧ r.slot = none := by
  cases h <;> exact ⟨rfl, rfl⟩

/-- Trouble with the arguments is a matter of resolution and has the slot to blame. -/
theorem Misfilled.concern {r : Rejection} (h : Misfilled scope node verb arguments r) :
    r.concern = .resolution ∧ ∃ index, r.slot = some index ∧ Blame scope node verb arguments index := by
  -- whatever is wrong, the slot that is named is the one to blame
  cases h with
  | missing hslot hbefore hnone =>
    refine ⟨rfl, _, rfl, .unfilled (List.getElem?_eq_some_iff.mp hslot).1 hbefore ?_⟩
    rintro ⟨argument, hargument, -⟩
    rw [hnone] at hargument
    cases hargument
  | faulty hslot hbefore hgiven hfaulty =>
    refine ⟨rfl, _, rfl, .unfilled (List.getElem?_eq_some_iff.mp hslot).1 hbefore ?_⟩
    rintro ⟨argument, hargument, hsound⟩
    rw [hgiven] at hargument
    cases hargument
    rw [TypeArgument.fault_eq_none_iff.mpr hsound] at hfaulty
    cases hfaulty
  | surplus hfilled hmore => exact ⟨rfl, _, rfl, .surplus hfilled hmore⟩
  | foreign hfilled hcount hhead hother =>
    refine ⟨rfl, _, rfl, .foreign hfilled hcount ?_⟩
    rw [hhead]
    exact fun h => hother (Option.some.inj h)

/-- What is reported of a capability that does not resolve: one error at its place and line, about
    the configuration if it extends no contract, and else about the resolution and the slot to
    blame. -/
structure Refusal (scope : Scope) (node : Endpoint) (cap : Capability) (d : Diagnostic) : Prop where
  severity : d.severity = .error
  location : d.location = scope.module ++ ":" ++ cap.qualname
  line : d.line = some cap.line
  noContract : (∀ verb arguments, ¬ cap.Extends verb arguments) →
    d.concern = .configuration ∧ d.slot = none
  contract : ∀ verb arguments, cap.Extends verb arguments →
    d.concern = .resolution ∧
      ∃ index : Nat, d.slot = some (index : Int) ∧ Blame scope node verb arguments index
  message : ∃ r, cap.Refused scope node r ∧ d.message = r.message

theorem Refused.refusal {r : Rejection} (h : cap.Refused scope node r) :
    cap.Refusal scope node (cap.rejected scope r) where
  severity := rfl
  location := rfl
  line := rfl
  noContract := by
    intro hnone
    cases h with
    | unfit hunfit =>
      obtain ⟨hconcern, hslot⟩ := hunfit.concern
      exact ⟨hconcern, by simp [rejected, Diagnostic.error, hslot]⟩
    | misfilled hextends _ => exact absurd hextends (hnone _ _)
  contract := by
    intro verb arguments hextends
    cases h with
    | unfit hunfit => exact absurd hextends hunfit.not_extends
    | misfilled hextends' hmisfilled =>
      obtain ⟨rfl, rfl⟩ := hextends'.unique hextends
      obtain ⟨hconcern, index, hslot, hblame⟩ := hmisfilled.concern
      exact ⟨hconcern, index, by simp [rejected, Diagnostic.error, hslot], hblame⟩
  message := ⟨r, h, rfl⟩

/-- Resolves a capability in a run that has reported `earlier` already. -/
def resolveAfter (scope : Scope) (earlier : List Diagnostic) (node : Endpoint) (cap : Capability) :
    Report (Option Operation) := do
  Report.tell earlier
  cap.resolveReport scope node

/-- **Resolution is exact.** There is an operation exactly if the capability extends a contract
    that its arguments fill; it is made of them, and nothing is reported. Otherwise one error is
    reported, after all that was reported before. -/
theorem resolveAfter_exact (scope : Scope) (node : Endpoint) (cap : Capability)
    (earlier : List Diagnostic) :
    ((∃ op, (cap.resolveAfter scope earlier node).value = some op) ↔
      ∃ verb arguments, cap.Extends verb arguments ∧ Fills scope node verb arguments) ∧
    (∀ op, (cap.resolveAfter scope earlier node).value = some op →
      (cap.resolveAfter scope earlier node).diagnostics = earlier ∧
      ∃ verb arguments, cap.Extends verb arguments ∧ op.MadeOf cap node verb arguments) ∧
    ((cap.resolveAfter scope earlier node).value = none →
      ∃ d, (cap.resolveAfter scope earlier node).diagnostics = earlier ++ [d] ∧
        cap.Refusal scope node d) := by
  have hvalue : (cap.resolveAfter scope earlier node).value = (cap.resolve scope node).toOption :=
    resolveReport_value
  have hdiagnostics : (cap.resolveAfter scope earlier node).diagnostics
      = earlier ++ (cap.resolveReport scope node).diagnostics := rfl
  rw [hvalue, hdiagnostics, ← exists_resolve_eq_ok_iff]
  -- both answers are decided by what the capability resolves to on its own
  cases hresolve : cap.resolve scope node with
  | ok op =>
    rw [resolveReport_diagnostics_of_ok hresolve, List.append_nil]
    refine ⟨⟨fun _ => ⟨op, rfl⟩, fun _ => ⟨op, rfl⟩⟩, fun other hother => ?_, fun hnone => ?_⟩
    · cases hother
      exact ⟨rfl, exists_madeOf hresolve⟩
    · cases hnone
  | error r =>
    rw [resolveReport_diagnostics_of_error hresolve]
    refine ⟨⟨?_, ?_⟩, ?_, fun _ => ⟨_, rfl, (resolve_eq_error_iff.mp hresolve).refusal⟩⟩
    · rintro ⟨op, hop⟩
      cases hop
    · rintro ⟨op, hop⟩
      cases hop
    · intro op hop
      cases hop

end Capability

end Waymark

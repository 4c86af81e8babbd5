/-! # Contracts

    A capability is declared by extending one of two contracts, `GET` and `POST`. A
    contract has a list of slots, and the type arguments of the extended class fill
    them by position. The slot lists below are the only place that fixes the order.
-/

namespace Waymark

/-- The two things that can be done with a resource. -/
inductive Verb where
  | get
  | post
  deriving Repr, DecidableEq

/-- What a type argument of a contract stands for. -/
inductive Slot where
  | node
  | param
  | result
  | error
  deriving Repr, DecidableEq

/-- The word for a slot. -/
def Slot.word : Slot → String
  | .node => "node"
  | .param => "param"
  | .result => "result"
  | .error => "error"

namespace Verb

/-- The verb's name in capitals, which is also the name of its contract. -/
def name : Verb → String
  | .get => "GET"
  | .post => "POST"

/-- The name of the verb's method, in contracts and in clients. -/
def method : Verb → String
  | .get => "get"
  | .post => "post"

/-- The slots of the verb's contract, in the order of its type arguments. -/
def slots : Verb → List Slot
  | .get => [.node, .result, .error]
  | .post => [.node, .param, .result, .error]

/-- The number of type arguments the contract takes. -/
def arity (v : Verb) : Nat :=
  v.slots.length

/-- The qualified name of the contract class. -/
def contractName (v : Verb) : String :=
  "shapi.api.contracts." ++ v.name

/-- Both verbs. -/
def all : List Verb := [.get, .post]

/-- The verb whose contract has the qualified name. -/
def ofContract? (qualified : String) : Option Verb :=
  all.find? fun v => v.contractName == qualified

/-- Why a class that extends the contract cannot be used as it is: the contract's method
    has no body. -/
def abstractMessage (v : Verb) (className : String) : String :=
  "Can't instantiate abstract class " ++ className ++ " with abstract method " ++ v.method

theorem mem_all (v : Verb) : v ∈ all := by cases v <;> decide

theorem method_inj {v w : Verb} (h : v.method = w.method) : v = w := by
  cases v <;> cases w <;> first | rfl | exact absurd h (by decide)

theorem ofContract?_contractName (v : Verb) : ofContract? v.contractName = some v := by
  cases v <;> decide

end Verb

end Waymark

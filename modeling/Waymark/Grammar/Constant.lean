import Waymark.Grammar.Statement

/-! # Constants

    An expression that is made of literals alone has a value without being run: literals,
    numbers with a sign, sums of a real and an imaginary number, and collections of all these.
    The members of a set and the keys of a dictionary must be values that cannot change.
-/

namespace Waymark.Grammar

open Waymark.Decimal (Binary64)

namespace Literal

/-- Is it a number that an imaginary one can be added to? Whole numbers have a greatest. -/
def isReal : Literal → Bool
  | .integer n => Binary64.ofRatio .false n 1 != .infinite .false
  | .float _ => .true
  | _ => .false

/-- Is it a number? -/
def isNumber : Literal → Bool
  | .integer _ | .float _ | .imaginary _ => .true
  | _ => .false

/-- Is it an imaginary number? -/
def isImaginary : Literal → Bool
  | .imaginary _ => .true
  | _ => .false

end Literal

namespace UnaryOp

/-- Is it the sign of a number? -/
def isSign : UnaryOp → Bool
  | .plus | .minus => true
  | .invert | .not => false

end UnaryOp

namespace Expr

/-- Is it a number of the given kind, with or without a sign? -/
def isSigned (kind : Literal → Bool) : Expr → Bool
  | .literal value => kind value
  | .apply (.unary op) [.literal value] => op.isSign && kind value
  | _ => false

mutual
/-- If the expression is a constant, whether its value can never change. -/
def constant? : Expr → Option Bool
  | .name _ => none
  | .literal _ => some true
  | .apply form parts =>
    match form with
    | .tuple => (constants? parts).map fun fixed => fixed.all id
    -- a list has a value, but cannot be an item of a set
    | .list => (constants? parts).map fun _ => false
    | .set => (constants? parts).bind fun fixed => if fixed.all id then some false else none
    | .dictionary keyed =>
      (constants? parts).bind fun fixed =>
        if keyed.all id && (fixed.take keyed.length).all id then some false else none
    -- the empty set has no other spelling
    | .call 0 [] => if parts.map name? == [some "set"] then some false else none
    | .unary op => if isSigned Literal.isNumber (.apply (.unary op) parts) then some true else none
    | .binary op =>
      match parts with
      -- a sum with an imaginary number is a complex one
      | [left, .literal right] =>
        if (op == .add || op == .subtract) && left.isSigned Literal.isReal && right.isImaginary then
          some true
        else none
      | _ => none
    | _ => none

/-- If all expressions are constants, whether their values can never change. -/
def constants? : List Expr → Option (List Bool)
  | [] => some []
  | e :: rest => do return (← constant? e) :: (← constants? rest)
end

end Expr

end Waymark.Grammar

/-
**Conditions as trees.**

The leaves keep the names as they are written; what they refer to is decided later.

* `Expression`: the tree of a condition.
* `BinaryOperator.level`: how tightly an operator binds.
-/

import DesignRules.Condition.Token

namespace DesignRules.Condition

/-- An operator before its operand. -/
inductive UnaryOperator where
  | not
  | negate
  deriving DecidableEq, Repr

/-- An operator between two operands. -/
inductive BinaryOperator where
  | or
  | and
  | compare (comparison : Comparison)
  | arithmetic (operation : Arithmetic)
  deriving DecidableEq, Repr

/-- The tree of a condition; a name keeps the byte offset at which it starts. -/
inductive Expression where
  | number (quantity : Quantity)
  | text (content : String)
  | name (name : String) (offset : Nat)
  | field (slot field : String) (offset : Nat)
  | method (slot name : String) (arguments : List Expression) (offset : Nat)
  | call (name : String) (arguments : List Expression) (offset : Nat)
  | unary (operator : UnaryOperator) (operand : Expression)
  | binary (operator : BinaryOperator) (left right : Expression)
  deriving Repr

/-- The levels of binding, the loosest first. -/
inductive Level where
  | disjunction
  | conjunction
  | comparison
  | sum
  | product
  deriving DecidableEq, Repr

/-- The rank of a level; tighter levels have higher ranks. -/
def Level.rank : Level → Nat
  | .disjunction => 0
  | .conjunction => 1
  | .comparison => 2
  | .sum => 3
  | .product => 4

/-- The level of an operator. -/
def BinaryOperator.level : BinaryOperator → Level
  | .or => .disjunction
  | .and => .conjunction
  | .compare _ => .comparison
  | .arithmetic .add => .sum
  | .arithmetic .subtract => .sum
  | .arithmetic .multiply => .product
  | .arithmetic .divide => .product

/-- The operator that a token stands for between two operands. -/
def Token.binary? : Token → Option BinaryOperator
  | .or => some .or
  | .and => some .and
  | .compare comparison => some (.compare comparison)
  | .plus => some (.arithmetic .add)
  | .minus => some (.arithmetic .subtract)
  | .star => some (.arithmetic .multiply)
  | .slash => some (.arithmetic .divide)
  | _ => none

/-- The operator that a token stands for before an operand. -/
def Token.unary? : Token → Option UnaryOperator
  | .not => some .not
  | .minus => some .negate
  | _ => none

end DesignRules.Condition

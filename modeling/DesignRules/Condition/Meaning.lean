/-
**What a condition means.**

The value of a tree, said by the tree itself and without instructions: an operator has the value of
its operation on the values of its operands, a call that of its function on the values of its
arguments, and a name stands for what its slot is bound to.

* `Expression.meaning`: the value of a tree where the slots are bound.
* `Expression.references`: the fields, methods and slots that a tree mentions.
-/

import DesignRules.Condition.Machine

namespace DesignRules.Condition

variable {K : Type} [Scalar K]

/-- The value of a name that stands alone: the layer, a text, or nothing for an object. -/
def nameMeaning (slots : SlotTable) (context : Context K) (name : String) : Value K :=
  match slots.find? name with
  | some slot => context.slotValue slot
  | none => .text name

/-- The value of a field of what a name stands for. -/
def fieldMeaning (slots : SlotTable) (context : Context K) (slot field : String) : Value K :=
  match slots.find? slot with
  | some slot => context.field slot field
  | none => .undefined

/-- The value of a call. -/
def callMeaning (context : Context K) (receiver : Option Slot) (isMethod : Bool) (name : String)
    (arguments : List (Value K)) : Value K :=
  match Builtin.find? isMethod name with
  | some builtin => builtin.apply context.stack (receiver.bind context.object?) arguments
  | none => .undefined

/-- The value of an operator before its operand. -/
def UnaryOperator.apply : UnaryOperator → Value K → Value K
  | .not => Value.negation
  | .negate => Value.opposite

/-- The value of an operator between its operands. -/
def BinaryOperator.apply (stack : LayerStack) (left right : Value K) : BinaryOperator → Value K
  | .or => Connective.or.apply left right
  | .and => Connective.and.apply left right
  | .compare comparison => comparison.apply stack left right
  | .arithmetic operation => operation.apply left right

mutual

/-- The value of a tree. -/
def Expression.meaning (slots : SlotTable) (context : Context K) : Expression → Value K
  | .number quantity => .number (quantity.length .nanometre)
  | .text content => .ofQuoted content
  | .name name _ => nameMeaning slots context name
  | .field slot field _ => fieldMeaning slots context slot field
  | .method slot name arguments _ =>
    callMeaning context (slots.find? slot) true name (argumentMeanings slots context arguments)
  | .call name arguments _ =>
    callMeaning context none false name (argumentMeanings slots context arguments)
  | .unary operator operand => operator.apply (operand.meaning slots context)
  | .binary operator left right =>
    operator.apply context.stack (left.meaning slots context) (right.meaning slots context)

/-- The values of arguments, in order. -/
def argumentMeanings (slots : SlotTable) (context : Context K) :
    List Expression → List (Value K)
  | [] => []
  | argument :: arguments =>
    argument.meaning slots context :: argumentMeanings slots context arguments

end

/-! ### What a tree mentions -/

/-- A place where a tree refers to something by name. -/
inductive Reference where
  | name (name : String) (offset : Nat)
  | field (slot field : String) (offset : Nat)
  | method (slot name : String) (arity offset : Nat)
  | call (name : String) (arity offset : Nat)
  deriving DecidableEq, Repr

mutual

/-- The references of a tree, in the order in which they are written. -/
def Expression.references : Expression → List Reference
  | .number _ => []
  | .text _ => []
  | .name name offset => [.name name offset]
  | .field slot field offset => [.field slot field offset]
  | .method slot name arguments offset =>
    .method slot name arguments.length offset :: argumentReferences arguments
  | .call name arguments offset =>
    .call name arguments.length offset :: argumentReferences arguments
  | .unary _ operand => operand.references
  | .binary _ left right => left.references ++ right.references

/-- The references of arguments, in order. -/
def argumentReferences : List Expression → List Reference
  | [] => []
  | argument :: arguments => argument.references ++ argumentReferences arguments

end

end DesignRules.Condition

/-
**From trees to instructions.**

The instructions of a tree are those of its parts, in the order in which the parts are written,
followed by one of its own. Names of slots and functions have to be known; a field that no kind has
is not a fault and reads as undefined.

* `Expression.instructions`: the instructions of a tree.
* `Code.ofText`: the code of a text.
-/

import DesignRules.Condition.Code
import DesignRules.Condition.Reader

namespace DesignRules.Condition

variable {K : Type} [Scalar K]

/-- The instruction of an operator between two operands. -/
def BinaryOperator.instruction : BinaryOperator → Instruction K
  | .or => .connect .or
  | .and => .connect .and
  | .compare comparison => .compare comparison
  | .arithmetic operation => .arithmetic operation

/-- The instruction of an operator before an operand. -/
def UnaryOperator.instruction : UnaryOperator → Instruction K
  | .not => .not
  | .negate => .negate

/-- The slot that a name before a point stands for. -/
def SlotTable.resolve (slots : SlotTable) (name : String) (offset : Nat) : Except Fault Slot :=
  match slots.find? name with
  | some slot => .ok slot
  | none => .error ⟨.unknownSlot, offset, name⟩

/-- The instruction of a name that stands alone: the layer, or a text. -/
def nameInstruction (slots : SlotTable) (name : String) (offset : Nat) :
    Except Fault (Instruction K) :=
  match slots.find? name with
  | some .layer => .ok (.slot .layer)
  | some _ => .error ⟨.slotNeedsField, offset, name⟩
  | none => .ok (.push (.text name))

/-- The instruction of a field of a slot. -/
def fieldInstruction (slot : Slot) (field : String) : Instruction K :=
  if slot.isObject && Field.isKnown field then .field slot field else .undefined

/-- The method of a slot with a name. -/
def methodNamed (slot : Slot) (name : String) (offset : Nat) : Except Fault Builtin :=
  match Builtin.find? true name with
  | some builtin => if slot.isObject then .ok builtin else .error ⟨.unknownFunction, offset, name⟩
  | none => .error ⟨.unknownFunction, offset, name⟩

/-- The function with a name. -/
def functionNamed (name : String) (offset : Nat) : Except Fault Builtin :=
  match Builtin.find? false name with
  | some builtin => .ok builtin
  | none => .error ⟨.unknownFunction, offset, name⟩

/-- Whether a call has the right number of arguments. -/
def checkArity (builtin : Builtin) (found offset : Nat) : Except Fault Unit :=
  if found = builtin.arity then .ok ()
  else .error ⟨.arity builtin.arity found, offset, builtin.name⟩

mutual

/-- The instructions of a tree. -/
def Expression.instructions (slots : SlotTable) : Expression → Except Fault (List (Instruction K))
  | .number quantity => .ok [.push (.number (quantity.length .nanometre))]
  | .text content => .ok [.push (.ofQuoted content)]
  | .name name offset => return [← nameInstruction slots name offset]
  | .field slot field offset => do
    let slot ← slots.resolve slot offset
    return [fieldInstruction slot field]
  | .method slot name arguments offset => do
    let slot ← slots.resolve slot offset
    let builtin ← methodNamed slot name offset
    checkArity builtin arguments.length offset
    let before ← argumentInstructions slots arguments
    return before ++ [.call builtin (some slot) arguments.length]
  | .call name arguments offset => do
    let builtin ← functionNamed name offset
    checkArity builtin arguments.length offset
    let before ← argumentInstructions slots arguments
    return before ++ [.call builtin none arguments.length]
  | .unary operator operand => do
    let before ← operand.instructions slots
    return before ++ [operator.instruction]
  | .binary operator left right => do
    let first ← left.instructions slots
    let second ← right.instructions slots
    return first ++ second ++ [operator.instruction]

/-- The instructions of a list of arguments, in order. -/
def argumentInstructions (slots : SlotTable) :
    List Expression → Except Fault (List (Instruction K))
  | [] => .ok []
  | argument :: arguments => do
    let first ← argument.instructions slots
    let rest ← argumentInstructions slots arguments
    return first ++ rest

end

/-- The code of a text. -/
def Code.ofText (slots : SlotTable) (text : String) : Except Fault (Code K) := do
  let tree ← Expression.ofText text
  let instructions ← tree.instructions slots
  return ⟨text, instructions⟩

end DesignRules.Condition

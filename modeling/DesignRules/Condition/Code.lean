/-
**Instructions for conditions.**

A condition becomes a list of instructions for a machine with a stack of values.

* `Instruction`, `Code`: one instruction, and the instructions of a condition with its text.
* `Instruction.display`, `Code.listing`: how they are listed.
* `Code.never`: the code of a condition that never holds.
-/

import DesignRules.Condition.Builtin
import DesignRules.Condition.Expression
import DesignRules.Condition.Slot

namespace DesignRules.Condition

/-- A logical operation on two values. -/
inductive Connective where
  | and
  | or
  deriving DecidableEq, Repr

/-- One step of the machine; each leaves one value on the stack. -/
inductive Instruction (K : Type) where
  /-- A fixed value. -/
  | push (value : Value K)
  /-- A field of the object in a slot, by the reader of the object's kind. -/
  | read (place : Slot) (name : String) (readers : List (Option Reader))
  /-- The layer in the layer's slot. -/
  | slot (place : Slot)
  /-- The value of a field that no kind has. -/
  | undefined
  /-- A call with the values on top of the stack. -/
  | call (builtin : Builtin) (receiver : Option Slot) (arity : Nat)
  | compare (comparison : Comparison)
  | connect (connective : Connective)
  | not
  | arithmetic (operation : Arithmetic)
  | negate
  deriving DecidableEq, Repr

/-- The instruction that reads a field by name. -/
def Instruction.field {K : Type} (place : Slot) (name : String) : Instruction K :=
  .read place name (Field.readers name)

/-- The name of a comparison in listings. -/
def Comparison.text : Comparison → String
  | .equal => "Eq"
  | .unequal => "Neq"
  | .less => "Lt"
  | .atMost => "Lte"
  | .greater => "Gt"
  | .atLeast => "Gte"

/-- The name of a logical operation in listings. -/
def Connective.text : Connective → String
  | .and => "And"
  | .or => "Or"

/-- The name of an arithmetic operation in listings. -/
def Arithmetic.text : Arithmetic → String
  | .add => "Add"
  | .subtract => "Sub"
  | .multiply => "Mul"
  | .divide => "Div"

/-- An instruction in listings. -/
def Instruction.display {K : Type} [Scalar K] : Instruction K → String
  | .push value => "push " ++ value.display
  | .read place name _ => "field " ++ place.text ++ "." ++ name
  | .slot place => "slot " ++ place.text
  | .undefined => "undefined"
  | .call builtin (some place) arity =>
    "call " ++ place.text ++ "." ++ builtin.name ++ "/" ++ toString arity
  | .call builtin none arity => "call " ++ builtin.name ++ "/" ++ toString arity
  | .compare comparison => "cmp " ++ comparison.text
  | .connect connective => "logic " ++ connective.text
  | .not => "logic Not"
  | .arithmetic operation => "arith " ++ operation.text
  | .negate => "arith Neg"

/-- The instructions of a condition, with its text. -/
structure Code (K : Type) where
  source : String
  instructions : List (Instruction K)
  deriving DecidableEq, Repr

namespace Code

variable {K : Type} [Scalar K]

/-- The instructions as they are listed, one a line. -/
def listing (code : Code K) : List String := code.instructions.map Instruction.display

/-- The code of a condition that never holds. -/
def never (source : String) : Code K := ⟨source, [.push (.ofBool false)]⟩

end Code

end DesignRules.Condition

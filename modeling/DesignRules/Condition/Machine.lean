/-
**Running the code of conditions.**

* `Context`: what the slots are bound to.
* `Instruction.apply`: the value that an instruction leaves, and the stack below it.
* `Code.value`: the value that the code leaves on top of the stack; undefined where it leaves none.
* `Code.holds`: whether that value is true.
-/

import DesignRules.Condition.Code

namespace DesignRules.Condition

variable {K : Type}

/-- What the slots are bound to, and the layers by whose names layers are compared. -/
structure Context (K : Type) where
  first : Option (Item K) := none
  second : Option (Item K) := none
  layer : Option LayerId := none
  stack : LayerStack

/-- The object in a slot. -/
def Context.object? (context : Context K) : Slot → Option (Item K)
  | .first => context.first
  | .second => context.second
  | .layer => none

/-- The layer in a slot. -/
def Context.layer? (context : Context K) : Slot → Option LayerId
  | .layer => context.layer
  | _ => none

variable [Scalar K]

/-! ### Operations on values -/

/-- The value of a comparison of numbers. -/
def Comparison.ofNumbers (a b : K) : Comparison → Bool
  | .equal => a == b
  | .unequal => !(a == b)
  | .less => a < b
  | .atMost => a ≤ b
  | .greater => b < a
  | .atLeast => b ≤ a

/-- The value of a comparison: undefined if an operand is, or if one that is put in order is no
number. -/
def Comparison.apply (stack : LayerStack) (left right : Value K) : Comparison → Value K
  | .equal => (left.agrees? stack right).elim .undefined Value.ofBool
  | .unequal => (left.agrees? stack right).elim .undefined fun equal => .ofBool !equal
  | comparison =>
    match left.toNumber?, right.toNumber? with
    | some a, some b => .ofBool (comparison.ofNumbers a b)
    | _, _ => .undefined

/-- The value of a logical operation, which an undefined operand makes false. -/
def Connective.apply (left right : Value K) (connective : Connective) : Value K :=
  if left.isUndefined || right.isUndefined then .ofBool false
  else
    match connective with
    | .and => .ofBool (left.isTrue && right.isTrue)
    | .or => .ofBool (left.isTrue || right.isTrue)

/-- The negation of a value, which is false for an undefined one. -/
def Value.negation (value : Value K) : Value K :=
  if value.isUndefined then .ofBool false else .ofBool !value.isTrue

/-- The value of an arithmetic operation; division by zero is undefined. -/
def Arithmetic.apply (left right : Value K) (operation : Arithmetic) : Value K :=
  match left.toNumber?, right.toNumber? with
  | some a, some b =>
    match operation with
    | .add => .number (a + b)
    | .subtract => .number (a - b)
    | .multiply => .number (a * b)
    | .divide => if b == 0.0 then .undefined else .number (a / b)
  | _, _ => .undefined

/-- The number with the other sign. -/
def Value.opposite : Value K → Value K
  | .number a => .number (-a)
  | _ => .undefined

/-- What the object in a slot has for a field. -/
def Context.field (context : Context K) (slot : Slot) (name : String) : Value K :=
  (context.object? slot).elim .undefined (Field.read name)

/-- What the reader of its kind reads from the object in a slot. -/
def Context.readThrough (context : Context K) (slot : Slot) (readers : List (Option Reader)) :
    Value K :=
  (context.object? slot).elim .undefined fun item =>
    readers[item.kind.number]?.join.elim .undefined fun reader => reader.read item

/-- The value of a slot that stands alone. -/
def Context.slotValue (context : Context K) (slot : Slot) : Value K :=
  (context.layer? slot).elim .undefined .layer

/-! ### The machine -/

omit [Scalar K] in
/-- The value on top of the stack, undefined on an empty one, and the stack below it. -/
def pop : List (Value K) → Value K × List (Value K)
  | [] => (.undefined, [])
  | value :: rest => (value, rest)

/-- The stack after an operation on its two topmost values, the lower of which is the left one. -/
def applyTwo (operation : Value K → Value K → Value K) (values : List (Value K)) :
    List (Value K) :=
  let (right, values) := pop values
  let (left, values) := pop values
  operation left right :: values

/-- The stack after an operation on its topmost value. -/
def applyOne (operation : Value K → Value K) (values : List (Value K)) : List (Value K) :=
  let (value, values) := pop values
  operation value :: values

/-- The stack after an instruction; the top of the stack comes first. -/
def Instruction.apply (context : Context K) (instruction : Instruction K)
    (values : List (Value K)) : List (Value K) :=
  match instruction with
  | .push value => value :: values
  | .read place _ readers => context.readThrough place readers :: values
  | .slot place => context.slotValue place :: values
  | .undefined => .undefined :: values
  | .call builtin receiver arity =>
    let arguments := (values.take arity).reverse
    builtin.apply context.stack (receiver.bind context.object?) arguments :: values.drop arity
  | .compare comparison =>
    applyTwo (fun left right => comparison.apply context.stack left right) values
  | .connect connective => applyTwo (fun left right => connective.apply left right) values
  | .not => applyOne Value.negation values
  | .arithmetic operation => applyTwo (fun left right => operation.apply left right) values
  | .negate => applyOne Value.opposite values

/-- The stack after a list of instructions. -/
def runInstructions (context : Context K) (instructions : List (Instruction K))
    (values : List (Value K)) : List (Value K) :=
  instructions.foldl (fun values instruction => instruction.apply context values) values

namespace Code

/-- The value that the code leaves on top of the stack. -/
def value (code : Code K) (context : Context K) : Value K :=
  (pop (runInstructions context code.instructions [])).1

/-- Whether the condition holds. -/
def holds (code : Code K) (context : Context K) : Bool := (code.value context).isTrue

end Code

end DesignRules.Condition

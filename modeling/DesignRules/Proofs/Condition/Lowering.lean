/-
**When a tree has code.**

What the names of a tree have to stand for so that it has code, and the code that it then has, one
statement for each form of tree.

* `resolve_eq_ok_iff`, `methodNamed_eq_ok_iff`, `functionNamed_eq_ok_iff`, `checkArity_eq_ok_iff`:
  the references that are accepted.
* `instructions_…_eq_ok_iff`: the code of a tree from the code of its parts.
-/

import DesignRules.Condition.Compile
import DesignRules.Proofs.Results

namespace DesignRules.Condition

variable {K : Type}

/-! ### References -/

theorem mem_of_find? {isMethod : Bool} {name : String} {builtin : Builtin}
    (found : Builtin.find? isMethod name = some builtin) :
    (name, builtin) ∈ if isMethod then Builtin.methods else Builtin.functions := by
  obtain ⟨before, after, split, -⟩ := List.lookup_eq_some_iff.mp found
  rw [split]
  exact List.mem_append_right before List.mem_cons_self

theorem resolve_eq_ok_iff {slots : SlotTable} {name : String} {offset : Nat} {slot : Slot} :
    slots.resolve name offset = .ok slot ↔ slots.find? name = some slot := by
  unfold SlotTable.resolve
  cases slots.find? name with
  | none => simp
  | some found => simp

theorem methodNamed_eq_ok_iff {slot : Slot} {name : String} {offset : Nat} {builtin : Builtin} :
    methodNamed slot name offset = .ok builtin ↔
      Builtin.find? true name = some builtin ∧ slot.isObject = true := by
  unfold methodNamed
  cases Builtin.find? true name with
  | none => simp
  | some found =>
    by_cases object : slot.isObject = true
    · simp [object]
    · simp [object]

theorem functionNamed_eq_ok_iff {name : String} {offset : Nat} {builtin : Builtin} :
    functionNamed name offset = .ok builtin ↔ Builtin.find? false name = some builtin := by
  unfold functionNamed
  cases Builtin.find? false name with
  | none => simp
  | some found => simp

theorem checkArity_eq_ok_iff {builtin : Builtin} {found offset : Nat} {checked : Unit} :
    checkArity builtin found offset = .ok checked ↔ found = builtin.arity := by
  unfold checkArity
  by_cases equal : found = builtin.arity
  · simp [equal]
  · simp [equal]

theorem nameInstruction_eq_ok_iff {slots : SlotTable} {name : String} {offset : Nat}
    {instruction : Instruction K} :
    nameInstruction slots name offset = .ok instruction ↔
      slots.find? name = some .layer ∧ instruction = .slot .layer ∨
        slots.find? name = none ∧ instruction = .push (.text name) := by
  unfold nameInstruction
  cases slots.find? name with
  | none => simp [eq_comm]
  | some slot => cases slot <;> simp [eq_comm]

/-! ### Trees -/

section Trees

variable [Scalar K] {slots : SlotTable} {code : List (Instruction K)}

theorem instructions_name_eq_ok_iff {name : String} {offset : Nat} :
    (Expression.name name offset).instructions slots = .ok code ↔
      ∃ instruction, nameInstruction slots name offset = .ok instruction ∧
        [instruction] = code := by
  simp only [Expression.instructions, bind_eq_ok_iff, pure, Except.pure, Except.ok.injEq]

theorem instructions_field_eq_ok_iff {name field : String} {offset : Nat} :
    (Expression.field name field offset).instructions slots = .ok code ↔
      ∃ slot, slots.find? name = some slot ∧ [fieldInstruction slot field] = code := by
  simp only [Expression.instructions, bind_eq_ok_iff, resolve_eq_ok_iff, pure, Except.pure,
    Except.ok.injEq]

theorem instructions_method_eq_ok_iff {slot name : String} {arguments : List Expression}
    {offset : Nat} :
    (Expression.method slot name arguments offset).instructions slots = .ok code ↔
      ∃ receiver builtin before, slots.find? slot = some receiver ∧ receiver.isObject = true ∧
        Builtin.find? true name = some builtin ∧ arguments.length = builtin.arity ∧
        argumentInstructions slots arguments = .ok before ∧
        before ++ [.call builtin (some receiver) arguments.length] = code := by
  simp only [Expression.instructions, bind_eq_ok_iff, resolve_eq_ok_iff, methodNamed_eq_ok_iff,
    checkArity_eq_ok_iff, pure, Except.pure, Except.ok.injEq]
  constructor
  · rintro ⟨receiver, resolved, builtin, ⟨found, object⟩, -, arity, before, lowered, equal⟩
    exact ⟨receiver, builtin, before, resolved, object, found, arity, lowered, equal⟩
  · rintro ⟨receiver, builtin, before, resolved, object, found, arity, lowered, equal⟩
    exact ⟨receiver, resolved, builtin, ⟨found, object⟩, (), arity, before, lowered, equal⟩

theorem instructions_call_eq_ok_iff {name : String} {arguments : List Expression} {offset : Nat} :
    (Expression.call name arguments offset).instructions slots = .ok code ↔
      ∃ builtin before, Builtin.find? false name = some builtin ∧
        arguments.length = builtin.arity ∧ argumentInstructions slots arguments = .ok before ∧
        before ++ [.call builtin none arguments.length] = code := by
  simp only [Expression.instructions, bind_eq_ok_iff, functionNamed_eq_ok_iff,
    checkArity_eq_ok_iff, pure, Except.pure, Except.ok.injEq]
  constructor
  · rintro ⟨builtin, found, -, arity, before, lowered, equal⟩
    exact ⟨builtin, before, found, arity, lowered, equal⟩
  · rintro ⟨builtin, before, found, arity, lowered, equal⟩
    exact ⟨builtin, found, (), arity, before, lowered, equal⟩

theorem instructions_unary_eq_ok_iff {operator : UnaryOperator} {operand : Expression} :
    (Expression.unary operator operand).instructions slots = .ok code ↔
      ∃ before, operand.instructions slots = .ok before ∧
        before ++ [operator.instruction] = code := by
  simp only [Expression.instructions, bind_eq_ok_iff, pure, Except.pure, Except.ok.injEq]

theorem instructions_binary_eq_ok_iff {operator : BinaryOperator} {left right : Expression} :
    (Expression.binary operator left right).instructions slots = .ok code ↔
      ∃ first second, left.instructions slots = .ok first ∧
        right.instructions slots = .ok second ∧
        first ++ second ++ [operator.instruction] = code := by
  simp only [Expression.instructions, bind_eq_ok_iff, pure, Except.pure, Except.ok.injEq]
  constructor
  · rintro ⟨first, leftLowered, second, rightLowered, equal⟩
    exact ⟨first, second, leftLowered, rightLowered, equal⟩
  · rintro ⟨first, second, leftLowered, rightLowered, equal⟩
    exact ⟨first, leftLowered, second, rightLowered, equal⟩

theorem argumentInstructions_cons_eq_ok_iff {argument : Expression} {arguments : List Expression} :
    argumentInstructions slots (argument :: arguments) = .ok code ↔
      ∃ first rest, argument.instructions slots = .ok first ∧
        argumentInstructions slots arguments = .ok rest ∧ first ++ rest = code := by
  simp only [argumentInstructions, bind_eq_ok_iff, pure, Except.pure, Except.ok.injEq]
  constructor
  · rintro ⟨first, lowered, rest, others, equal⟩
    exact ⟨first, rest, lowered, others, equal⟩
  · rintro ⟨first, rest, lowered, others, equal⟩
    exact ⟨first, lowered, rest, others, equal⟩

end Trees

end DesignRules.Condition

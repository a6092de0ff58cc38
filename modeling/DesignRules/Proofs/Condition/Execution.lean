/-
**The code of a condition computes its meaning.**

Running the code of a tree puts one value on the stack, which is the meaning of the tree, and leaves
alone what lay there before. No instruction ever finds fewer values than it takes.

* `Instruction.operands`, `runWithin?`: what an instruction takes from the stack, and the run that
  fails where the stack holds less.
* `readThrough_readers`: the readers chosen ahead read what the table of the item's kind says.
* `runWithin?_instructions`: the code of a tree, by induction on the tree.
* `lowering_keeps_meaning`: the code of trees and of texts.
-/

import DesignRules.Decimal.Scalar
import DesignRules.Proofs.Condition.Lowering
import DesignRules.Proofs.Condition.Tree

namespace DesignRules.Condition

variable {K : Type}

/-! ### Runs that never lack a value -/

/-- How many values an instruction takes from the stack. -/
def Instruction.operands : Instruction K → Nat
  | .push _ => 0
  | .read _ _ _ => 0
  | .slot _ => 0
  | .undefined => 0
  | .call _ _ arity => arity
  | .compare _ => 2
  | .connect _ => 2
  | .not => 1
  | .arithmetic _ => 2
  | .negate => 1

variable [Scalar K]

/-- The stack after a list of instructions, if each of them finds as many values as it takes. -/
def runWithin? (context : Context K) : List (Instruction K) → List (Value K) →
    Option (List (Value K))
  | [], values => some values
  | instruction :: rest, values =>
    if instruction.operands ≤ values.length then
      runWithin? context rest (instruction.apply context values)
    else none

theorem runWithin?_append (context : Context K) (first second : List (Instruction K))
    (values : List (Value K)) :
    runWithin? context (first ++ second) values =
      (runWithin? context first values).bind (runWithin? context second) := by
  induction first generalizing values with
  | nil => rfl
  | cons instruction first ih =>
    rw [List.cons_append, runWithin?, runWithin?]
    by_cases enough : instruction.operands ≤ values.length
    · rw [if_pos enough, if_pos enough, ih]
    · rw [if_neg enough, if_neg enough, Option.bind_none]

/-- The run with a check on the stack gives what the machine gives. -/
theorem runInstructions_of_runWithin? {context : Context K} {instructions : List (Instruction K)}
    {values result : List (Value K)} (runs : runWithin? context instructions values = some result) :
    runInstructions context instructions values = result := by
  induction instructions generalizing values with
  | nil => exact Option.some.inj runs
  | cons instruction rest ih =>
    rw [runWithin?] at runs
    by_cases enough : instruction.operands ≤ values.length
    · rw [if_pos enough] at runs
      exact ih runs
    · rw [if_neg enough] at runs
      cases runs

/-! ### Single instructions -/

/-- The place of a kind among the readers for a name holds the kind's own reader. -/
theorem readers_number (name : String) (kind : Kind) :
    (Field.readers name)[kind.number]? = some (Reader.ofName? kind name) := by
  cases kind <;> rfl

/-- **The readers chosen ahead read the table of the item's kind.** -/
theorem readThrough_readers (context : Context K) (slot : Slot) (name : String) :
    context.readThrough slot (Field.readers name) = context.field slot name := by
  unfold Context.readThrough Context.field
  cases context.object? slot with
  | none => rfl
  | some item =>
    show ((Field.readers name)[item.kind.number]?.join.elim .undefined _ : Value K) =
      Field.read name item
    rw [readers_number, Option.join_some, Reader.ofName?, Field.read]
    cases Field.ofName? item.kind name with
    | none => rfl
    | some field => rfl

/-- No kind reads a field that is not known. -/
theorem read_of_not_known {name : String} (unknown : Field.isKnown name = false) (item : Item K) :
    Field.read name item = .undefined := by
  have absent : Field.ofName? item.kind name = none := by
    rw [Field.isKnown, List.any_eq_false] at unknown
    exact Option.not_isSome_iff_eq_none.mp (unknown item.kind (Kind.mem_all item.kind))
  rw [Field.read, absent]

/-- The instruction of a field leaves what the object in the slot has for it. -/
theorem apply_fieldInstruction (context : Context K) (slot : Slot) (name : String)
    (values : List (Value K)) :
    (fieldInstruction slot name : Instruction K).apply context values =
      context.field slot name :: values := by
  unfold fieldInstruction
  by_cases readable : (slot.isObject && Field.isKnown name) = true
  · rw [if_pos readable, ← readThrough_readers]
    rfl
  · rw [if_neg readable]
    have missing : context.field slot name = .undefined := by
      unfold Context.field
      cases object : context.object? slot with
      | none => rfl
      | some item =>
        have isObject : slot.isObject = true := by
          cases slot with
          | first => rfl
          | second => rfl
          | layer => cases object
        rw [isObject, Bool.true_and, Bool.not_eq_true] at readable
        exact read_of_not_known readable item
    rw [missing]
    rfl

/-- A call takes its arguments off the stack in the order in which they were put there. -/
theorem apply_call (context : Context K) (builtin : Builtin) (receiver : Option Slot)
    (arguments values : List (Value K)) :
    (Instruction.call builtin receiver arguments.length).apply context
        (arguments.reverse ++ values) =
      builtin.apply context.stack (receiver.bind context.object?) arguments :: values := by
  have taken : ((arguments.reverse ++ values).take arguments.length).reverse = arguments := by
    rw [List.take_left' List.length_reverse, List.reverse_reverse]
  have left : (arguments.reverse ++ values).drop arguments.length = values :=
    List.drop_left' List.length_reverse
  rw [Instruction.apply, taken, left]

theorem apply_unaryInstruction (context : Context K) (operator : UnaryOperator) (value : Value K)
    (values : List (Value K)) :
    (operator.instruction : Instruction K).apply context (value :: values) =
      operator.apply value :: values := by
  cases operator <;> rfl

theorem apply_binaryInstruction (context : Context K) (operator : BinaryOperator)
    (left right : Value K) (values : List (Value K)) :
    (operator.instruction : Instruction K).apply context (right :: left :: values) =
      operator.apply context.stack left right :: values := by
  cases operator <;> rfl

omit [Scalar K] in
theorem operands_unaryInstruction (operator : UnaryOperator) :
    (operator.instruction : Instruction K).operands = 1 := by
  cases operator <;> rfl

omit [Scalar K] in
theorem operands_binaryInstruction (operator : BinaryOperator) :
    (operator.instruction : Instruction K).operands = 2 := by
  cases operator <;> rfl

/-! ### Trees -/

/-- Whether the code of a tree, if it has any, leaves just its meaning on every stack. -/
def LeavesMeaning (slots : SlotTable) (context : Context K) (tree : Expression) : Prop :=
  ∀ code, tree.instructions slots = .ok code → ∀ values,
    runWithin? context code values = some (tree.meaning slots context :: values)

/-- The code of arguments leaves their values, the last one on top. -/
theorem runWithin?_arguments {slots : SlotTable} {context : Context K}
    {arguments : List Expression}
    (each : ∀ argument ∈ arguments, LeavesMeaning slots context argument)
    {code : List (Instruction K)} (lowered : argumentInstructions slots arguments = .ok code)
    (values : List (Value K)) :
    runWithin? context code values =
      some ((argumentMeanings slots context arguments).reverse ++ values) := by
  induction arguments generalizing code values with
  | nil =>
    cases lowered
    rfl
  | cons argument arguments ih =>
    obtain ⟨first, rest, head, tail, rfl⟩ := argumentInstructions_cons_eq_ok_iff.mp lowered
    rw [runWithin?_append, each argument List.mem_cons_self first head, Option.bind_some,
      ih (fun other member => each other (List.mem_cons_of_mem _ member)) tail,
      argumentMeanings, List.reverse_cons, List.append_assoc]
    rfl

/-- A call leaves the value of its function on the values of its arguments. -/
theorem runWithin?_call {slots : SlotTable} {context : Context K} {arguments : List Expression}
    (each : ∀ argument ∈ arguments, LeavesMeaning slots context argument)
    {before : List (Instruction K)} (lowered : argumentInstructions slots arguments = .ok before)
    (builtin : Builtin) (receiver : Option Slot) (values : List (Value K)) :
    runWithin? context (before ++ [.call builtin receiver arguments.length]) values =
      some (builtin.apply context.stack (receiver.bind context.object?)
        (argumentMeanings slots context arguments) :: values) := by
  have enough : arguments.length ≤
      ((argumentMeanings slots context arguments).reverse ++ values).length := by
    simp [length_argumentMeanings]
  have called := apply_call context builtin receiver (argumentMeanings slots context arguments)
    values
  rw [length_argumentMeanings] at called
  rw [runWithin?_append, runWithin?_arguments each lowered, Option.bind_some, runWithin?,
    Instruction.operands, if_pos enough, runWithin?, called]

/-- **The code of a tree leaves just the meaning of the tree**, by induction on the tree with the
stack general, since the right operand of an operator runs on top of the left one. -/
theorem runWithin?_instructions (slots : SlotTable) (context : Context K) (tree : Expression) :
    LeavesMeaning slots context tree := by
  induction tree with
  | number quantity =>
    rintro _ ⟨⟩ values
    rfl
  | text content =>
    rintro _ ⟨⟩ values
    rfl
  | name name offset =>
    intro code lowered values
    obtain ⟨instruction, found, rfl⟩ := instructions_name_eq_ok_iff.mp lowered
    rcases nameInstruction_eq_ok_iff.mp found with ⟨bound, rfl⟩ | ⟨free, rfl⟩
    · rw [Expression.meaning, nameMeaning, bound]
      rfl
    · rw [Expression.meaning, nameMeaning, free]
      rfl
  | field slot field offset =>
    intro code lowered values
    obtain ⟨place, bound, rfl⟩ := instructions_field_eq_ok_iff.mp lowered
    have free : (fieldInstruction place field : Instruction K).operands = 0 := by
      unfold fieldInstruction
      split <;> rfl
    rw [runWithin?, free, if_pos (Nat.zero_le _), apply_fieldInstruction, Expression.meaning,
      fieldMeaning, bound]
    rfl
  | method slot name arguments offset ih =>
    intro code lowered values
    obtain ⟨receiver, builtin, before, bound, -, found, -, others, rfl⟩ :=
      instructions_method_eq_ok_iff.mp lowered
    rw [runWithin?_call ih others, Expression.meaning, callMeaning, found, bound]
  | call name arguments offset ih =>
    intro code lowered values
    obtain ⟨builtin, before, found, -, others, rfl⟩ := instructions_call_eq_ok_iff.mp lowered
    rw [runWithin?_call ih others, Expression.meaning, callMeaning, found]
  | unary operator operand ih =>
    intro code lowered values
    obtain ⟨before, inner, rfl⟩ := instructions_unary_eq_ok_iff.mp lowered
    rw [runWithin?_append, ih before inner, Option.bind_some, runWithin?,
      operands_unaryInstruction, if_pos (by simp), apply_unaryInstruction, Expression.meaning]
    rfl
  | binary operator left right leftIh rightIh =>
    intro code lowered values
    obtain ⟨first, second, leftLowered, rightLowered, rfl⟩ :=
      instructions_binary_eq_ok_iff.mp lowered
    rw [runWithin?_append, runWithin?_append, leftIh first leftLowered, Option.bind_some,
      rightIh second rightLowered, Option.bind_some, runWithin?, operands_binaryInstruction,
      if_pos (by simp), apply_binaryInstruction, Expression.meaning]
    rfl

/-! ### Texts -/

/-- The code of a text is the code of its tree. -/
theorem ofText_eq_ok_iff {slots : SlotTable} {text : String} {code : Code K} :
    Code.ofText slots text = .ok code ↔
      ∃ tree, Expression.ofText text = .ok tree ∧
        tree.instructions slots = .ok code.instructions ∧ code.source = text := by
  simp only [Code.ofText, bind_eq_ok_iff, pure, Except.pure, Except.ok.injEq]
  constructor
  · rintro ⟨tree, parsed, instructions, lowered, rfl⟩
    exact ⟨tree, parsed, lowered, rfl⟩
  · rintro ⟨tree, parsed, lowered, rfl⟩
    exact ⟨tree, parsed, code.instructions, lowered, rfl⟩

/-- The value of code is the meaning of the tree that it comes from. -/
theorem value_eq_meaning {slots : SlotTable} {tree : Expression} {code : Code K}
    (lowered : tree.instructions slots = .ok code.instructions) (context : Context K) :
    code.value context = tree.meaning slots context := by
  have ran := runWithin?_instructions slots context tree code.instructions lowered []
  rw [Code.value, runInstructions_of_runWithin? ran]
  rfl

/-- **Lowering keeps the meaning.** On every stack the code of a tree adds the meaning of the tree
and nothing else, and never lacks a value; the code of a text has the value of its tree. -/
theorem lowering_keeps_meaning (slots : SlotTable) :
    (∀ (tree : Expression) (code : List (Instruction K)), tree.instructions slots = .ok code →
      ∀ (context : Context K) (values : List (Value K)),
        runWithin? context code values = some (tree.meaning slots context :: values) ∧
          runInstructions context code values = tree.meaning slots context :: values) ∧
    (∀ (text : String) (code : Code K), Code.ofText slots text = .ok code →
      ∃ tree, Expression.ofText text = .ok tree ∧
        tree.instructions slots = .ok code.instructions ∧
          ∀ context : Context K, code.value context = tree.meaning slots context) := by
  constructor
  · intro tree code lowered context values
    have ran := runWithin?_instructions slots context tree code lowered values
    exact ⟨ran, runInstructions_of_runWithin? ran⟩
  · intro text code compiled
    obtain ⟨tree, parsed, lowered, -⟩ := ofText_eq_ok_iff.mp compiled
    exact ⟨tree, parsed, lowered, value_eq_meaning lowered⟩

/-- A condition with a call, a method, operators of each sort and all three slots. -/
theorem lowering_keeps_meaning_of_mixed_condition :
    ∃ (tree : Expression) (code : Code Float),
      Code.ofText .standard "max(A.Width, 2) > 1 && !B.existsOnLayer('F.*') || L == -A.Area" =
        .ok code ∧
      tree.instructions .standard = .ok code.instructions ∧
      (∀ context values, runInstructions context code.instructions values =
        tree.meaning .standard context :: values) ∧
      ∀ context, code.value context = tree.meaning .standard context := by
  have compiles : (Code.ofText .standard
      "max(A.Width, 2) > 1 && !B.existsOnLayer('F.*') || L == -A.Area" :
        Except Fault (Code Float)).isOk = true := by
    decide +kernel
  cases compiled : (Code.ofText .standard
      "max(A.Width, 2) > 1 && !B.existsOnLayer('F.*') || L == -A.Area" :
        Except Fault (Code Float)) with
  | error fault =>
    rw [compiled] at compiles
    cases compiles
  | ok code =>
    obtain ⟨tree, -, lowered, value⟩ := (lowering_keeps_meaning .standard).2 _ code compiled
    exact ⟨tree, code, rfl, lowered, fun context values =>
      ((lowering_keeps_meaning .standard).1 tree code.instructions lowered context values).2,
      value⟩

end DesignRules.Condition

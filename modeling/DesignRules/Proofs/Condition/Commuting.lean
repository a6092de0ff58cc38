/-
**Operands that commute.**

Equality, conjunction and disjunction do not look at the order of their operands, and a comparison
that puts numbers in order can be read from the other side. So operands can be exchanged anywhere
inside a condition, and it still has code exactly if it had, and the same value. Only which of
several faults is found first can change.

* `Comparison.mirrored`, `BinaryOperator.mirrored?`: the operator for exchanged operands.
* `agrees?_comm`, `apply_mirrored`: the value of one operator with its operands exchanged.
* `Expression.Swaps`: trees that differ in such exchanges, at any number of places.
* `Swaps.references_perm`, `Swaps.meaning_eq`: what they mention, and what they mean.
* `swapped_operands_agree`: their code and its value.
-/

import DesignRules.Decimal.Scalar
import DesignRules.Proofs.Condition.Execution
import DesignRules.Proofs.Condition.Offences
import DesignRules.Proofs.Decimal.Order
import Mathlib.Data.List.Forall2

namespace DesignRules.Condition

/-! ### Operators -/

/-- The comparison that says the same of exchanged operands. -/
def Comparison.mirrored : Comparison → Comparison
  | .equal => .equal
  | .unequal => .unequal
  | .less => .greater
  | .atMost => .atLeast
  | .greater => .less
  | .atLeast => .atMost

/-- The operator that says the same of exchanged operands; arithmetic operators have none. -/
def BinaryOperator.mirrored? : BinaryOperator → Option BinaryOperator
  | .or => some .or
  | .and => some .and
  | .compare comparison => some (.compare comparison.mirrored)
  | .arithmetic _ => none

section Values

variable {K : Type} [Scalar K] (symmetric : ∀ a b : K, (a == b) = (b == a)) (stack : LayerStack)
  (left right : Value K)

include symmetric in
/-- **Agreement is symmetric**, whatever the types of the values. -/
theorem agrees?_comm : left.agrees? stack right = right.agrees? stack left := by
  cases left with
  | undefined => cases right <;> rfl
  | number a =>
    cases right with
    | number b => exact congrArg some (symmetric a b)
    | _ => rfl
  | text a =>
    cases right with
    | text b => exact congrArg some Bool.beq_comm
    | _ => rfl
  | pattern a =>
    cases right with
    | pattern b => exact congrArg some Bool.beq_comm
    | _ => rfl
  | layer a =>
    cases right with
    | layer b => exact congrArg some Bool.beq_comm
    | _ => rfl

theorem connective_comm (connective : Connective) :
    connective.apply left right = connective.apply right left := by
  unfold Connective.apply
  rw [Bool.or_comm]
  cases connective with
  | and => rw [Bool.and_comm]
  | or => rw [Bool.or_comm left.isTrue]

include symmetric in
/-- A comparison read from the other side. -/
theorem comparison_mirrored (comparison : Comparison) :
    comparison.mirrored.apply stack right left = comparison.apply stack left right := by
  have agree := agrees?_comm symmetric stack right left
  cases comparison with
  | equal =>
    show (right.agrees? stack left).elim _ _ = (left.agrees? stack right).elim _ _
    rw [agree]
  | unequal =>
    show (right.agrees? stack left).elim _ _ = (left.agrees? stack right).elim _ _
    rw [agree]
  | less => cases left <;> cases right <;> rfl
  | atMost => cases left <;> cases right <;> rfl
  | greater => cases left <;> cases right <;> rfl
  | atLeast => cases left <;> cases right <;> rfl

include symmetric in
/-- **An operator with exchanged operands** has the value of the operator itself. -/
theorem apply_mirrored {operator mirrored : BinaryOperator}
    (mirrors : operator.mirrored? = some mirrored) :
    mirrored.apply stack right left = operator.apply stack left right := by
  cases operator with
  | or =>
    obtain rfl := Option.some.inj mirrors
    exact connective_comm right left .or
  | and =>
    obtain rfl := Option.some.inj mirrors
    exact connective_comm right left .and
  | compare comparison =>
    obtain rfl := Option.some.inj mirrors
    exact comparison_mirrored symmetric stack left right comparison
  | arithmetic operation => cases mirrors

end Values

/-! ### Trees -/

/-- **Trees that differ in exchanged operands**, at any number of places. -/
inductive Expression.Swaps : Expression → Expression → Prop where
  | number (quantity : Quantity) : Swaps (.number quantity) (.number quantity)
  | text (content : String) : Swaps (.text content) (.text content)
  | name (name : String) (offset : Nat) : Swaps (.name name offset) (.name name offset)
  | field (slot field : String) (offset : Nat) :
      Swaps (.field slot field offset) (.field slot field offset)
  | method (slot name : String) (offset : Nat) {arguments others : List Expression} :
      List.Forall₂ Swaps arguments others →
      Swaps (.method slot name arguments offset) (.method slot name others offset)
  | call (name : String) (offset : Nat) {arguments others : List Expression} :
      List.Forall₂ Swaps arguments others →
      Swaps (.call name arguments offset) (.call name others offset)
  | unary (operator : UnaryOperator) {operand other : Expression} :
      Swaps operand other → Swaps (.unary operator operand) (.unary operator other)
  | kept (operator : BinaryOperator) {left right first second : Expression} :
      Swaps left first → Swaps right second →
      Swaps (.binary operator left right) (.binary operator first second)
  | swapped {operator mirrored : BinaryOperator} {left right first second : Expression} :
      operator.mirrored? = some mirrored → Swaps left first → Swaps right second →
      Swaps (.binary operator left right) (.binary mirrored second first)

namespace Expression.Swaps

variable {tree other : Expression}

/-- Induction on two trees at once; calls are alike if their arguments are, one by one. -/
theorem pairInduction {motive : Expression → Expression → Prop}
    (number : ∀ quantity, motive (.number quantity) (.number quantity))
    (text : ∀ content, motive (.text content) (.text content))
    (name : ∀ name offset, motive (.name name offset) (.name name offset))
    (field : ∀ slot field offset, motive (.field slot field offset) (.field slot field offset))
    (method : ∀ slot name offset arguments others, List.Forall₂ motive arguments others →
      motive (.method slot name arguments offset) (.method slot name others offset))
    (call : ∀ name offset arguments others, List.Forall₂ motive arguments others →
      motive (.call name arguments offset) (.call name others offset))
    (unary : ∀ operator operand other, motive operand other →
      motive (.unary operator operand) (.unary operator other))
    (kept : ∀ operator left right first second, motive left first → motive right second →
      motive (.binary operator left right) (.binary operator first second))
    (swapped : ∀ operator mirrored left right first second, operator.mirrored? = some mirrored →
      motive left first → motive right second →
      motive (.binary operator left right) (.binary mirrored second first))
    (swaps : tree.Swaps other) : motive tree other := by
  refine Swaps.rec (motive_1 := fun tree other _ => motive tree other)
    (motive_2 := fun arguments others _ => List.Forall₂ motive arguments others)
    number text name field ?method ?call ?unary ?kept ?swapped .nil ?cons swaps
  case method => exact fun slot name offset _ _ _ alike => method slot name offset _ _ alike
  case call => exact fun name offset _ _ _ alike => call name offset _ _ alike
  case unary => exact fun operator _ _ _ alike => unary operator _ _ alike
  case kept => exact fun operator _ _ _ _ _ _ first second => kept operator _ _ _ _ first second
  case swapped =>
    exact fun mirrors _ _ first second => swapped _ _ _ _ _ _ mirrors first second
  case cons => exact fun _ _ first others => .cons first others

/-- **Trees with exchanged operands mention the same**, though not in the same order. -/
theorem references_perm (swaps : tree.Swaps other) : tree.references.Perm other.references := by
  have listed {arguments others : List Expression}
      (alike : List.Forall₂ (fun a b => a.references.Perm b.references) arguments others) :
      (argumentReferences arguments).Perm (argumentReferences others) := by
    induction alike with
    | nil => exact .nil
    | cons first _ ih => exact first.append ih
  refine swaps.pairInduction (motive := fun tree other => tree.references.Perm other.references)
    (fun _ => .refl _) (fun _ => .refl _) (fun _ _ => .refl _) (fun _ _ _ => .refl _)
    ?method ?call (fun _ _ _ => id) ?kept ?swapped
  case method =>
    intro slot name offset arguments others alike
    rw [references, references, alike.length_eq]
    exact (listed alike).cons _
  case call =>
    intro name offset arguments others alike
    rw [references, references, alike.length_eq]
    exact (listed alike).cons _
  case kept => exact fun operator _ _ _ _ left right => left.append right
  case swapped =>
    exact fun _ _ _ _ _ _ _ left right => (left.append right).trans List.perm_append_comm

variable {K : Type} [Scalar K]

/-- **A tree with exchanged operands has code** exactly if the tree has, since what is wrong with
either is what is wrong with its references. -/
theorem exists_code_iff (swaps : tree.Swaps other) (slots : SlotTable) :
    (∃ code : List (Instruction K), tree.instructions slots = .ok code) ↔
      ∃ code : List (Instruction K), other.instructions slots = .ok code := by
  have sound (tree : Expression) :
      (∃ code : List (Instruction K), tree.instructions slots = .ok code) ↔
        ∀ reference ∈ tree.references, reference.fault? slots = none := by
    rw [← failure?_eq_none_iff, failure?_instructions, List.findSome?_eq_none_iff]
  rw [sound, sound]
  exact forall_congr' fun reference => by rw [swaps.references_perm.mem_iff]

/-- **A tree with exchanged operands means the same.** -/
theorem meaning_eq (symmetric : ∀ a b : K, (a == b) = (b == a)) (swaps : tree.Swaps other)
    (slots : SlotTable) (context : Context K) :
    tree.meaning slots context = other.meaning slots context := by
  have listed {arguments others : List Expression}
      (alike : List.Forall₂ (fun a b => a.meaning slots context = b.meaning slots context)
        arguments others) :
      argumentMeanings slots context arguments = argumentMeanings slots context others := by
    induction alike with
    | nil => rfl
    | cons first _ ih => rw [argumentMeanings, argumentMeanings, first, ih]
  refine swaps.pairInduction
    (motive := fun tree other => tree.meaning slots context = other.meaning slots context)
    (fun _ => rfl) (fun _ => rfl) (fun _ _ => rfl) (fun _ _ _ => rfl)
    ?method ?call ?unary ?kept ?swapped
  case method =>
    intro slot name offset arguments others alike
    rw [meaning, meaning, listed alike]
  case call =>
    intro name offset arguments others alike
    rw [meaning, meaning, listed alike]
  case unary =>
    intro operator operand other same
    rw [meaning, meaning, same]
  case kept =>
    intro operator left right first second leftSame rightSame
    rw [meaning, meaning, leftSame, rightSame]
  case swapped =>
    intro operator mirrored left right first second mirrors leftSame rightSame
    rw [meaning, meaning, leftSame, rightSame]
    exact (apply_mirrored symmetric context.stack _ _ mirrors).symm

end Expression.Swaps

/-- **Exchanging operands that commute changes nothing.** Of two trees that differ in such
exchanges, both have code or neither has, and in the first case their code has the same value in
every context, so both conditions hold or neither does. All that is asked of numbers is that whether
two of them are equal does not depend on their order. -/
theorem swapped_operands_agree {K : Type} [Scalar K] (symmetric : ∀ a b : K, (a == b) = (b == a))
    {tree other : Expression} (swaps : tree.Swaps other) (slots : SlotTable) :
    ((∃ code : List (Instruction K), tree.instructions slots = .ok code) ↔
      ∃ code : List (Instruction K), other.instructions slots = .ok code) ∧
    ∀ code swapped : Code K, tree.instructions slots = .ok code.instructions →
      other.instructions slots = .ok swapped.instructions →
      ∀ context : Context K, swapped.value context = code.value context ∧
        swapped.holds context = code.holds context := by
  refine ⟨swaps.exists_code_iff slots, fun code swapped lowered swappedLowered context => ?_⟩
  have same : swapped.value context = code.value context := by
    rw [value_eq_meaning lowered, value_eq_meaning swappedLowered]
    exact (swaps.meaning_eq symmetric slots context).symm
  exact ⟨same, congrArg Value.isTrue same⟩

/-- On a front layer and with a larger side below the height, or with a drill on the layer; nothing
has a drill. -/
def mixedOperands : Expression :=
  .binary .or
    (.binary .and
      (.binary (.compare .equal) (.field "A" "Layer" 0) (.text "F.*"))
      (.binary (.compare .less)
        (.call "max" [.field "A" "Width" 26, .field "B" "Width" 35] 22)
        (.field "A" "Height" 46)))
    (.unary .not (.binary (.compare .unequal) (.field "B" "Drill" 60) (.name "L" 71)))

/-- The same with the operands of all its operators exchanged. -/
def mixedOperandsExchanged : Expression :=
  .binary .or
    (.unary .not (.binary (.compare .unequal) (.name "L" 71) (.field "B" "Drill" 60)))
    (.binary .and
      (.binary (.compare .greater)
        (.field "A" "Height" 46)
        (.call "max" [.field "A" "Width" 26, .field "B" "Width" 35] 22))
      (.binary (.compare .equal) (.text "F.*") (.field "A" "Layer" 0)))

/-- The operands are a pattern and a layer, numbers, and what is undefined. -/
theorem swapped_operands_agree_of_mixed_operands :
    mixedOperands.Swaps mixedOperandsExchanged ∧
      ∃ code swapped : Code Float,
        mixedOperands.instructions .standard = .ok code.instructions ∧
        mixedOperandsExchanged.instructions .standard = .ok swapped.instructions ∧
        ∀ context, swapped.value context = code.value context ∧
          swapped.holds context = code.holds context := by
  have sides : List.Forall₂ Expression.Swaps
      [.field "A" "Width" 26, .field "B" "Width" 35]
      [.field "A" "Width" 26, .field "B" "Width" 35] :=
    .cons (.field _ _ _) (.cons (.field _ _ _) .nil)
  have swaps : mixedOperands.Swaps mixedOperandsExchanged :=
    .swapped rfl
      (.swapped rfl (.swapped rfl (.field _ _ _) (.text _))
        (.swapped rfl (.call _ _ sides) (.field _ _ _)))
      (.unary _ (.swapped rfl (.field _ _ _) (.name _ _)))
  obtain ⟨both, agree⟩ := swapped_operands_agree Decimal.beq_comm swaps .standard
  have compiles : (mixedOperands.instructions .standard :
      Except Fault (List (Instruction Float))).isOk = true := by
    decide +kernel
  cases lowered : (mixedOperands.instructions .standard :
      Except Fault (List (Instruction Float))) with
  | error fault =>
    rw [lowered] at compiles
    cases compiles
  | ok code =>
    obtain ⟨swapped, swappedLowered⟩ := both.mp ⟨code, lowered⟩
    exact ⟨swaps, ⟨"", code⟩, ⟨"", swapped⟩, rfl, swappedLowered,
      agree ⟨"", code⟩ ⟨"", swapped⟩ lowered swappedLowered⟩

end DesignRules.Condition

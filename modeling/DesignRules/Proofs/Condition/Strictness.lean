/-
**Conditions that mention what is undefined.**

A reference is undefined where its slot is not bound, or the object in it has no such field. All
that is computed from it without a logical operator is undefined, and so is not true. A logical
operator makes false of it: a negation and a disjunction if their operands have no logical operator
of their own, and a conjunction in any case. So a condition that is built in these ways is false
wherever it mentions what is undefined.

* `Reference.isUndefined`, `Expression.mentionsUndefined`: references that are undefined.
* `Expression.isPlain`, `meaning_of_isPlain`: trees without logical operators.
* `Expression.IsGuard`, `isTrue_of_isGuard`: trees with some.
* `undefined_propagates`: the value of the code of both.
-/

import DesignRules.Decimal.Scalar
import DesignRules.Proofs.Condition.MissingField

namespace DesignRules.Condition

/-! ### What is undefined -/

section Undefined

variable {K : Type}

/-- Whether a reference is undefined: a layer that is not bound, a missing field, or a method of a
slot without an object. -/
def Reference.isUndefined (slots : SlotTable) (context : Context K) : Reference → Bool
  | .name word _ => (slots.find? word).any fun slot => (context.layer? slot).isNone
  | .field slot read _ => Condition.isMissing slots context slot read
  | .method slot _ _ _ => ((slots.find? slot).bind context.object?).isNone
  | .call _ _ _ => false

/-- Whether a tree mentions anything undefined. -/
def Expression.mentionsUndefined (slots : SlotTable) (context : Context K) (tree : Expression) :
    Bool :=
  tree.references.any fun reference => reference.isUndefined slots context

mutual

/-- Whether a tree has no logical operator. -/
def Expression.isPlain : Expression → Bool
  | .number _ => true
  | .text _ => true
  | .name _ _ => true
  | .field .. => true
  | .method _ _ arguments _ => arePlain arguments
  | .call _ arguments _ => arePlain arguments
  | .unary operator operand => !operator.isLogical && operand.isPlain
  | .binary operator left right => !operator.isLogical && (left.isPlain && right.isPlain)

/-- Whether arguments have no logical operator. -/
def arePlain : List Expression → Bool
  | [] => true
  | argument :: arguments => argument.isPlain && arePlain arguments

end

/-- **Conditions that fail where something is undefined**: trees without logical operators, the
negation of one and the disjunction of two of them, and conjunctions of any of all these. -/
inductive Expression.IsGuard : Expression → Prop where
  | plain {tree : Expression} : tree.isPlain = true → IsGuard tree
  | not {operand : Expression} : operand.isPlain = true → IsGuard (.unary .not operand)
  | or {left right : Expression} :
      left.isPlain = true → right.isPlain = true → IsGuard (.binary .or left right)
  | and {left right : Expression} :
      IsGuard left → IsGuard right → IsGuard (.binary .and left right)

theorem arePlain_iff {arguments : List Expression} :
    arePlain arguments = true ↔ ∀ argument ∈ arguments, argument.isPlain = true := by
  induction arguments with
  | nil => simp [arePlain]
  | cons argument arguments ih => rw [arePlain, Bool.and_eq_true, ih, List.forall_mem_cons]

variable {slots : SlotTable} {context : Context K}

theorem mentionsUndefined_name {name : String} {offset : Nat} :
    (Expression.name name offset).mentionsUndefined slots context =
      (slots.find? name).any fun slot => (context.layer? slot).isNone :=
  Bool.or_false _

theorem mentionsUndefined_field {slot field : String} {offset : Nat} :
    (Expression.field slot field offset).mentionsUndefined slots context =
      isMissing slots context slot field :=
  Bool.or_false _

theorem mentionsUndefined_method {slot name : String} {arguments : List Expression} {offset : Nat} :
    (Expression.method slot name arguments offset).mentionsUndefined slots context =
      (((slots.find? slot).bind context.object?).isNone ||
        arguments.any fun argument => argument.mentionsUndefined slots context) := by
  rw [Expression.mentionsUndefined, Expression.references, List.any_cons,
    argumentReferences_eq_flatMap, List.any_flatMap]
  rfl

theorem mentionsUndefined_call {name : String} {arguments : List Expression} {offset : Nat} :
    (Expression.call name arguments offset).mentionsUndefined slots context =
      arguments.any fun argument => argument.mentionsUndefined slots context := by
  rw [Expression.mentionsUndefined, Expression.references, List.any_cons,
    argumentReferences_eq_flatMap, List.any_flatMap]
  exact Bool.false_or _

theorem mentionsUndefined_binary {operator : BinaryOperator} {left right : Expression} :
    (Expression.binary operator left right).mentionsUndefined slots context =
      (left.mentionsUndefined slots context || right.mentionsUndefined slots context) :=
  List.any_append

end Undefined

/-! ### Trees without logical operators -/

section Plain

variable {K : Type} [Scalar K] {slots : SlotTable} {context : Context K}

theorem eq_existsOnLayer_of_find? {name : String} {builtin : Builtin}
    (found : Builtin.find? true name = some builtin) : builtin = .existsOnLayer :=
  (Prod.mk.inj (List.mem_singleton.mp (mem_of_find? found))).2

/-- A method without an object is undefined. -/
theorem callMeaning_method_of_isNone {receiver : Option Slot}
    (unbound : (receiver.bind context.object?).isNone = true) (name : String)
    (arguments : List (Value K)) :
    callMeaning context receiver true name arguments = .undefined := by
  unfold callMeaning
  rw [Option.isNone_iff_eq_none.mp unbound]
  cases found : Builtin.find? true name with
  | none => rfl
  | some builtin =>
    obtain rfl := eq_existsOnLayer_of_find? found
    show Builtin.apply _ _ _ _ = _
    unfold Builtin.apply Builtin.applyDefined
    split
    · rfl
    · split <;> first | rfl | contradiction

/-- An argument that is undefined makes the call undefined. -/
theorem callMeaning_of_mentionsUndefined {arguments : List Expression}
    (each : ∀ argument ∈ arguments, argument.isPlain = true →
      argument.mentionsUndefined slots context = true →
        argument.meaning slots context = .undefined)
    (plain : arePlain arguments = true)
    (mentions : (arguments.any fun argument => argument.mentionsUndefined slots context) = true)
    (receiver : Option Slot) (isMethod : Bool) (name : String) :
    callMeaning context receiver isMethod name (argumentMeanings slots context arguments) =
      .undefined := by
  obtain ⟨argument, member, inside⟩ := List.any_eq_true.mp mentions
  have undefined := each argument member (arePlain_iff.mp plain argument member) inside
  exact callMeaning_of_undefined_mem (undefined_mem_of_mem member undefined) receiver isMethod name

/-- **A tree without logical operators that mentions anything undefined is undefined.** -/
theorem meaning_of_isPlain {tree : Expression} (plain : tree.isPlain = true)
    (mentions : tree.mentionsUndefined slots context = true) :
    tree.meaning slots context = .undefined := by
  induction tree with
  | number quantity => cases mentions
  | text content => cases mentions
  | name name offset =>
    rw [mentionsUndefined_name] at mentions
    obtain ⟨slot, known, unbound⟩ := (Option.any_eq_true _ _).mp mentions
    rw [Expression.meaning, nameMeaning, known]
    show (context.layer? slot).elim _ _ = _
    rw [Option.isNone_iff_eq_none.mp unbound, Option.elim_none]
  | field slot field offset =>
    rw [mentionsUndefined_field] at mentions
    exact fieldMeaning_of_isMissing mentions
  | method slot name arguments offset ih =>
    rw [mentionsUndefined_method, Bool.or_eq_true] at mentions
    rcases mentions with unbound | inside
    · exact callMeaning_method_of_isNone unbound name _
    · exact callMeaning_of_mentionsUndefined ih plain inside _ _ _
  | call name arguments offset ih =>
    rw [mentionsUndefined_call] at mentions
    exact callMeaning_of_mentionsUndefined ih plain mentions _ _ _
  | unary operator operand ih =>
    obtain ⟨strict, plain⟩ := Bool.and_eq_true_iff.mp plain
    rw [Expression.meaning, ih plain mentions]
    exact unary_undefined_of_strict (Bool.not_eq_true' _ ▸ strict)
  | binary operator left right leftIh rightIh =>
    obtain ⟨strict, plain⟩ := Bool.and_eq_true_iff.mp plain
    obtain ⟨first, second⟩ := Bool.and_eq_true_iff.mp plain
    rw [mentionsUndefined_binary, Bool.or_eq_true] at mentions
    exact binary_undefined_of_strict (Bool.not_eq_true' _ ▸ strict)
      (mentions.imp (leftIh first) (rightIh second)) context.stack

end Plain

/-! ### Truth -/

theorem isTrue_ofBool (value : Bool) : (Value.ofBool value : Value Float).isTrue = value := by
  cases value <;> decide +kernel

/-- Both operands of a conjunction have to be true; an undefined one is not. -/
theorem isTrue_and (left right : Value Float) :
    (Connective.and.apply left right).isTrue = (left.isTrue && right.isTrue) := by
  unfold Connective.apply
  split
  next missing =>
    rw [isTrue_ofBool]
    rcases Bool.or_eq_true _ _ ▸ missing with first | second
    · cases left <;> first | rfl | cases first
    · cases right <;> first | exact (Bool.and_false _).symm | cases second
  next => exact isTrue_ofBool _

variable {slots : SlotTable} {context : Context Float}

/-- **A guard that mentions anything undefined is not true.** -/
theorem isTrue_of_isGuard {tree : Expression} (guard : tree.IsGuard)
    (mentions : tree.mentionsUndefined slots context = true) :
    (tree.meaning slots context).isTrue = false := by
  induction guard with
  | plain plain =>
    rw [meaning_of_isPlain plain mentions]
    rfl
  | not plain =>
    rw [Expression.meaning, meaning_of_isPlain plain mentions, unary_undefined_of_logical rfl]
    exact isTrue_ofBool false
  | or first second =>
    rw [mentionsUndefined_binary, Bool.or_eq_true] at mentions
    rw [Expression.meaning, binary_undefined_of_logical rfl
      (mentions.imp (meaning_of_isPlain first) (meaning_of_isPlain second)) context.stack]
    exact isTrue_ofBool false
  | and _ _ leftIh rightIh =>
    rw [mentionsUndefined_binary, Bool.or_eq_true] at mentions
    rw [Expression.meaning, BinaryOperator.apply, isTrue_and]
    rcases mentions with first | second
    · rw [leftIh first, Bool.false_and]
    · rw [rightIh second, Bool.and_false]

/-- **What is undefined is felt.** The code of a tree that mentions anything undefined has no value
if the tree has no logical operator, and does not hold if the tree is a guard. -/
theorem undefined_propagates (slots : SlotTable) (tree : Expression) (code : Code Float)
    (lowered : tree.instructions slots = .ok code.instructions) (context : Context Float)
    (mentions : tree.mentionsUndefined slots context = true) :
    (tree.isPlain = true → code.value context = .undefined) ∧
      (tree.IsGuard → code.holds context = false) := by
  refine ⟨fun plain => ?_, fun guard => ?_⟩
  · rw [value_eq_meaning lowered, meaning_of_isPlain plain mentions]
  · rw [Code.holds, value_eq_meaning lowered, isTrue_of_isGuard guard mentions]

/-- A via with a drill that is not on the layer; vias have no drill, and no layer is bound. -/
def drilledOffLayer : Expression :=
  .binary .and (.binary (.compare .unequal) (.field "A" "Drill" 0) (.text "wide"))
    (.unary .not (.binary (.compare .equal) (.name "L" 23) (.text "F.Cu")))

/-- The code of this tree. -/
def drilledOffLayerCode : Code Float :=
  ⟨"A.Drill != 'wide' && !(L == 'F.Cu')",
    [.undefined, .push (.text "wide"), .compare .unequal, .slot .layer, .push (.text "F.Cu"),
      .compare .equal, .not, .connect .and]⟩

/-- Both operands of the conjunction mention something undefined. -/
theorem undefined_propagates_of_drilled_off_layer :
    drilledOffLayer.IsGuard ∧ drilledOffLayer.mentionsUndefined .standard loneVia = true ∧
      drilledOffLayer.instructions .standard = .ok drilledOffLayerCode.instructions ∧
        drilledOffLayerCode.holds loneVia = false := by
  have guard : drilledOffLayer.IsGuard := .and (.plain rfl) (.not rfl)
  have mentions : drilledOffLayer.mentionsUndefined .standard loneVia = true := by decide +kernel
  have lowered : drilledOffLayer.instructions .standard = .ok drilledOffLayerCode.instructions := by
    decide +kernel
  have felt := undefined_propagates .standard drilledOffLayer drilledOffLayerCode lowered loneVia
    mentions
  exact ⟨guard, mentions, lowered, felt.2 guard⟩

end DesignRules.Condition

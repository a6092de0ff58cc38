/-
**Induction on the trees of conditions.**

A call holds a list of trees, so the recursor of trees speaks of trees and of lists of trees. Here
it is put as one induction, in which each argument of a call has the property.

* `Expression.treeInduction`: the induction.
* `argumentMeanings_eq_map`, `argumentReferences_eq_flatMap`: what is said of arguments is said of
  each of them.
-/

import DesignRules.Condition.Meaning

namespace DesignRules.Condition

/-- Induction on trees; a call has the property if all its arguments do. -/
@[elab_as_elim, induction_eliminator]
theorem Expression.treeInduction {motive : Expression → Prop}
    (number : ∀ quantity, motive (.number quantity))
    (text : ∀ content, motive (.text content))
    (name : ∀ name offset, motive (.name name offset))
    (field : ∀ slot field offset, motive (.field slot field offset))
    (method : ∀ slot name arguments offset, (∀ argument ∈ arguments, motive argument) →
      motive (.method slot name arguments offset))
    (call : ∀ name arguments offset, (∀ argument ∈ arguments, motive argument) →
      motive (.call name arguments offset))
    (unary : ∀ operator operand, motive operand → motive (.unary operator operand))
    (binary : ∀ operator left right, motive left → motive right →
      motive (.binary operator left right))
    (tree : Expression) : motive tree := by
  refine Expression.rec (motive_1 := motive)
    (motive_2 := fun arguments => ∀ argument ∈ arguments, motive argument)
    number text name field method call unary binary ?none ?more tree
  case none => simp
  case more =>
    intro argument arguments head tail other member
    rcases List.mem_cons.mp member with rfl | member
    · exact head
    · exact tail other member

/-! ### Arguments of calls -/

theorem argumentMeanings_eq_map {K : Type} [Scalar K] (slots : SlotTable) (context : Context K)
    (arguments : List Expression) :
    argumentMeanings slots context arguments =
      arguments.map fun argument => argument.meaning slots context := by
  induction arguments with
  | nil => rfl
  | cons argument arguments ih => rw [argumentMeanings, ih, List.map_cons]

theorem length_argumentMeanings {K : Type} [Scalar K] (slots : SlotTable) (context : Context K)
    (arguments : List Expression) :
    (argumentMeanings slots context arguments).length = arguments.length := by
  rw [argumentMeanings_eq_map, List.length_map]

theorem argumentReferences_eq_flatMap (arguments : List Expression) :
    argumentReferences arguments = arguments.flatMap Expression.references := by
  induction arguments with
  | nil => rfl
  | cons argument arguments ih => rw [argumentReferences, ih, List.flatMap_cons]

end DesignRules.Condition

/-
**Geometry without rounding.**

The definitions of the geometry over real numbers. How numbers are written plays no role here and is
left open.

* `Exact`: the numbers, with one lemma for each operation.
* `value_gap`, `gap_comm`, `separation_le_gap`: the distance of two boxes, which is the same from both
  sides and at least their distance along each axis.
* `upright_meets_of_gap_lt`: boxes closer than a margin meet when one of them is grown by it, in
  whatever order their corners are given.
-/

import DesignRules.Geometry.Box
import Mathlib.Algebra.BigOperators.Group.List.Basic
import Mathlib.Analysis.Real.Sqrt

namespace DesignRules

open Scalar

/-- How numbers are written. -/
class NumberText where
  plain : ℝ → String
  fixed : Nat → ℝ → String

/-- A number without rounding. -/
@[ext]
structure Exact where
  value : ℝ

/-! ### Numbers -/

namespace Exact

variable [NumberText]

noncomputable instance exactScalar : Scalar Exact where
  add a b := ⟨a.value + b.value⟩
  sub a b := ⟨a.value - b.value⟩
  mul a b := ⟨a.value * b.value⟩
  div a b := ⟨a.value / b.value⟩
  neg a := ⟨-a.value⟩
  beq a b := decide (a.value = b.value)
  lt a b := a.value < b.value
  le a b := a.value ≤ b.value
  ofScientific mantissa negative exponent :=
    ⟨OfScientific.ofScientific mantissa negative exponent⟩
  decideLT a b := inferInstanceAs (Decidable (a.value < b.value))
  decideLE a b := inferInstanceAs (Decidable (a.value ≤ b.value))
  magnitude a := ⟨|a.value|⟩
  root a := ⟨√a.value⟩
  plainText a := NumberText.plain a.value
  fixedText places a := NumberText.fixed places a.value

@[simp]
theorem value_add (a b : Exact) : (a + b).value = a.value + b.value := rfl

@[simp]
theorem value_sub (a b : Exact) : (a - b).value = a.value - b.value := rfl

@[simp]
theorem value_mul (a b : Exact) : (a * b).value = a.value * b.value := rfl

@[simp]
theorem value_div (a b : Exact) : (a / b).value = a.value / b.value := rfl

@[simp]
theorem value_magnitude (a : Exact) : (magnitude a).value = |a.value| := rfl

@[simp]
theorem value_root (a : Exact) : (root a).value = √a.value := rfl

@[simp]
theorem value_zero : (0.0 : Exact).value = 0 := by
  show (OfScientific.ofScientific 0 true 1 : ℝ) = 0
  norm_num

@[simp]
theorem value_two : (2.0 : Exact).value = 2 := by
  show (OfScientific.ofScientific 20 true 1 : ℝ) = 2
  norm_num

theorem lt_iff (a b : Exact) : a < b ↔ a.value < b.value := Iff.rfl

theorem le_iff (a b : Exact) : a ≤ b ↔ a.value ≤ b.value := Iff.rfl

@[simp]
theorem isNaN_eq_false (a : Exact) : isNaN a = false := by
  have same : (a == a) = true := decide_eq_true rfl
  rw [isNaN, same]
  rfl

@[simp]
theorem value_lowerEnd (a b : Exact) : (Box.lowerEnd a b).value = min a.value b.value := by
  unfold Box.lowerEnd
  by_cases below : a < b
  · rw [if_pos below]
    exact (min_eq_left (le_of_lt ((lt_iff a b).mp below))).symm
  · rw [if_neg below]
    exact (min_eq_right (not_lt.mp fun above => below ((lt_iff a b).mpr above))).symm

@[simp]
theorem value_upperEnd (a b : Exact) : (Box.upperEnd a b).value = max a.value b.value := by
  unfold Box.upperEnd
  by_cases above : b < a
  · rw [if_pos above]
    exact (max_eq_left (le_of_lt ((lt_iff b a).mp above))).symm
  · rw [if_neg above]
    exact (max_eq_right (not_lt.mp fun below => above ((lt_iff b a).mpr below))).symm

@[simp]
theorem value_greater (a b : Exact) : (greater a b).value = max a.value b.value := by
  have same : greater a b = Box.upperEnd a b := by simp [greater, Box.upperEnd]
  rw [same, value_upperEnd]

@[simp]
theorem value_lesser (a b : Exact) : (lesser a b).value = min a.value b.value := by
  have same : lesser a b = Box.lowerEnd a b := by simp [lesser, Box.lowerEnd]
  rw [same, value_lowerEnd]

theorem value_total (summands : List Exact) :
    (total summands).value = (summands.map Exact.value).sum := by
  have sum (start : Exact) :
      (summands.foldl (· + ·) start).value = start.value + (summands.map Exact.value).sum := by
    induction summands generalizing start with
    | nil => simp
    | cons summand rest ih => rw [List.foldl_cons, ih, value_add, List.map_cons, List.sum_cons,
        add_assoc]
  have neutral : (-0.0 : Exact).value = 0 := by
    show -(0.0 : Exact).value = 0
    rw [value_zero, neg_zero]
  rw [total, sum, neutral, zero_add]

/-! ### Boxes -/

theorem value_separation (firstLow firstHigh secondLow secondHigh : Exact) :
    (Box.separation firstLow firstHigh secondLow secondHigh).value =
      max (max (firstLow.value - secondHigh.value) (secondLow.value - firstHigh.value)) 0 := by
  simp [Box.separation]

theorem value_gap (a b : Box Exact) :
    (a.gap b).value = √((Box.separation a.min.x a.max.x b.min.x b.max.x).value ^ 2 +
      (Box.separation a.min.y a.max.y b.min.y b.max.y).value ^ 2) := by
  simp [Box.gap, pow_two]

theorem separation_comm (low high low' high' : Exact) :
    (Box.separation low high low' high').value = (Box.separation low' high' low high).value := by
  rw [value_separation, value_separation, max_comm (low.value - high'.value)]

theorem gap_comm (a b : Box Exact) : a.gap b = b.gap a := by
  rw [Exact.ext_iff, value_gap, value_gap, separation_comm a.min.x, separation_comm a.min.y]

/-- The distance of two boxes is at least their distance along each axis. -/
theorem separation_le_gap (a b : Box Exact) :
    (Box.separation a.min.x a.max.x b.min.x b.max.x).value ≤ (a.gap b).value ∧
      (Box.separation a.min.y a.max.y b.min.y b.max.y).value ≤ (a.gap b).value := by
  rw [value_gap]
  constructor
  · exact Real.le_sqrt_of_sq_le (le_add_of_nonneg_right (sq_nonneg _))
  · exact Real.le_sqrt_of_sq_le (le_add_of_nonneg_left (sq_nonneg _))

omit [NumberText] in
/-- Intervals closer than a margin meet when the first is grown by it; the ends of both may be in
either order. -/
theorem ends_meet {low high low' high' margin : ℝ} (before : low - high' < margin)
    (after : low' - high < margin) :
    min low' high' ≤ max (low - margin) (high + margin) ∧
      min (low - margin) (high + margin) ≤ max low' high' := by
  constructor
  · calc min low' high' ≤ low' := min_le_left _ _
      _ ≤ high + margin := by linarith
      _ ≤ max (low - margin) (high + margin) := le_max_right _ _
  · calc min (low - margin) (high + margin) ≤ low - margin := min_le_left _ _
      _ ≤ high' := by linarith
      _ ≤ max low' high' := le_max_right _ _

/-- **Boxes closer than a margin meet when one is grown by it.** -/
theorem upright_meets_of_gap_lt {a b : Box Exact} {margin : Exact} (close : a.gap b < margin) :
    b.upright.meets (a.grown margin).upright = true := by
  rw [lt_iff] at close
  obtain ⟨alongX, alongY⟩ := separation_le_gap a b
  rw [value_separation] at alongX alongY
  obtain ⟨beforeX, afterX⟩ := max_le_iff.mp ((le_max_left _ _).trans alongX)
  obtain ⟨beforeY, afterY⟩ := max_le_iff.mp ((le_max_left _ _).trans alongY)
  obtain ⟨lowX, highX⟩ := ends_meet (beforeX.trans_lt close) (afterX.trans_lt close)
  obtain ⟨lowY, highY⟩ := ends_meet (beforeY.trans_lt close) (afterY.trans_lt close)
  simp only [Box.meets, Box.upright, Box.grown, Bool.and_eq_true, decide_eq_true_eq, le_iff,
    value_lowerEnd, value_upperEnd, value_add, value_sub]
  exact ⟨⟨⟨lowX, highX⟩, lowY⟩, highY⟩

end Exact

end DesignRules

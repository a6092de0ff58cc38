/-
**Geometry in binary64 numbers.**

Coordinates are rounded, and may be infinite or no numbers at all. The distance of two boxes is a
number nevertheless. The extents of a rectangle are not negative where its corners are in order, and
exchanging its corners on one axis only turns its area to the other side of zero.

* `Box.number_gap`: the distance of two boxes.
* `Rectangle.IsOrdered`, `Rectangle.isOrdered_ofCorners`: rectangles whose corners are in order.
* `Axis`, `Rectangle.exchanged`: a rectangle whose corners are exchanged on an axis.
* `Rectangle.IsOrdered.extents`, `Rectangle.IsOrdered.exchanged_area`: extents and areas.
-/

import DesignRules.Geometry.Shape
import DesignRules.Proofs.Decimal.Signs

namespace DesignRules

open Decimal (Measures lt_zero_iff measures_greater_zero side side_mul side_sub_of_le zero_lt_iff)

/-! ### Boxes -/

theorem Box.measures_separation (firstLow firstHigh secondLow secondHigh : Float) :
    Measures (separation firstLow firstHigh secondLow secondHigh) :=
  measures_greater_zero _

/-- **The distance of two boxes** is a number. -/
theorem Box.number_gap (a b : Box Float) : Scalar.isNaN (a.gap b) = false :=
  ((measures_separation a.min.x a.max.x b.min.x b.max.x).mul_self.add
    (measures_separation a.min.y a.max.y b.min.y b.max.y).mul_self).root.number

/-! ### Rectangles -/

theorem Scalar.lesser_le_greater {a b : Float} (left : isNaN a = false) (right : isNaN b = false) :
    lesser a b ≤ greater a b := by
  simp only [lesser, greater, right, Bool.false_eq_true, or_false]
  by_cases below : a < b
  · have notAbove : ¬ b < a := fun above =>
      Decimal.not_lt_self a (Decimal.lt_of_lt_of_lt below above)
    rw [if_pos below, if_neg notAbove]
    exact (Decimal.not_lt_iff_le right left).mp notAbove
  · rw [if_neg below]
    split
    · exact (Decimal.not_lt_iff_le left right).mp below
    · exact (Decimal.not_lt_iff_le right right).mp (Decimal.not_lt_self b)

/-- The axes of the plane. -/
inductive Axis where
  | x
  | y
  deriving DecidableEq, Repr

namespace Rectangle

section

variable {K : Type}

/-- Whether the lower left corner of a rectangle is the lower and the left one. -/
structure IsOrdered [Scalar K] (rectangle : Rectangle K) : Prop where
  x : rectangle.lowerLeft.x ≤ rectangle.upperRight.x
  y : rectangle.lowerLeft.y ≤ rectangle.upperRight.y

/-- A rectangle with its two coordinates on an axis exchanged. -/
def exchanged (rectangle : Rectangle K) : Axis → Rectangle K
  | .x =>
    { rectangle with
      lowerLeft := ⟨rectangle.upperRight.x, rectangle.lowerLeft.y⟩
      upperRight := ⟨rectangle.lowerLeft.x, rectangle.upperRight.y⟩ }
  | .y =>
    { rectangle with
      lowerLeft := ⟨rectangle.lowerLeft.x, rectangle.upperRight.y⟩
      upperRight := ⟨rectangle.upperRight.x, rectangle.lowerLeft.y⟩ }

/-- The coordinates of the two corners on an axis. -/
def ends (rectangle : Rectangle K) : Axis → K × K
  | .x => (rectangle.lowerLeft.x, rectangle.upperRight.x)
  | .y => (rectangle.lowerLeft.y, rectangle.upperRight.y)

/-- Exchanging the corners changes the box unless it changes nothing. -/
theorem box_exchanged_eq_iff (rectangle : Rectangle K) (axis : Axis) :
    (rectangle.exchanged axis).box = rectangle.box ↔
      (rectangle.ends axis).1 = (rectangle.ends axis).2 := by
  obtain ⟨layer, ⟨left, bottom⟩, right, top⟩ := rectangle
  cases axis <;> simp [box, exchanged, ends, eq_comm]

end

/-- **A rectangle over two points** is in order, whichever of them comes first. -/
theorem isOrdered_ofCorners (layer : LayerId) {x₁ y₁ x₂ y₂ : Float}
    (numbers : ∀ coordinate ∈ [x₁, y₁, x₂, y₂], Scalar.isNaN coordinate = false) :
    (ofCorners layer x₁ y₁ x₂ y₂).IsOrdered where
  x := Scalar.lesser_le_greater (numbers x₁ (by simp)) (numbers x₂ (by simp))
  y := Scalar.lesser_le_greater (numbers y₁ (by simp)) (numbers y₂ (by simp))

variable {rectangle : Rectangle Float}

/-- **The extents** of a rectangle that is in order are not negative, and neither is its area. -/
theorem IsOrdered.extents (ordered : rectangle.IsOrdered) :
    ¬ rectangle.width < 0.0 ∧ ¬ rectangle.height < 0.0 ∧ ¬ rectangle.area < 0.0 := by
  have wide : 0 ≤ side rectangle.width := (side_sub_of_le ordered.x).1
  have high : 0 ≤ side rectangle.height := (side_sub_of_le ordered.y).1
  have broad : 0 ≤ side rectangle.area := by
    rcases side_mul rectangle.width rectangle.height with same | zero
    · exact (mul_nonneg wide high).trans_eq same.symm
    · exact zero.ge
  simp only [lt_zero_iff]
  omega

/-- **Exchanging the corners on one axis** leaves no rectangle that is in order a positive area. -/
theorem IsOrdered.exchanged_area (ordered : rectangle.IsOrdered) (axis : Axis) :
    ¬ 0.0 < (rectangle.exchanged axis).area := by
  obtain ⟨wide, narrow⟩ := side_sub_of_le ordered.x
  obtain ⟨high, low⟩ := side_sub_of_le ordered.y
  have turned :
      side (rectangle.exchanged axis).width * side (rectangle.exchanged axis).height ≤ 0 := by
    cases axis with
    | x => exact mul_nonpos_of_nonpos_of_nonneg narrow high
    | y => exact mul_nonpos_of_nonneg_of_nonpos wide low
  rw [zero_lt_iff]
  rcases side_mul (rectangle.exchanged axis).width (rectangle.exchanged axis).height with same | zero
  · have broad : side (rectangle.exchanged axis).area ≤ 0 := same.trans_le turned
    omega
  · have broad : side (rectangle.exchanged axis).area = 0 := zero
    omega

end Rectangle

end DesignRules

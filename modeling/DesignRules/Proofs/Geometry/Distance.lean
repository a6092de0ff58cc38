/-
**The gap of two boxes is their distance.**

Coordinates are real numbers here. Along each axis the separation of two intervals is the distance
of the nearest numbers in them, whichever of the intervals comes first and whether or not they meet;
the two axes together give the distance of the nearest points of two boxes.

* `Box.IsOrdered`, `Box.Contains`: boxes whose corners are in order, and the points of a box.
* `exists_nearest`, `separation_le_abs`: the nearest numbers of two intervals.
* `separation_eq_zero_iff`, `separation_widened_le`: when intervals meet, and what becomes of their
  separation when one is widened.
* `gap_is_least_distance`: the gap as a distance, and how it goes with other operations on boxes.
-/

import DesignRules.Proofs.Geometry.Exact

namespace DesignRules

open Scalar

/-! ### The points of a box -/

section Points

variable {K : Type} [Scalar K]

/-- Whether the first corner of a box is the lower one on both axes. -/
structure Box.IsOrdered (box : Box K) : Prop where
  x : box.min.x ≤ box.max.x
  y : box.min.y ≤ box.max.y

/-- Whether a point lies in a box; the sides of the box belong to it. -/
structure Box.Contains (box : Box K) (point : Point K) : Prop where
  left : box.min.x ≤ point.x
  right : point.x ≤ box.max.x
  bottom : box.min.y ≤ point.y
  top : point.y ≤ box.max.y

end Points

namespace Exact

section Distances

variable [NumberText]

/-! ### Intervals -/

section Intervals

variable {low high low' high' : Exact}

theorem separation_nonneg (low high low' high' : Exact) :
    0 ≤ (Box.separation low high low' high').value := by
  rw [value_separation]
  exact le_max_right _ _

/-- Numbers of two intervals are at least as far from each other as the intervals are. -/
theorem separation_le_abs {a b : Exact} (above : low ≤ a) (below : a ≤ high) (above' : low' ≤ b)
    (below' : b ≤ high') : (Box.separation low high low' high').value ≤ |a.value - b.value| := by
  rw [le_iff] at above below above' below'
  rw [value_separation]
  refine max_le (max_le ?_ ?_) (abs_nonneg _)
  · calc low.value - high'.value ≤ a.value - b.value := by linarith
      _ ≤ |a.value - b.value| := le_abs_self _
  · calc low'.value - high.value ≤ -(a.value - b.value) := by linarith
      _ ≤ |a.value - b.value| := neg_le_abs _

/-- **The nearest numbers of two intervals** are as far from each other as the intervals are. -/
theorem exists_nearest (ordered : low ≤ high) (ordered' : low' ≤ high') :
    ∃ a b : Exact, (low ≤ a ∧ a ≤ high) ∧ (low' ≤ b ∧ b ≤ high') ∧
      |a.value - b.value| = (Box.separation low high low' high').value := by
  simp only [le_iff] at *
  rw [value_separation]
  -- the first interval lies after the second, or before it, or they meet at the larger lower end
  rcases lt_or_ge high'.value low.value with after | reaches
  · refine ⟨low, high', ⟨le_rfl, ordered⟩, ⟨ordered', le_rfl⟩, ?_⟩
    rw [abs_of_pos (by linarith), max_eq_left (a := low.value - high'.value) (by linarith),
      max_eq_left (by linarith)]
  · rcases lt_or_ge high.value low'.value with before | reaches'
    · refine ⟨high, low', ⟨ordered, le_rfl⟩, ⟨le_rfl, ordered'⟩, ?_⟩
      rw [abs_sub_comm, abs_of_pos (by linarith),
        max_eq_right (a := low.value - high'.value) (by linarith), max_eq_left (by linarith)]
    · refine ⟨greater low low', greater low low', ⟨?_, ?_⟩, ⟨?_, ?_⟩, ?_⟩
      · rw [value_greater]
        exact le_max_left _ _
      · rw [value_greater]
        exact max_le ordered reaches'
      · rw [value_greater]
        exact le_max_right _ _
      · rw [value_greater]
        exact max_le reaches ordered'
      · rw [sub_self, abs_zero, max_eq_right (max_le (by linarith) (by linarith))]

/-- Intervals have no separation exactly if each begins before the other one ends. -/
theorem separation_eq_zero_iff :
    (Box.separation low high low' high').value = 0 ↔ low ≤ high' ∧ low' ≤ high := by
  rw [value_separation, max_eq_right_iff, max_le_iff, sub_nonpos, sub_nonpos, le_iff, le_iff]

/-- Widening an interval does not take it farther away. -/
theorem separation_widened_le (low high low' high' lowest highest : Exact) :
    (Box.separation (lesser low lowest) (greater high highest) low' high').value ≤
      (Box.separation low high low' high').value := by
  rw [value_separation, value_separation, value_lesser, value_greater]
  refine max_le_max (max_le_max ?_ ?_) le_rfl
  · exact sub_le_sub_right (min_le_left _ _) _
  · exact sub_le_sub_left (le_max_left _ _) _

end Intervals

/-! ### Boxes -/

variable (a b c : Box Exact) (margin : Exact)

/-- The squares of the distances from the points of a box to those of another one. -/
def squaredDistances : Set ℝ :=
  {square | ∃ first second, a.Contains first ∧ b.Contains second ∧
    square = (first.x.value - second.x.value) ^ 2 + (first.y.value - second.y.value) ^ 2}

theorem gap_sq :
    (a.gap b).value ^ 2 = (Box.separation a.min.x a.max.x b.min.x b.max.x).value ^ 2 +
      (Box.separation a.min.y a.max.y b.min.y b.max.y).value ^ 2 := by
  rw [value_gap, Real.sq_sqrt (add_nonneg (sq_nonneg _) (sq_nonneg _))]

theorem meets_iff :
    a.meets b = true ↔
      (a.min.x ≤ b.max.x ∧ b.min.x ≤ a.max.x) ∧ a.min.y ≤ b.max.y ∧ b.min.y ≤ a.max.y := by
  simp only [Box.meets, Bool.and_eq_true, decide_eq_true_eq, and_assoc]

variable {a b}

/-- The square of the gap is a lower bound of the squared distances. -/
theorem gap_sq_le {square : ℝ} (distance : square ∈ squaredDistances a b) :
    (a.gap b).value ^ 2 ≤ square := by
  obtain ⟨first, second, inside, inside', rfl⟩ := distance
  have x := separation_le_abs inside.left inside.right inside'.left inside'.right
  have y := separation_le_abs inside.bottom inside.top inside'.bottom inside'.top
  rw [gap_sq, ← sq_abs (first.x.value - second.x.value),
    ← sq_abs (first.y.value - second.y.value)]
  exact add_le_add (pow_le_pow_left₀ (separation_nonneg ..) x 2)
    (pow_le_pow_left₀ (separation_nonneg ..) y 2)

/-- Two points are as far from each other as their boxes are. -/
theorem gap_sq_mem (ordered : a.IsOrdered) (ordered' : b.IsOrdered) :
    (a.gap b).value ^ 2 ∈ squaredDistances a b := by
  obtain ⟨x, x', ⟨left, right⟩, ⟨left', right'⟩, alongX⟩ := exists_nearest ordered.x ordered'.x
  obtain ⟨y, y', ⟨bottom, top⟩, ⟨bottom', top'⟩, alongY⟩ := exists_nearest ordered.y ordered'.y
  refine ⟨⟨x, y⟩, ⟨x', y'⟩, ⟨left, right, bottom, top⟩, ⟨left', right', bottom', top'⟩, ?_⟩
  rw [gap_sq, ← alongX, ← alongY, sq_abs, sq_abs]

variable (a b)

theorem gap_nonneg : 0 ≤ (a.gap b).value := by
  rw [value_gap]
  exact Real.sqrt_nonneg _

/-- **Boxes without a gap** are those that meet. -/
theorem gap_eq_zero_iff : (a.gap b).value = 0 ↔ a.meets b = true := by
  rw [← pow_eq_zero_iff two_ne_zero, gap_sq, add_eq_zero_iff_of_nonneg (sq_nonneg _) (sq_nonneg _),
    pow_eq_zero_iff two_ne_zero, pow_eq_zero_iff two_ne_zero, separation_eq_zero_iff,
    separation_eq_zero_iff, meets_iff]

/-- **Joining a box to another one** does not take it farther away. -/
theorem gap_joined_le : (a.joined c).gap b ≤ a.gap b := by
  rw [le_iff, ← pow_le_pow_iff_left₀ (gap_nonneg _ _) (gap_nonneg _ _) two_ne_zero, gap_sq, gap_sq]
  exact add_le_add
    (pow_le_pow_left₀ (separation_nonneg ..) (separation_widened_le a.min.x a.max.x ..) 2)
    (pow_le_pow_left₀ (separation_nonneg ..) (separation_widened_le a.min.y a.max.y ..) 2)

variable {a b margin}

/-- **Boxes no farther apart than a margin** meet when one of them is grown by it. -/
theorem grown_meets_of_gap_le (near : a.gap b ≤ margin) : (a.grown margin).meets b = true := by
  rw [le_iff] at near
  obtain ⟨alongX, alongY⟩ := separation_le_gap a b
  rw [value_separation] at alongX alongY
  obtain ⟨beforeX, afterX⟩ := max_le_iff.mp ((le_max_left _ _).trans (alongX.trans near))
  obtain ⟨beforeY, afterY⟩ := max_le_iff.mp ((le_max_left _ _).trans (alongY.trans near))
  simp only [meets_iff, Box.grown, le_iff, value_sub, value_add]
  refine ⟨⟨?_, ?_⟩, ?_, ?_⟩ <;> linarith

/-- **The gap of boxes is their distance.** For boxes whose corners are in order:

* The square of the gap is the least square of a distance between points of the boxes, and the gap
  is not negative.
* The gap is the same from both sides, and it is zero exactly if the boxes meet.
* Joining either box to any other one does not widen it.
* A box grown by at least the gap meets the other one. -/
theorem gap_is_least_distance (ordered : a.IsOrdered) (ordered' : b.IsOrdered) :
    (IsLeast (squaredDistances a b) ((a.gap b).value ^ 2) ∧ 0 ≤ (a.gap b).value) ∧
      (a.gap b = b.gap a ∧ ((a.gap b).value = 0 ↔ a.meets b = true)) ∧
      (∀ c, (a.joined c).gap b ≤ a.gap b ∧ a.gap (b.joined c) ≤ a.gap b) ∧
      ∀ margin, a.gap b ≤ margin → (a.grown margin).meets b = true := by
  refine ⟨⟨⟨gap_sq_mem ordered ordered', fun _ => gap_sq_le⟩, gap_nonneg a b⟩,
    ⟨gap_comm a b, gap_eq_zero_iff a b⟩, fun c => ⟨gap_joined_le a b c, ?_⟩,
    fun margin => grown_meets_of_gap_le⟩
  rw [gap_comm a, gap_comm a]
  exact gap_joined_le b a c

end Distances

/-- Numbers of which nothing is written. -/
@[reducible]
def unwritten : NumberText := ⟨fun _ => "", fun _ _ => ""⟩

/-- A box of ten by ten. -/
def lowerBox : Box Exact := ⟨⟨⟨0⟩, ⟨0⟩⟩, ⟨⟨10⟩, ⟨10⟩⟩⟩

/-- A box to the right of the other one, and above it. -/
def upperBox : Box Exact := ⟨⟨⟨13⟩, ⟨14⟩⟩, ⟨⟨20⟩, ⟨20⟩⟩⟩

/-- Boxes that neither of the axes joins are five apart, from corner to corner. -/
theorem gap_is_least_distance_of_corners :
    letI := unwritten
    (lowerBox.gap upperBox).value = 5 ∧ IsLeast (squaredDistances lowerBox upperBox) 25 ∧
      (lowerBox.grown ⟨5⟩).meets upperBox = true := by
  let _ : NumberText := unwritten
  have ordered : lowerBox.IsOrdered :=
    ⟨show (0 : ℝ) ≤ 10 by norm_num, show (0 : ℝ) ≤ 10 by norm_num⟩
  have ordered' : upperBox.IsOrdered :=
    ⟨show (13 : ℝ) ≤ 20 by norm_num, show (14 : ℝ) ≤ 20 by norm_num⟩
  have gap : (lowerBox.gap upperBox).value = 5 := by
    rw [value_gap, value_separation, value_separation, Real.sqrt_eq_iff_mul_self_eq_of_pos]
    all_goals norm_num [lowerBox, upperBox]
  obtain ⟨⟨least, -⟩, -, -, grown⟩ := gap_is_least_distance ordered ordered'
  refine ⟨gap, ?_, grown ⟨5⟩ gap.le⟩
  rw [gap] at least
  norm_num at least
  exact least

end Exact

end DesignRules

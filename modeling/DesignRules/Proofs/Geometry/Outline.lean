/-
**The area of an outline does not depend on how the outline is written.**

Coordinates are real numbers here. A walk along points sweeps over an area with a sign, seen from
the origin; that of an outline is swept on a walk around it. Walks are put together from parts, so
the vertex from which an outline is written down does not matter, and points may be put in where
they change no part.

* `sweep`, `sweep_append_cons`, `sweep_reverse`, `sweep_shifted`: what walks sweep over.
* `enclosed`, `enclosed_append_comm`: what an outline encloses, from whichever vertex it is written.
* `value_area`: the area is half of it, also for fewer than three vertices.
* `area_of_rewritten_outline`: outlines that are written in different ways.
-/

import DesignRules.Geometry.Shape
import DesignRules.Proofs.Geometry.Exact
import Mathlib.Topology.UnitInterval

namespace DesignRules

open Scalar

/-! ### Points -/

/-- A point moved along a vector. -/
def Point.shifted {K : Type} [Scalar K] (point vector : Point K) : Point K :=
  ⟨point.x + vector.x, point.y + vector.y⟩

/-- The point between two points that divides their distance in a given share. -/
noncomputable def Point.between (first second : Point Exact) (share : unitInterval) : Point Exact :=
  ⟨⟨first.x.value + share * (second.x.value - first.x.value)⟩,
    ⟨first.y.value + share * (second.y.value - first.y.value)⟩⟩

/-- The corners of the rectangle over two opposite ones, around it from the first of these. -/
def corners {K : Type} (x₁ y₁ x₂ y₂ : K) : List (Point K) :=
  [⟨x₁, y₁⟩, ⟨x₂, y₁⟩, ⟨x₂, y₂⟩, ⟨x₁, y₂⟩]

namespace Exact

/-! ### Walks -/

/-- Twice the signed area between two points and the origin. -/
def turn (first second : Point Exact) : ℝ :=
  first.x.value * second.y.value - second.x.value * first.y.value

/-- Twice the signed area that is swept over on a walk, seen from the origin. -/
def sweep : List (Point Exact) → ℝ
  | first :: second :: rest => turn first second + sweep (second :: rest)
  | _ => 0

@[simp]
theorem sweep_cons_cons (first second : Point Exact) (rest : List (Point Exact)) :
    sweep (first :: second :: rest) = turn first second + sweep (second :: rest) := rfl

@[simp]
theorem sweep_singleton (point : Point Exact) : sweep [point] = 0 := rfl

/-- A walk through a point is a walk to it and one from it. -/
theorem sweep_append_cons (before : List (Point Exact)) (point : Point Exact)
    (after : List (Point Exact)) :
    sweep (before ++ point :: after) = sweep (before ++ [point]) + sweep (point :: after) := by
  induction before with
  | nil => rw [List.nil_append, List.nil_append, sweep_singleton, zero_add]
  | cons first rest ih =>
    cases rest with
    | nil => simp
    | cons second rest =>
      rw [List.cons_append, List.cons_append, sweep_cons_cons, ← List.cons_append, ih, ← add_assoc]
      rfl

theorem turn_comm (first second : Point Exact) : turn second first = -turn first second := by
  rw [turn, turn, neg_sub]

@[simp]
theorem turn_self (point : Point Exact) : turn point point = 0 := sub_self _

/-- A walk back undoes a walk. -/
theorem sweep_reverse (walk : List (Point Exact)) : sweep walk.reverse = -sweep walk := by
  induction walk with
  | nil => exact neg_zero.symm
  | cons first rest ih =>
    cases rest with
    | nil => exact neg_zero.symm
    | cons second rest =>
      rw [List.reverse_cons, List.reverse_cons, List.append_assoc, List.singleton_append,
        sweep_append_cons, ← List.reverse_cons, ih, sweep_cons_cons, sweep_singleton, turn_comm,
        sweep_cons_cons]
      ring

/-- A walk that is moved sweeps over what its ends have moved over, besides. -/
theorem sweep_shifted [NumberText] (vector first : Point Exact) (rest : List (Point Exact))
    (last : Point Exact) :
    sweep ((first :: rest ++ [last]).map fun point => point.shifted vector) =
      sweep (first :: rest ++ [last]) + (turn vector last - turn vector first) := by
  have moved (first second : Point Exact) :
      turn (first.shifted vector) (second.shifted vector) =
        turn first second + (turn vector second - turn vector first) := by
    simp only [turn, Point.shifted, value_add]
    ring
  induction rest generalizing first with
  | nil => simp [moved]
  | cons second rest ih =>
    have later := ih second
    simp only [List.cons_append, List.map_cons, sweep_cons_cons, moved] at later ⊢
    rw [later]
    ring

/-! ### Outlines -/

/-- Twice the signed area inside an outline. -/
def enclosed (outline : List (Point Exact)) : ℝ := sweep (outline ++ outline.take 1)

theorem enclosed_cons (first : Point Exact) (rest : List (Point Exact)) :
    enclosed (first :: rest) = sweep (first :: rest ++ [first]) := rfl

/-- **The vertex from which an outline is written** does not matter. -/
theorem enclosed_append_comm (front back : List (Point Exact)) :
    enclosed (front ++ back) = enclosed (back ++ front) := by
  cases front with
  | nil => rw [List.nil_append, List.append_nil]
  | cons first front =>
    cases back with
    | nil => rw [List.nil_append, List.append_nil]
    | cons middle back =>
      have around (first : Point Exact) (front : List (Point Exact)) (middle : Point Exact)
          (back : List (Point Exact)) :
          enclosed (first :: front ++ middle :: back) =
            sweep (first :: front ++ [middle]) + sweep (middle :: back ++ [first]) := by
        rw [List.cons_append, enclosed_cons, ← List.cons_append, List.append_assoc]
        exact sweep_append_cons (first :: front) middle (back ++ [first])
      rw [around, around, add_comm]

theorem enclosed_rotate (outline : List (Point Exact)) (places : Nat) :
    enclosed (outline.rotate places) = enclosed outline := by
  rw [List.rotate_eq_drop_append_take_mod, enclosed_append_comm, List.take_append_drop]

theorem enclosed_reverse (outline : List (Point Exact)) :
    enclosed outline.reverse = -enclosed outline := by
  cases outline with
  | nil => exact neg_zero.symm
  | cons first rest =>
    rw [List.reverse_cons, enclosed_append_comm, List.singleton_append, enclosed_cons,
      enclosed_cons, ← sweep_reverse]
    simp

theorem enclosed_shifted [NumberText] (outline : List (Point Exact)) (vector : Point Exact) :
    enclosed (outline.map fun point => point.shifted vector) = enclosed outline := by
  cases outline with
  | nil => rfl
  | cons first rest =>
    have moved := sweep_shifted vector first rest first
    rw [sub_self, add_zero] at moved
    rw [enclosed_cons, ← moved, List.map_cons, enclosed_cons]
    simp

/-- A vertex that is written twice encloses nothing more. -/
theorem enclosed_repeated (before : List (Point Exact)) (vertex : Point Exact)
    (after : List (Point Exact)) :
    enclosed (before ++ vertex :: vertex :: after) = enclosed (before ++ vertex :: after) := by
  rw [enclosed_append_comm, enclosed_append_comm before]
  simp only [List.cons_append, enclosed_cons, sweep_cons_cons, turn_self, zero_add]

/-- A walk between two points over a point between them sweeps over what the straight one does. -/
theorem turn_between (first second : Point Exact) (share : unitInterval) :
    turn first (first.between second share) + turn (first.between second share) second =
      turn first second := by
  simp only [turn, Point.between]
  ring

/-- A vertex on an edge encloses nothing more. -/
theorem enclosed_split (before : List (Point Exact)) (first second : Point Exact)
    (after : List (Point Exact)) (share : unitInterval) :
    enclosed (before ++ first :: first.between second share :: second :: after) =
      enclosed (before ++ first :: second :: after) := by
  rw [enclosed_append_comm, enclosed_append_comm before]
  simp only [List.cons_append, enclosed_cons, sweep_cons_cons]
  rw [← add_assoc, turn_between]

/-- A vertex on the edge that closes an outline encloses nothing more. -/
theorem enclosed_split_last (first : Point Exact) (middle : List (Point Exact)) (last : Point Exact)
    (share : unitInterval) :
    enclosed (first :: middle ++ [last, last.between first share]) =
      enclosed (first :: middle ++ [last]) := by
  rw [enclosed_append_comm, enclosed_append_comm (first :: middle)]
  exact enclosed_split [] last first middle share

/-! ### Areas -/

/-- Fewer than three vertices enclose nothing. -/
theorem enclosed_of_length_lt {outline : List (Point Exact)} (few : outline.length < 3) :
    enclosed outline = 0 := by
  match outline, few with
  | [], _ => rfl
  | [vertex], _ => simp [enclosed]
  | [first, second], _ => simp [enclosed, turn_comm first second]

theorem sum_turns (first : Point Exact) (rest : List (Point Exact)) (last : Point Exact) :
    (((first :: rest).zip (rest ++ [last])).map fun edge => turn edge.1 edge.2).sum =
      sweep (first :: rest ++ [last]) := by
  induction rest generalizing first with
  | nil => simp
  | cons second rest ih =>
    rw [List.cons_append, List.zip_cons_cons, List.map_cons, List.sum_cons, ih]
    rfl

section Areas

variable [NumberText]

/-- **The area** inside an outline, whatever the number of its vertices. -/
theorem value_area (layer : LayerId) (outline : List (Point Exact)) :
    (Polygon.area ⟨layer, outline⟩).value = |enclosed outline| / 2 := by
  have total : (total ((Polygon.edges ⟨layer, outline⟩).map Polygon.cross)).value =
      enclosed outline := by
    rw [value_total, List.map_map]
    cases outline with
    | nil => rfl
    | cons first rest => exact sum_turns first rest first
  unfold Polygon.area
  split
  · rename_i few
    rw [enclosed_of_length_lt few, value_zero, abs_zero, zero_div]
  · rw [value_div, value_magnitude, total, value_two]

theorem area_congr {outline outline' : List (Point Exact)}
    (same : |enclosed outline| = |enclosed outline'|) (layer : LayerId) :
    Polygon.area ⟨layer, outline⟩ = Polygon.area ⟨layer, outline'⟩ := by
  rw [Exact.ext_iff, value_area, value_area, same]

/-- The area over opposite corners, which may be given in any order. -/
theorem value_area_ofCorners (layer : LayerId) (x₁ y₁ x₂ y₂ : Exact) :
    (Rectangle.ofCorners layer x₁ y₁ x₂ y₂).area.value =
      |x₁.value - x₂.value| * |y₁.value - y₂.value| := by
  simp only [Rectangle.area, Rectangle.width, Rectangle.height, Rectangle.ofCorners, value_mul,
    value_sub, value_greater, value_lesser, max_sub_min_eq_abs']

theorem area_corners (layer : LayerId) (x₁ y₁ x₂ y₂ : Exact) :
    Polygon.area ⟨layer, corners x₁ y₁ x₂ y₂⟩ = (Rectangle.ofCorners layer x₁ y₁ x₂ y₂).area := by
  have twice : enclosed (corners x₁ y₁ x₂ y₂) =
      2 * ((x₁.value - x₂.value) * (y₁.value - y₂.value)) := by
    simp only [corners, enclosed, List.take, List.cons_append, List.nil_append, sweep_cons_cons,
      sweep_singleton, turn]
    ring
  rw [Exact.ext_iff, value_area, value_area_ofCorners, twice, abs_mul, abs_two, abs_mul,
    mul_div_cancel_left₀ _ two_ne_zero]

/-- **The area does not depend on how an outline is written.** It is not negative, and it is the
same from whichever vertex the outline is written and in whichever direction, wherever the outline
lies, with a vertex written twice, and with a vertex put on an edge, which may be the closing one.
Around a rectangle, from whichever corner and in whichever direction, it is that of the rectangle
over two opposite corners. -/
theorem area_of_rewritten_outline (layer : LayerId) :
    (∀ outline : List (Point Exact), 0 ≤ (Polygon.area ⟨layer, outline⟩).value ∧
      (∀ places, Polygon.area ⟨layer, outline.rotate places⟩ = Polygon.area ⟨layer, outline⟩) ∧
      Polygon.area ⟨layer, outline.reverse⟩ = Polygon.area ⟨layer, outline⟩ ∧
      ∀ vector : Point Exact, Polygon.area ⟨layer, outline.map fun point => point.shifted vector⟩ =
        Polygon.area ⟨layer, outline⟩) ∧
    (∀ (before : List (Point Exact)) (vertex : Point Exact) (after : List (Point Exact)),
      Polygon.area ⟨layer, before ++ vertex :: vertex :: after⟩ =
        Polygon.area ⟨layer, before ++ vertex :: after⟩) ∧
    (∀ (before : List (Point Exact)) (first second : Point Exact) (after : List (Point Exact))
        (share : unitInterval),
      Polygon.area ⟨layer, before ++ first :: first.between second share :: second :: after⟩ =
        Polygon.area ⟨layer, before ++ first :: second :: after⟩) ∧
    (∀ (first : Point Exact) (middle : List (Point Exact)) (last : Point Exact)
        (share : unitInterval),
      Polygon.area ⟨layer, first :: middle ++ [last, last.between first share]⟩ =
        Polygon.area ⟨layer, first :: middle ++ [last]⟩) ∧
    ∀ (x₁ y₁ x₂ y₂ : Exact) (places : Nat),
      Polygon.area ⟨layer, (corners x₁ y₁ x₂ y₂).rotate places⟩ =
          (Rectangle.ofCorners layer x₁ y₁ x₂ y₂).area ∧
        Polygon.area ⟨layer, (corners x₁ y₁ x₂ y₂).reverse.rotate places⟩ =
          (Rectangle.ofCorners layer x₁ y₁ x₂ y₂).area := by
  have rotated (outline : List (Point Exact)) (places : Nat) :
      Polygon.area ⟨layer, outline.rotate places⟩ = Polygon.area ⟨layer, outline⟩ :=
    area_congr (by rw [enclosed_rotate]) layer
  have reversed (outline : List (Point Exact)) :
      Polygon.area ⟨layer, outline.reverse⟩ = Polygon.area ⟨layer, outline⟩ :=
    area_congr (by rw [enclosed_reverse, abs_neg]) layer
  refine ⟨fun outline => ⟨?_, rotated outline, reversed outline, fun vector => ?_⟩,
    fun before vertex after => ?_, fun before first second after share => ?_,
    fun first middle last share => ?_, fun x₁ y₁ x₂ y₂ places => ⟨?_, ?_⟩⟩
  · rw [value_area]
    exact div_nonneg (abs_nonneg _) zero_le_two
  · exact area_congr (by rw [enclosed_shifted]) layer
  · exact area_congr (by rw [enclosed_repeated]) layer
  · exact area_congr (by rw [enclosed_split]) layer
  · exact area_congr (by rw [enclosed_split_last]) layer
  · rw [rotated, area_corners]
  · rw [rotated, reversed, area_corners]

end Areas

end Exact

end DesignRules

/-
**The order of binary64 numbers.**

A number that is equal to itself has a place on a line: the negative numbers in the falling order of
their exponents and mantissas, then both zeros, then the positive ones. The comparisons of numbers
are those of their places, and none of them holds where a number has no place.

* `Standing`, `standing`: the places, and the place of a number.
* `lt_iff_standing`, `le_iff_standing`, `beq_iff_standing`: what the comparisons compare.
-/

import DesignRules.Decimal.Scalar
import Mathlib.Data.Prod.Lex
import Mathlib.Order.Compare

namespace DesignRules.Decimal

open Float.Model (UnpackedFloat)

/-! ### Places -/

/-- A place of a number: first by sign and infinity, then by exponent, then by mantissa. -/
abbrev Standing : Type := Int ×ₗ Int ×ₗ Int

/-- The place with some parts. -/
def Standing.of (part exponent mantissa : Int) : Standing :=
  toLex (part, toLex (exponent, mantissa))

theorem Standing.compare_of (part exponent mantissa part' exponent' mantissa' : Int) :
    compare (Standing.of part exponent mantissa) (Standing.of part' exponent' mantissa') =
      (compare part part').then
        ((compare exponent exponent').then (compare mantissa mantissa')) := by
  simp [Prod.Lex.compare_def, compareLex, compareOn, Standing.of]

theorem Standing.compare_of_part (part exponent mantissa exponent' mantissa' : Int) :
    compare (Standing.of part exponent mantissa) (Standing.of part exponent' mantissa') =
      (compare exponent exponent').then (compare mantissa mantissa') := by
  rw [Standing.compare_of, compare_eq_iff_eq.mpr rfl, Ordering.eq_then]

/-- The place of an unpacked number; one that is not a number gets that of the zeros. -/
def unpackedStanding : UnpackedFloat → Standing
  | .infinity .negative => .of (-2) 0 0
  | .finite .negative mantissa exponent _ => .of (-1) (-exponent) (-mantissa)
  | .zero _ => .of 0 0 0
  | .notANumber => .of 0 0 0
  | .finite .positive mantissa exponent _ => .of 1 exponent mantissa
  | .infinity .positive => .of 2 0 0

/-! ### Comparisons -/

theorem compare_natCast (a b : Nat) : compare (a : Int) b = compare a b := by
  have rises : StrictMono fun a : Nat => (a : Int) := fun _ _ => Int.ofNat_lt.mpr
  rw [← cmp_eq_compare, ← cmp_eq_compare]
  exact rises.cmp_map_eq a b

theorem compare_neg (a b : Int) : compare (-a) (-b) = (compare a b).swap := by
  have falls : StrictAnti fun a : Int => -a := fun _ _ => Int.neg_lt_neg
  rw [← cmp_eq_compare, ← cmp_eq_compare, cmp_swap]
  exact falls.cmp_map_eq a b

/-- Finite numbers of one sign. -/
theorem compare_finite (sign : UnpackedFloat.Sign) {mantissa mantissa' : Nat}
    (exponent exponent' : Int) (positive : 0 < mantissa) (positive' : 0 < mantissa') :
    (UnpackedFloat.finite sign mantissa exponent positive).compare
        (.finite sign mantissa' exponent' positive') =
      some (compare (unpackedStanding (.finite sign mantissa exponent positive))
        (unpackedStanding (.finite sign mantissa' exponent' positive'))) := by
  cases sign with
  | positive =>
    show _ = some (compare (Standing.of 1 exponent mantissa) (.of 1 exponent' mantissa'))
    rw [Standing.compare_of_part, compare_natCast]
    rfl
  | negative =>
    show _ = some (compare (Standing.of (-1) (-exponent) (-mantissa))
      (.of (-1) (-exponent') (-mantissa')))
    rw [Standing.compare_of_part, compare_neg, compare_neg, compare_natCast, ← Ordering.swap_then]
    rfl

/-- **Numbers compare as their places.** -/
theorem compare_eq {a b : UnpackedFloat} (left : a.isNaN = false) (right : b.isNaN = false) :
    a.compare b = some (compare (unpackedStanding a) (unpackedStanding b)) := by
  cases a with
  | notANumber => cases left
  | infinity sign =>
    cases b with
    | notANumber => cases right
    | infinity sign' => cases sign <;> cases sign' <;> rfl
    | zero sign' => cases sign <;> rfl
    | finite sign' => cases sign <;> cases sign' <;> rfl
  | zero sign =>
    cases b with
    | notANumber => cases right
    | infinity sign' => cases sign' <;> rfl
    | zero sign' => rfl
    | finite sign' => cases sign' <;> rfl
  | finite sign mantissa exponent positive =>
    cases b with
    | notANumber => cases right
    | infinity sign' => cases sign <;> cases sign' <;> rfl
    | zero sign' => cases sign <;> rfl
    | finite sign' mantissa' exponent' positive' =>
      cases sign with
      | negative =>
        cases sign' with
        | negative => exact compare_finite .negative exponent exponent' positive positive'
        | positive => rfl
      | positive =>
        cases sign' with
        | negative => rfl
        | positive => exact compare_finite .positive exponent exponent' positive positive'

theorem compare_eq_none {a b : UnpackedFloat} (missing : a.isNaN = true ∨ b.isNaN = true) :
    a.compare b = none := by
  rcases missing with left | right
  · cases a with
    | notANumber => rfl
    | _ => cases left
  · cases b with
    | notANumber => cases a <;> rfl
    | _ => cases right

/-! ### Binary64 numbers -/

/-- The place of a number. -/
def standing (a : Float) : Standing := unpackedStanding a.toModel.unpack

variable {a b c : Float}

/-- A number that differs from itself is one without a place. -/
theorem isNaN_eq (a : Float) : Scalar.isNaN a = a.toModel.unpack.isNaN := by
  have unfolded : Scalar.isNaN a =
      !(a.toModel.unpack.compare a.toModel.unpack == some .eq) := rfl
  rw [unfolded]
  cases numeric : a.toModel.unpack.isNaN with
  | false =>
    rw [compare_eq numeric numeric, compare_eq_iff_eq.mpr rfl]
    rfl
  | true =>
    rw [compare_eq_none (.inl numeric)]
    rfl

theorem lt_iff_compare :
    a < b ↔ (a.toModel.unpack.compare b.toModel.unpack == some .lt) = true :=
  decide_eq_true_iff

/-- **The strict order of numbers is that of their places.** -/
theorem lt_iff_standing (left : Scalar.isNaN a = false) (right : Scalar.isNaN b = false) :
    a < b ↔ standing a < standing b := by
  rw [isNaN_eq] at left right
  rw [lt_iff_compare, compare_eq left right, beq_iff_eq, Option.some.injEq]
  exact compare_lt_iff_lt

theorem le_iff_standing (left : Scalar.isNaN a = false) (right : Scalar.isNaN b = false) :
    a ≤ b ↔ standing a ≤ standing b := by
  rw [isNaN_eq] at left right
  have unfolded : a ≤ b ↔
      (a.toModel.unpack.compare b.toModel.unpack).any Ordering.isLE = true := decide_eq_true_iff
  rw [unfolded, compare_eq left right]
  exact Ordering.isLE_iff_ne_gt.trans compare_le_iff_le

theorem beq_iff_standing (left : Scalar.isNaN a = false) (right : Scalar.isNaN b = false) :
    (a == b) = true ↔ standing a = standing b := by
  rw [isNaN_eq] at left right
  have unfolded : (a == b) = (a.toModel.unpack.compare b.toModel.unpack == some .eq) := rfl
  rw [unfolded, compare_eq left right, beq_iff_eq, Option.some.injEq]
  exact compare_eq_iff_eq

/-- A number below another one has a place, and so has the other one. -/
theorem numbers_of_lt (below : a < b) : Scalar.isNaN a = false ∧ Scalar.isNaN b = false := by
  rw [lt_iff_compare] at below
  rw [isNaN_eq, isNaN_eq, ← Bool.not_eq_true, ← Bool.not_eq_true, ← not_or]
  intro missing
  rw [compare_eq_none missing] at below
  cases below

theorem standing_lt_of_lt (below : a < b) : standing a < standing b :=
  (lt_iff_standing (numbers_of_lt below).1 (numbers_of_lt below).2).mp below

theorem not_lt_self (a : Float) : ¬ a < a := fun below => lt_irrefl _ (standing_lt_of_lt below)

theorem lt_of_lt_of_lt (first : a < b) (second : b < c) : a < c := by
  rw [lt_iff_standing (numbers_of_lt first).1 (numbers_of_lt second).2]
  exact lt_trans (standing_lt_of_lt first) (standing_lt_of_lt second)

theorem not_lt_iff_le (left : Scalar.isNaN a = false) (right : Scalar.isNaN b = false) :
    ¬ a < b ↔ b ≤ a := by
  rw [lt_iff_standing left right, le_iff_standing right left, not_lt]

theorem lt_of_le_of_lt_of_number (number : Scalar.isNaN a = false) (below : a ≤ b)
    (strictly : b < c) : a < c := by
  obtain ⟨middle, right⟩ := numbers_of_lt strictly
  rw [le_iff_standing number middle] at below
  rw [lt_iff_standing number right]
  exact lt_of_le_of_lt below (standing_lt_of_lt strictly)

theorem lt_of_lt_of_le_of_number (number : Scalar.isNaN c = false) (strictly : a < b)
    (below : b ≤ c) : a < c := by
  obtain ⟨left, middle⟩ := numbers_of_lt strictly
  rw [le_iff_standing middle number] at below
  rw [lt_iff_standing left number]
  exact lt_of_lt_of_le (standing_lt_of_lt strictly) below

/-- Whether two numbers are equal does not depend on their order. -/
theorem beq_comm (a b : Float) : (a == b) = (b == a) := by
  have unfolded (a b : Float) :
      (a == b) = (a.toModel.unpack.compare b.toModel.unpack == some .eq) := rfl
  by_cases missing : a.toModel.unpack.isNaN = true ∨ b.toModel.unpack.isNaN = true
  · rw [unfolded, unfolded, compare_eq_none missing, compare_eq_none missing.symm]
  · rw [not_or, Bool.not_eq_true, Bool.not_eq_true, ← isNaN_eq, ← isNaN_eq] at missing
    rw [Bool.eq_iff_iff, beq_iff_standing missing.1 missing.2, beq_iff_standing missing.2 missing.1]
    exact eq_comm

theorem beq_eq_false_of_lt (below : a < b) : (a == b) = false := by
  rw [← Bool.not_eq_true, beq_iff_standing (numbers_of_lt below).1 (numbers_of_lt below).2]
  exact ne_of_lt (standing_lt_of_lt below)

theorem beq_eq_false_of_gt (above : b < a) : (a == b) = false := by
  rw [← Bool.not_eq_true, beq_iff_standing (numbers_of_lt above).2 (numbers_of_lt above).1]
  exact ne_of_gt (standing_lt_of_lt above)

end DesignRules.Decimal

/-
**The number with 53 bits that is nearest to a rational one.**

Rounding drops bits of a mantissa and remembers whether what is dropped lies below, at or above one
half. What is left is the nearest integer, the even one of two, and no binary64 number lies between
the integers that have been told apart: where mantissas are full, those of smaller exponents lie
below the least of them.

* `IsRounded`, `Located`, `Located.isRounded`: nearest integers, and what is remembered of dropped
  bits.
* `OnGrid`, `IsClosest`, `isClosest_of_isRounded`: the numbers with 53 bits, and the nearest one.
* `RoundsTo`, `roundsTo_roundWithAccuracy`: what a rational number is rounded to.
* `roundsTo_div`, `roundsTo_mul`, `roundsTo_ofScientific`: quotients, products and decimal numbers.
-/

import DesignRules.Proofs.Decimal.Signs

namespace DesignRules.Decimal

open Float.Model (UnpackedFloat)
open Float.Model.UnpackedFloat (Accuracy ExtendedMantissa accuracyOfFraction roundWithAccuracy
  shiftToTargetExponent)

/-! ### Nearest integers -/

/-- Whether a natural number is nearest to a rational one, and even if it is not alone. -/
structure IsRounded (x : ℚ) (n : Nat) : Prop where
  near : |x - n| ≤ 1 / 2
  even : |x - n| = 1 / 2 → n % 2 = 0

namespace IsRounded

variable {x : ℚ} {n : Nat}

/-- Another integer is one away at least, so that both cannot be nearer than one half. -/
theorem one_le_add {k : ℤ} (other : k ≠ n) : 1 ≤ |x - n| + |x - k| := by
  have apart : (1 : ℚ) ≤ |(k : ℚ) - n| := by
    exact_mod_cast Int.one_le_abs (sub_ne_zero.mpr other)
  calc (1 : ℚ) ≤ |(k : ℚ) - n| := apart
    _ = |(x - n) - (x - k)| := by rw [sub_sub_sub_cancel_left]
    _ ≤ |x - n| + |x - k| := abs_sub _ _

theorem le (rounded : IsRounded x n) (k : ℤ) : |x - n| ≤ |x - k| := by
  have near := rounded.near
  by_cases same : k = n
  · rw [same, Int.cast_natCast]
  · linarith [one_le_add (x := x) same]

theorem eq_or_even (rounded : IsRounded x n) {k : ℤ} (tie : |x - n| = |x - k|) :
    k = n ∨ n % 2 = 0 := by
  by_cases same : k = n
  · exact .inl same
  · have near := rounded.near
    have far := one_le_add (x := x) same
    exact .inr (rounded.even (by linarith))

/-- Rounding does not pass an integer. -/
theorem le_of_lt (rounded : IsRounded x n) {k : Nat} (below : x < k) : n ≤ k := by
  by_contra passed
  have apart : (k : ℚ) + 1 ≤ n := by exact_mod_cast not_le.mp passed
  have near := (abs_le.mp rounded.near).1
  linarith

theorem le_of_le (rounded : IsRounded x n) {k : Nat} (above : (k : ℚ) ≤ x) : k ≤ n := by
  by_contra passed
  have apart : (n : ℚ) + 1 ≤ k := by exact_mod_cast not_le.mp passed
  have near := (abs_le.mp rounded.near).2
  linarith

end IsRounded

/-! ### Dropped bits -/

/-- Whether a mantissa with two further bits tells where a number lies. -/
structure Located (x : ℚ) (extended : ExtendedMantissa) : Prop where
  low : extended.mantissa ≤ x
  high : x < extended.mantissa + 1
  round : extended.roundBit = true ↔ (extended.mantissa : ℚ) + 1 / 2 ≤ x
  sticky : extended.stickyBit = true ↔ x ≠ extended.mantissa ∧ x ≠ extended.mantissa + 1 / 2

theorem mantissa_ofMantissaAndAccuracy (mantissa : Nat) (accuracy : Accuracy) :
    (ExtendedMantissa.ofMantissaAndAccuracy mantissa accuracy).mantissa = mantissa := by
  cases accuracy with
  | exact => rfl
  | inexact order => cases order <;> rfl

namespace Located

variable {x : ℚ} {extended : ExtendedMantissa}

theorem exact (mantissa : Nat) : Located mantissa (.ofMantissaAndAccuracy mantissa .exact) := by
  refine ⟨le_rfl, lt_add_one _, iff_of_false Bool.false_ne_true ?_,
    iff_of_false Bool.false_ne_true ?_⟩
  · exact not_le.mpr (lt_add_of_pos_right _ one_half_pos)
  · exact fun other => other.1 rfl

/-- Of a fraction it is remembered how it compares with one half. -/
theorem fraction (mantissa : Nat) {part whole : Nat} (less : part < whole) :
    Located (mantissa + part / whole)
      (.ofMantissaAndAccuracy mantissa (accuracyOfFraction part whole)) := by
  have positive : (0 : ℚ) < whole := by exact_mod_cast Nat.zero_lt_of_lt less
  have half : (1 / 2 : ℚ) ≤ part / whole ↔ whole ≤ 2 * part := by
    rw [div_le_div_iff₀ two_pos positive, one_mul, mul_comm]
    exact_mod_cast Iff.rfl
  have even : (part / whole : ℚ) = 1 / 2 ↔ 2 * part = whole := by
    rw [div_eq_div_iff positive.ne' two_ne_zero, one_mul, mul_comm]
    exact_mod_cast Iff.rfl
  have none : (part / whole : ℚ) = 0 ↔ part = 0 := by
    rw [div_eq_zero_iff, or_iff_left positive.ne', Nat.cast_eq_zero]
  have low : (0 : ℚ) ≤ part / whole := div_nonneg (Nat.cast_nonneg _) positive.le
  have high : (part / whole : ℚ) < 1 := (div_lt_one positive).mpr (by exact_mod_cast less)
  have mantissa_eq := mantissa_ofMantissaAndAccuracy mantissa
  refine ⟨?_, ?_, ?_, ?_⟩
  · rw [mantissa_eq]
    exact le_add_of_nonneg_right low
  · rw [mantissa_eq]
    exact (add_lt_add_iff_left _).mpr high
  · rw [mantissa_eq, add_le_add_iff_left, half, accuracyOfFraction]
    by_cases zero : part = 0
    · rw [if_pos zero]
      exact iff_of_false Bool.false_ne_true (by omega)
    · rw [if_neg zero]
      cases order : compare (2 * part) whole with
      | lt =>
        rw [compare_lt_iff_lt] at order
        exact iff_of_false Bool.false_ne_true (by omega)
      | eq =>
        rw [compare_eq_iff_eq] at order
        exact iff_of_true rfl (by omega)
      | gt =>
        rw [compare_gt_iff_gt] at order
        exact iff_of_true rfl (by omega)
  · rw [mantissa_eq, ne_eq, ne_eq, add_eq_left, add_right_inj, none, even, accuracyOfFraction]
    by_cases zero : part = 0
    · rw [if_pos zero]
      exact iff_of_false Bool.false_ne_true (fun other => other.1 zero)
    · rw [if_neg zero]
      cases order : compare (2 * part) whole with
      | lt =>
        rw [compare_lt_iff_lt] at order
        exact iff_of_true rfl ⟨zero, by omega⟩
      | eq =>
        rw [compare_eq_iff_eq] at order
        exact iff_of_false Bool.false_ne_true (fun other => other.2 order)
      | gt =>
        rw [compare_gt_iff_gt] at order
        exact iff_of_true rfl ⟨zero, by omega⟩

/-- Dropping a bit halves a number. -/
theorem shiftRightOne (located : Located x extended) :
    Located (x / 2) extended.shiftRightOne := by
  obtain ⟨mantissa, round, sticky⟩ := extended
  obtain ⟨low, high, atHalf, inside⟩ := located
  simp only at low high atHalf inside
  have parts : (mantissa : ℚ) = 2 * (mantissa / 2 : Nat) + (mantissa % 2 : Nat) := by
    exact_mod_cast (Nat.div_add_mod mantissa 2).symm
  have drops : (round || sticky) = true ↔ x ≠ mantissa := by
    rw [Bool.or_eq_true, atHalf, inside]
    constructor
    · rintro (above | other)
      · exact ne_of_gt (by linarith)
      · exact other.1
    · intro other
      by_cases middle : x = mantissa + 1 / 2
      · exact .inl middle.ge
      · exact .inr ⟨other, middle⟩
  rcases Nat.mod_two_eq_zero_or_one mantissa with last | last
  · rw [last, Nat.cast_zero, add_zero] at parts
    refine ⟨?_, ?_, ?_, ?_⟩
    · show ((mantissa / 2 : Nat) : ℚ) ≤ x / 2
      linarith
    · show x / 2 < (mantissa / 2 : Nat) + 1
      linarith
    · show (mantissa % 2 != 0) = true ↔ ((mantissa / 2 : Nat) : ℚ) + 1 / 2 ≤ x / 2
      rw [last]
      exact iff_of_false (by decide) (by linarith)
    · show (round || sticky) = true ↔
        x / 2 ≠ (mantissa / 2 : Nat) ∧ x / 2 ≠ (mantissa / 2 : Nat) + 1 / 2
      rw [drops, parts]
      constructor
      · exact fun other => ⟨fun same => other (by linarith), fun same => by linarith⟩
      · exact fun other same => other.1 (by linarith)
  · rw [last, Nat.cast_one] at parts
    refine ⟨?_, ?_, ?_, ?_⟩
    · show ((mantissa / 2 : Nat) : ℚ) ≤ x / 2
      linarith
    · show x / 2 < (mantissa / 2 : Nat) + 1
      linarith
    · show (mantissa % 2 != 0) = true ↔ ((mantissa / 2 : Nat) : ℚ) + 1 / 2 ≤ x / 2
      rw [last]
      exact iff_of_true rfl (by linarith)
    · show (round || sticky) = true ↔
        x / 2 ≠ (mantissa / 2 : Nat) ∧ x / 2 ≠ (mantissa / 2 : Nat) + 1 / 2
      rw [drops, parts]
      constructor
      · exact fun other => ⟨fun same => by linarith, fun same => other (by linarith)⟩
      · exact fun other same => other.2 (by linarith)

theorem shiftRight (located : Located x extended) (places : Nat) :
    Located (x / 2 ^ places) (extended >>> places) := by
  induction places with
  | zero =>
    rw [pow_zero, div_one]
    exact located
  | succ places ih =>
    rw [pow_succ, ← div_div]
    exact ih.shiftRightOne

/-- **The rounded mantissa** is nearest. -/
theorem isRounded (located : Located x extended) : IsRounded x extended.roundedMantissa := by
  obtain ⟨mantissa, round, sticky⟩ := extended
  obtain ⟨low, high, atHalf, inside⟩ := located
  simp only at low high atHalf inside
  cases round with
  | false =>
    have below : x < mantissa + 1 / 2 :=
      not_le.mp fun reached => absurd (atHalf.mpr reached) (by decide)
    have kept : (ExtendedMantissa.mk mantissa false sticky).roundedMantissa = mantissa := by
      cases sticky <;> rfl
    rw [kept]
    have less : |x - mantissa| < 1 / 2 := by
      rw [abs_of_nonneg (sub_nonneg.mpr low)]
      linarith
    exact ⟨less.le, fun same => absurd same less.ne⟩
  | true =>
    have reached := atHalf.mp rfl
    cases sticky with
    | false =>
      have middle : x = mantissa + 1 / 2 := by
        by_contra other
        exact absurd (inside.mpr ⟨ne_of_gt (by linarith), other⟩) (by decide)
      have even : (mantissa + mantissa % 2) % 2 = 0 := by omega
      refine ⟨?_, fun _ => even⟩
      show |x - (mantissa + mantissa % 2 : Nat)| ≤ 1 / 2
      rcases Nat.mod_two_eq_zero_or_one mantissa with last | last
      · rw [last, middle]
        norm_num
      · rw [last, middle]
        push_cast
        norm_num
    | true =>
      have above : (mantissa : ℚ) + 1 / 2 < x := lt_of_le_of_ne reached (inside.mp rfl).2.symm
      have less : |x - (mantissa + 1 : Nat)| < 1 / 2 := by
        push_cast
        rw [abs_sub_comm, abs_of_pos (by linarith)]
        linarith
      exact ⟨less.le, fun same => absurd same less.ne⟩

end Located

/-! ### The numbers with 53 bits -/

/-- Whether a rational number has at most 53 bits, none of them below the last place. -/
def OnGrid (x : ℚ) : Prop :=
  ∃ count exponent : ℤ, |count| < 2 ^ 53 ∧ -1074 ≤ exponent ∧ x = count * 2 ^ exponent

/-- Whether a number with 53 bits is nearest to a rational one, and has an even mantissa if it is
not alone. -/
structure IsClosest (x : ℚ) (mantissa : Nat) (exponent : ℤ) : Prop where
  le : ∀ {y : ℚ}, OnGrid y → |x - mantissa * 2 ^ exponent| ≤ |x - y|
  eq_or_even : ∀ {y : ℚ}, OnGrid y → |x - mantissa * 2 ^ exponent| = |x - y| →
    y = mantissa * 2 ^ exponent ∨ mantissa % 2 = 0

namespace OnGrid

variable {x y : ℚ} {exponent : ℤ}

/-- Measured in a unit of full mantissas, a number with 53 bits is an integer, or some integer is
nearer. -/
theorem exists_integer (onGrid : OnGrid y) (full : exponent = -1074 ∨ 2 ^ 52 ≤ x / 2 ^ exponent) :
    ∃ k : ℤ, |x / 2 ^ exponent - k| ≤ |x / 2 ^ exponent - y / 2 ^ exponent| ∧
      (|x / 2 ^ exponent - k| = |x / 2 ^ exponent - y / 2 ^ exponent| → y / 2 ^ exponent = k) := by
  obtain ⟨count, place, bits, least, rfl⟩ := onGrid
  have scale : (count * 2 ^ place / 2 ^ exponent : ℚ) = count * 2 ^ (place - exponent) := by
    rw [mul_div_assoc, ← zpow_sub₀ two_ne_zero]
  rw [scale]
  rcases le_or_gt exponent place with coarser | finer
  · have whole : (count * 2 ^ (place - exponent) : ℚ) =
        ((count * 2 ^ (place - exponent).toNat : ℤ) : ℚ) := by
      push_cast
      rw [← zpow_natCast, Int.toNat_of_nonneg (sub_nonneg.mpr coarser)]
    exact ⟨count * 2 ^ (place - exponent).toNat, by rw [whole], fun _ => whole⟩
  · -- the mantissas are full, and no number of a smaller unit reaches the least of them
    have reached := full.resolve_left (by omega)
    have small : (count * 2 ^ (place - exponent) : ℚ) < 2 ^ 52 := by
      calc (count * 2 ^ (place - exponent) : ℚ)
          ≤ |(count : ℚ)| * 2 ^ (-1 : ℤ) :=
            mul_le_mul (le_abs_self _) (zpow_le_zpow_right₀ one_le_two (by omega))
              (zpow_nonneg zero_le_two _) (abs_nonneg _)
        _ < 2 ^ 53 * 2 ^ (-1 : ℤ) :=
            (mul_lt_mul_iff_left₀ (zpow_pos two_pos _)).mpr (by exact_mod_cast bits)
        _ = 2 ^ 52 := by norm_num
    have nearer : |x / 2 ^ exponent - ((2 ^ 52 : ℤ) : ℚ)| <
        |x / 2 ^ exponent - count * 2 ^ (place - exponent)| := by
      rw [Int.cast_pow, Int.cast_ofNat, abs_of_nonneg (sub_nonneg.mpr reached),
        abs_of_pos (by linarith)]
      linarith
    exact ⟨2 ^ 52, nearer.le, fun same => absurd same nearer.ne⟩

end OnGrid

/-- **A nearest integer** in a unit of full mantissas is a nearest number with 53 bits. -/
theorem isClosest_of_isRounded {x : ℚ} {mantissa : Nat} {exponent : ℤ}
    (rounded : IsRounded (x / 2 ^ exponent) mantissa)
    (full : exponent = -1074 ∨ 2 ^ 52 ≤ x / 2 ^ exponent) : IsClosest x mantissa exponent := by
  have unit : (0 : ℚ) < 2 ^ exponent := zpow_pos two_pos _
  have distance (y : ℚ) : |x - y| = |x / 2 ^ exponent - y / 2 ^ exponent| * 2 ^ exponent := by
    rw [← sub_div, abs_div, abs_of_pos unit, div_mul_cancel₀ _ unit.ne']
  have own : (mantissa * 2 ^ exponent / 2 ^ exponent : ℚ) = mantissa :=
    mul_div_cancel_right₀ _ unit.ne'
  refine ⟨fun {y} onGrid => ?_, fun {y} onGrid tie => ?_⟩
  · obtain ⟨k, nearer, -⟩ := onGrid.exists_integer full
    rw [distance, distance y, own]
    exact (mul_le_mul_iff_left₀ unit).mpr ((rounded.le k).trans nearer)
  · obtain ⟨k, nearer, attained⟩ := onGrid.exists_integer full
    rw [distance, distance y, own] at tie
    replace tie := mul_right_cancel₀ unit.ne' tie
    have same : |x / 2 ^ exponent - mantissa| = |x / 2 ^ exponent - k| :=
      (rounded.le k).antisymm (nearer.trans tie.ge)
    rcases rounded.eq_or_even same with rfl | even
    · refine .inl ?_
      rw [← div_left_inj' unit.ne', own, attained (same.symm.trans tie), Int.cast_natCast]
    · exact .inr even

/-- A number with 53 bits is nearest to itself alone. -/
theorem IsClosest.eq_of_onGrid {x : ℚ} {mantissa : Nat} {exponent : ℤ}
    (closest : IsClosest x mantissa exponent) (onGrid : OnGrid x) :
    mantissa * 2 ^ exponent = x := by
  have zero := closest.le onGrid
  rw [sub_self, abs_zero] at zero
  exact (sub_eq_zero.mp (abs_nonpos_iff.mp zero)).symm

/-! ### Rounding -/

/-- A positive number by its mantissa and exponent, or zero. -/
def settled (mantissa : Nat) (exponent : Int) : UnpackedFloat :=
  if positive : 0 < mantissa then .finite .positive mantissa exponent positive
  else .zero .positive

/-- Whether an unpacked number is what a rational one is rounded to. -/
def RoundsTo (x : ℚ) (a : UnpackedFloat) : Prop :=
  ∃ (mantissa : Nat) (exponent : Int), a = settled mantissa exponent ∧
    IsCanonical (settled mantissa exponent) ∧ IsClosest x mantissa exponent

theorem isCanonical_settled {mantissa : Nat} {exponent : Int} (bits : mantissa < 2 ^ 53)
    (least : -1074 ≤ exponent) (full : 2 ^ 52 ≤ mantissa ∨ exponent = -1074) :
    IsCanonical (settled mantissa exponent) := by
  unfold settled
  split
  · exact ⟨bits, least, full⟩
  · trivial

/-- The shift to full mantissas, or to the last place. -/
theorem shiftToTargetExponent_eq {mantissa : Nat} {exponent : Int} (accuracy : Accuracy)
    {places : Nat}
    (shift : (max ((mantissa.log2 : Int) + exponent - 52) (-1074) - exponent).toNat = places) :
    shiftToTargetExponent .binary64 mantissa exponent accuracy =
      (ExtendedMantissa.ofMantissaAndAccuracy mantissa accuracy >>> places, exponent + places) := by
  have target : Float.Model.Format.binary64.targetExponent
      (Float.Model.totalExponent mantissa exponent) =
        max ((mantissa.log2 : Int) + exponent - 52) (-1074) := by
    show max ((mantissa.log2 : Int) + 1 + exponent - 53) (-1074) = _
    congr 1
    omega
  rw [← shift, ← target]
  rfl

theorem roundWithAccuracy_eq_settled {mantissa mantissa' : Nat} {exponent exponent' target : Int}
    {accuracy : Accuracy} {extended : ExtendedMantissa}
    (first : shiftToTargetExponent .binary64 mantissa exponent accuracy = (extended, target))
    (second : shiftToTargetExponent .binary64 extended.roundedMantissa target .exact =
      (⟨mantissa', false, false⟩, exponent')) :
    roundWithAccuracy .binary64 .positive mantissa exponent accuracy =
      settled mantissa' exponent' := by
  unfold roundWithAccuracy settled
  rw [first]
  dsimp only
  rw [second]
  dsimp only
  by_cases zero : mantissa' = 0
  · rw [dif_pos zero, dif_neg (by omega)]
  · rw [dif_neg zero, dif_pos (Nat.pos_of_ne_zero zero)]

/-- A mantissa of 53 bits is not shifted. -/
theorem shiftToTargetExponent_of_lt {mantissa : Nat} {exponent : Int} (bits : mantissa < 2 ^ 53)
    (least : -1074 ≤ exponent) :
    shiftToTargetExponent .binary64 mantissa exponent .exact =
      (⟨mantissa, false, false⟩, exponent) := by
  have short : mantissa.log2 ≤ 52 := by
    by_cases zero : mantissa = 0
    · rw [zero]
      decide
    · exact Nat.lt_succ_iff.mp ((Nat.log2_lt zero).mpr bits)
  have shift : (max ((mantissa.log2 : Int) + exponent - 52) (-1074) - exponent).toNat = 0 := by
    omega
  rw [shiftToTargetExponent_eq .exact shift]
  exact congrArg _ (Int.add_zero exponent)

/-- A mantissa that has been rounded to one bit more is shifted by that bit. -/
theorem shiftToTargetExponent_carry {exponent : Int} (least : -1074 ≤ exponent) :
    shiftToTargetExponent .binary64 (2 ^ 53) exponent .exact =
      (⟨2 ^ 52, false, false⟩, exponent + 1) := by
  have shift :
      (max (((2 ^ 53 : Nat).log2 : Int) + exponent - 52) (-1074) - exponent).toNat = 1 := by
    rw [Nat.log2_two_pow]
    omega
  rw [shiftToTargetExponent_eq .exact shift]
  rfl

/-- A carry does not change the number, whose mantissa is even before and after. -/
theorem IsClosest.carry {x : ℚ} {exponent : ℤ} (closest : IsClosest x (2 ^ 53) exponent) :
    IsClosest x (2 ^ 52) (exponent + 1) := by
  have same : ((2 ^ 52 : Nat) * 2 ^ (exponent + 1) : ℚ) = (2 ^ 53 : Nat) * 2 ^ exponent := by
    rw [zpow_add_one₀ two_ne_zero]
    push_cast
    ring
  refine ⟨fun onGrid => ?_, fun _ _ => .inr (by decide)⟩
  rw [same]
  exact closest.le onGrid

/-- The first shift leaves 53 bits, all of them used unless the last place has been reached. -/
theorem bits_of_shift {x : ℚ} {mantissa places : Nat} {exponent : Int} (low : (mantissa : ℚ) ≤ x)
    (high : x < mantissa + 1)
    (shift : (places : Int) = max ((mantissa.log2 : Int) + exponent - 52) (-1074) - exponent) :
    x / 2 ^ places < 2 ^ 53 ∧ (exponent + places = -1074 ∨ 2 ^ 52 ≤ x / 2 ^ places) := by
  constructor
  · rw [div_lt_iff₀ (pow_pos two_pos _), ← pow_add]
    have bits : mantissa + 1 ≤ 2 ^ (53 + places) :=
      Nat.lt_log2_self.trans_le (Nat.pow_le_pow_right two_pos (by omega))
    exact high.trans_le (by exact_mod_cast bits)
  · by_cases last : exponent + places = -1074
    · exact .inl last
    · refine .inr ?_
      rw [le_div_iff₀ (pow_pos two_pos _), ← pow_add]
      have bits : 2 ^ (52 + places) ≤ mantissa := by
        rw [show 52 + places = mantissa.log2 by omega]
        refine Nat.log2_self_le fun zero => ?_
        rw [zero] at shift
        have none : (Nat.log2 0 : Int) = 0 := by decide
        omega
      exact le_trans (by exact_mod_cast bits) low

/-- **Rounding** goes to the nearest number with 53 bits, if there are bits enough to start with. -/
theorem roundsTo_roundWithAccuracy {x : ℚ} {mantissa : Nat} {exponent : Int} {accuracy : Accuracy}
    (located : Located x (.ofMantissaAndAccuracy mantissa accuracy))
    (least : -1074 ≤ exponent) (full : exponent = -1074 ∨ 2 ^ 52 ≤ mantissa) :
    RoundsTo (x * 2 ^ exponent)
      (roundWithAccuracy .binary64 .positive mantissa exponent accuracy) := by
  obtain ⟨places, shift⟩ : ∃ places : Nat,
      (places : Int) = max ((mantissa.log2 : Int) + exponent - 52) (-1074) - exponent := by
    refine ⟨_, Int.toNat_of_nonneg ?_⟩
    rcases full with last | full
    · omega
    · have := (Nat.le_log2 (by omega)).mpr full
      omega
  have low := located.low
  have high := located.high
  rw [mantissa_ofMantissaAndAccuracy] at low high
  obtain ⟨fits, filled⟩ := bits_of_shift low high shift
  have first : shiftToTargetExponent .binary64 mantissa exponent accuracy =
      (ExtendedMantissa.ofMantissaAndAccuracy mantissa accuracy >>> places, exponent + places) :=
    shiftToTargetExponent_eq accuracy (by omega)
  have rounded := (located.shiftRight places).isRounded
  set extended := ExtendedMantissa.ofMantissaAndAccuracy mantissa accuracy >>> places
  have bits : extended.roundedMantissa ≤ 2 ^ 53 := rounded.le_of_lt (by exact_mod_cast fits)
  have used : 2 ^ 52 ≤ extended.roundedMantissa ∨ exponent + places = -1074 :=
    filled.symm.imp_left fun reached => rounded.le_of_le (by exact_mod_cast reached)
  have scale : x * 2 ^ exponent / 2 ^ (exponent + places) = x / 2 ^ places := by
    rw [zpow_add₀ two_ne_zero, zpow_natCast, mul_comm x,
      mul_div_mul_left _ _ (zpow_ne_zero _ two_ne_zero)]
  rw [← scale] at rounded filled
  have closest := isClosest_of_isRounded rounded filled
  rcases Nat.lt_or_eq_of_le bits with kept | carried
  · refine ⟨_, _, ?_, isCanonical_settled kept (by omega) used, closest⟩
    exact roundWithAccuracy_eq_settled first (shiftToTargetExponent_of_lt kept (by omega))
  · rw [carried] at closest
    refine ⟨2 ^ 52, exponent + places + 1, ?_, ?_, closest.carry⟩
    · refine roundWithAccuracy_eq_settled first ?_
      rw [carried]
      exact shiftToTargetExponent_carry (by omega)
    · exact isCanonical_settled (by decide) (by omega) (.inl le_rfl)

/-! ### Quotients, products and decimal numbers -/

/-- Less than half of the last place is rounded to zero. -/
theorem roundsTo_zero {x : ℚ} (low : 0 ≤ x) (high : x < 2 ^ (-1075 : ℤ)) :
    RoundsTo x (.zero .positive) := by
  refine ⟨0, -1074, rfl, trivial, isClosest_of_isRounded ?_ (.inl rfl)⟩
  have unit : (2 : ℚ) ^ (-1075 : ℤ) = 1 / 2 * 2 ^ (-1074 : ℤ) := by
    rw [show (-1075 : ℤ) = -1 + -1074 from rfl, zpow_add₀ two_ne_zero, zpow_neg_one, one_div]
  have less : |x / 2 ^ (-1074 : ℤ) - (0 : Nat)| < 1 / 2 := by
    rw [Nat.cast_zero, sub_zero, abs_of_nonneg (div_nonneg low (zpow_nonneg zero_le_two _)),
      div_lt_iff₀ (zpow_pos two_pos _), ← unit]
    exact high
  exact ⟨less.le, fun same => absurd same less.ne⟩

/-- A shifted mantissa has 53 bits left after division by another one. -/
theorem le_div_of_log2 {mantissa mantissa' places : Nat} (positive : 0 < mantissa)
    (positive' : 0 < mantissa') (wide : 53 + mantissa'.log2 ≤ places + mantissa.log2) :
    2 ^ 52 ≤ (mantissa <<< places) / mantissa' := by
  rw [Nat.le_div_iff_mul_le positive', Nat.shiftLeft_eq]
  calc 2 ^ 52 * mantissa'
      ≤ 2 ^ 52 * 2 ^ (mantissa'.log2 + 1) := Nat.mul_le_mul_left _ Nat.lt_log2_self.le
    _ = 2 ^ (53 + mantissa'.log2) := by
        rw [← Nat.pow_add]
        congr 1
        omega
    _ ≤ 2 ^ (mantissa.log2 + places) := Nat.pow_le_pow_right two_pos (by omega)
    _ = 2 ^ mantissa.log2 * 2 ^ places := Nat.pow_add _ _ _
    _ ≤ mantissa * 2 ^ places := Nat.mul_le_mul_right _ (Nat.log2_self_le positive.ne')

/-- **A quotient** of positive numbers is rounded to the nearest number. -/
theorem roundsTo_div {mantissa mantissa' : Nat} {exponent exponent' : Int}
    (positive : 0 < mantissa) (positive' : 0 < mantissa') (least : -1074 ≤ exponent - exponent') :
    RoundsTo (mantissa * 2 ^ exponent / (mantissa' * 2 ^ exponent'))
      (UnpackedFloat.div .binary64 (.finite .positive mantissa exponent positive)
        (.finite .positive mantissa' exponent' positive')) := by
  obtain ⟨places, target⟩ : ∃ places : Nat, exponent - exponent' - places =
      min (exponent - exponent')
        (max ((mantissa.log2 : Int) + 1 + exponent - (mantissa'.log2 + 1 + exponent') - 53)
          (-1074)) :=
    ⟨_, by rw [Int.toNat_of_nonneg (sub_nonneg.mpr (min_le_left _ _)), sub_sub_cancel]⟩
  have core : UnpackedFloat.divCore .binary64 mantissa exponent mantissa' exponent' =
      ((mantissa <<< places) / mantissa', exponent - exponent' - places,
        accuracyOfFraction ((mantissa <<< places) % mantissa') mantissa') := by
    have shift : (exponent - exponent' - min (exponent - exponent')
        (max ((mantissa.log2 : Int) + 1 + exponent - (mantissa'.log2 + 1 + exponent') - 53)
          (-1074))).toNat = places := by omega
    rw [target, ← shift]
    rfl
  have full : exponent - exponent' - places = -1074 ∨
      2 ^ 52 ≤ (mantissa <<< places) / mantissa' := by
    by_cases last : exponent - exponent' - places = -1074
    · exact .inl last
    · exact .inr (le_div_of_log2 positive positive' (by omega))
  have located := Located.fraction ((mantissa <<< places) / mantissa')
    (Nat.mod_lt (mantissa <<< places) positive')
  have rounded := roundsTo_roundWithAccuracy located (by omega) full
  have nonzero : (mantissa' : ℚ) ≠ 0 := by exact_mod_cast positive'.ne'
  have parts : (((mantissa <<< places / mantissa' : Nat) : ℚ) +
      (mantissa <<< places % mantissa' : Nat) / mantissa') = mantissa * 2 ^ places / mantissa' := by
    rw [add_div' _ _ _ nonzero, mul_comm _ (mantissa' : ℚ), div_left_inj' nonzero]
    have whole := Nat.div_add_mod (mantissa <<< places) mantissa'
    rw [Nat.shiftLeft_eq] at whole ⊢
    exact_mod_cast whole
  have value : (((mantissa <<< places / mantissa' : Nat) : ℚ) +
      (mantissa <<< places % mantissa' : Nat) / mantissa') * 2 ^ (exponent - exponent' - places) =
        mantissa * 2 ^ exponent / (mantissa' * 2 ^ exponent') := by
    rw [parts, zpow_sub₀ two_ne_zero, zpow_sub₀ two_ne_zero, zpow_natCast]
    field_simp
  rw [← value]
  show RoundsTo _ (match UnpackedFloat.divCore .binary64 mantissa exponent mantissa' exponent' with
    | (m, e, acc) => roundWithAccuracy .binary64 .positive m e acc)
  rw [core]
  exact rounded

/-- **A product** of positive numbers is rounded to the nearest number, if the first one has bits
enough. -/
theorem roundsTo_mul {mantissa mantissa' : Nat} {exponent exponent' : Int}
    (positive : 0 < mantissa) (positive' : 0 < mantissa') (least : -1074 ≤ exponent + exponent')
    (full : 2 ^ 52 ≤ mantissa) :
    RoundsTo (mantissa * 2 ^ exponent * (mantissa' * 2 ^ exponent'))
      (UnpackedFloat.mul .binary64 (.finite .positive mantissa exponent positive)
        (.finite .positive mantissa' exponent' positive')) := by
  have rounded := roundsTo_roundWithAccuracy (Located.exact (mantissa * mantissa')) least
    (.inr (full.trans (Nat.le_mul_of_pos_right _ positive')))
  have value : ((mantissa * mantissa' : Nat) * 2 ^ (exponent + exponent') : ℚ) =
      mantissa * 2 ^ exponent * (mantissa' * 2 ^ exponent') := by
    rw [zpow_add₀ two_ne_zero, Nat.cast_mul, mul_mul_mul_comm]
  rw [← value]
  exact rounded

/-- **A decimal number** is rounded to the nearest number. -/
theorem roundsTo_ofScientific (digits places : Nat) :
    RoundsTo (digits / 10 ^ places)
      (UnpackedFloat.ofScientific .binary64 digits (Int.negOfNat places)) := by
  unfold UnpackedFloat.ofScientific
  split
  · rename_i zero
    rw [zero, Nat.cast_zero, zero_div]
    exact roundsTo_zero le_rfl (zpow_pos two_pos _)
  rename_i nonzero
  have positive : 0 < digits := Nat.pos_of_ne_zero nonzero
  have negated : Int.negOfNat places = -(places : Int) := Int.negOfNat_eq
  split
  · rename_i large
    have bound : (2 ^ 11 : Int) < Int.negOfNat places := large
    omega
  split
  · rename_i tiny
    replace tiny : Int.negOfNat places < -((2 ^ 11 : Int) + digits.log2) := tiny
    refine roundsTo_zero (by positivity) ?_
    have bits : (digits : ℚ) < 2 ^ (digits.log2 + 1) := by exact_mod_cast Nat.lt_log2_self
    calc (digits / 10 ^ places : ℚ)
        < 2 ^ (digits.log2 + 1) / 10 ^ places :=
          (div_lt_div_iff_of_pos_right (by positivity)).mpr bits
      _ ≤ 2 ^ (digits.log2 + 1) / 2 ^ places := by gcongr; norm_num
      _ = 2 ^ ((digits.log2 + 1 : Nat) - places : ℤ) := by
          rw [zpow_sub₀ two_ne_zero, zpow_natCast, zpow_natCast]
      _ ≤ 2 ^ (-1075 : ℤ) := zpow_le_zpow_right₀ one_le_two (by omega)
  split
  · rename_i whole
    obtain rfl : places = 0 := by omega
    have shifted : 2 ^ 52 ≤ digits <<< 53 := by
      rw [Nat.shiftLeft_eq]
      omega
    have value : ((digits <<< 53 : Nat) * 2 ^ (-53 : ℤ) * ((1 : Nat) * 2 ^ (0 : ℤ)) : ℚ) =
        digits / 10 ^ 0 := by
      rw [Nat.shiftLeft_eq]
      push_cast
      ring
    rw [← value]
    exact roundsTo_mul (by omega) one_pos (by decide) shifted
  · have power : (10 ^ (-Int.negOfNat places).toNat : Nat) = 10 ^ places := by
      congr 1
      omega
    have value : (digits * 2 ^ (0 : ℤ) /
        ((10 ^ (-Int.negOfNat places).toNat : Nat) * 2 ^ (0 : ℤ)) : ℚ) = digits / 10 ^ places := by
      rw [power, zpow_zero, mul_one, mul_one, Nat.cast_pow, Nat.cast_ofNat]
    rw [← value]
    exact roundsTo_div positive (Nat.pow_pos (by decide)) (by decide)

end DesignRules.Decimal

/-
**The digits of natural numbers.**

* `isDigit_of_mem_digitsOf`, `digitsValue_digitsOf`: the digits of a number are digits, and they
  denote it.
* `head_digitsOf_ne_zero`: they start with a zero for zero alone.
* `digits_shortest`: the fewest digits of a positive number are not those of zero.
-/

import DesignRules.Decimal.Digits
import DesignRules.Decimal.Shortest
import Mathlib.Data.List.Basic

namespace DesignRules.Decimal

/-! ### Digits of a number -/

theorem isDigit_of_mem_digitsOf {n : Nat} {c : Char} (member : c ∈ digitsOf n) :
    isDigit c = true :=
  Nat.isDigit_of_mem_toDigits (by decide) (by decide) member

theorem digitsOf_ne_nil (n : Nat) : digitsOf n ≠ [] := Nat.toDigits_ne_nil

theorem digitsValue_digitsOf (n : Nat) : digitsValue (digitsOf n) = n := by
  have value := Nat.ofDigitChars_toDigits (n := n) (by decide : 1 < 10) (Nat.le_refl 10)
  rw [Nat.ofDigitChars_eq_foldl] at value
  simp only [Nat.mul_comm 10] at value
  exact value

/-- No zero stands before the digits of a positive number. -/
theorem head_digitsOf_ne_zero {n : Nat} (positive : n ≠ 0) : (digitsOf n).head? ≠ some '0' := by
  induction n using Nat.strongRecOn with
  | ind n ih =>
    rw [digitsOf, Nat.toDigits_eq_if (by decide)]
    by_cases single : n < 10
    · rw [if_pos single, List.head?_cons]
      exact fun same => positive (Nat.digitChar_eq_zero.mp (Option.some.inj same))
    · have shorter : n / 10 < n := by omega
      have left : n / 10 ≠ 0 := by omega
      rw [if_neg single, List.head?_append_of_ne_nil _ Nat.toDigits_ne_nil]
      exact ih (n / 10) shorter left

/-! ### The fewest digits of a number -/

theorem le_roundedQuotient (tie : Tie) (numerator denominator : Nat) :
    numerator / denominator ≤ roundedQuotient tie numerator denominator := by
  unfold roundedQuotient
  dsimp only
  split
  · exact Nat.le_succ _
  · split
    · exact Nat.le_succ _
    · exact Nat.le_refl _

namespace Binary64.Span

/-- Zero lies in no span whose lower bound is positive. -/
theorem holds_pos {span : Span} (low : 0 < span.low) {point : Nat}
    (holds : span.holds point = true) : 0 < point := by
  refine Nat.pos_of_ne_zero fun zero => ?_
  subst zero
  unfold Span.holds at holds
  split at holds
  · simp only [Nat.zero_mul, Bool.and_eq_true, decide_eq_true_eq] at holds
    exact absurd holds.1 (Nat.not_le_of_lt low)
  · simp only [Nat.zero_mul, Bool.and_eq_true, decide_eq_true_eq] at holds
    exact Nat.not_lt_zero _ holds.1

theorem nearest?_pos {span : Span} (low : 0 < span.low) {tie : Tie} {digits : Nat}
    (found : span.nearest? tie = some digits) : 0 < digits := by
  unfold nearest? at found
  dsimp only at found
  cases lower : span.holds (span.value / span.denominator) with
  | true =>
    have positive := holds_pos low lower
    cases upper : span.holds (span.value / span.denominator + 1) with
    | true =>
      rw [lower, upper] at found
      rw [← Option.some.inj found]
      exact Nat.lt_of_lt_of_le positive (le_roundedQuotient tie _ _)
    | false =>
      rw [lower, upper] at found
      rw [← Option.some.inj found]
      exact positive
  | false =>
    cases upper : span.holds (span.value / span.denominator + 1) with
    | true =>
      rw [lower, upper] at found
      rw [← Option.some.inj found]
      exact Nat.succ_pos _
    | false =>
      rw [lower, upper] at found
      cases found

theorem low_onGrid_pos {span : Span} (low : 0 < span.low) (place : Int) :
    0 < (span.onGrid place).low :=
  Nat.mul_pos low (Nat.pow_pos (by decide))

end Binary64.Span

/-- All values that read as a positive number are positive. -/
theorem low_span_pos {significand : Nat} (positive : significand ≠ 0) (exponent : Int) :
    0 < (Binary64.span significand exponent).low := by
  have scale : 0 < Nat.pow 2 (exponent - 2).toNat := Nat.pow_pos (by decide)
  unfold Binary64.span
  dsimp only
  refine Nat.mul_pos ?_ scale
  split <;> omega

theorem digits_trimmed_ne_zero {number : Significant} (nonzero : number.digits ≠ 0)
    (limit : Nat) : (number.trimmed limit).digits ≠ 0 := by
  induction limit generalizing number with
  | zero => exact nonzero
  | succ limit ih =>
    unfold Significant.trimmed
    split
    · rename_i ends
      have whole : number.digits / 10 ≠ 0 := by omega
      exact ih whole
    · exact nonzero

/-- **The fewest digits of a positive number** are not those of zero, where some are found. -/
theorem digits_shortest (tie : Tie) {significand : Nat} (positive : significand ≠ 0)
    (exponent : Int) :
    (shortest tie significand exponent).digits ≠ 0 ∨
      shortest tie significand exponent = ⟨0, 0⟩ := by
  unfold shortest
  dsimp only
  generalize search : List.findSome? _ (List.range 17) = found
  cases found with
  | none => exact .inr rfl
  | some number =>
    obtain ⟨count, -, here⟩ := List.exists_of_findSome?_eq_some search
    obtain ⟨digits, near, rfl⟩ := Option.map_eq_some_iff.mp here
    have nonzero : digits ≠ 0 := Nat.pos_iff_ne_zero.mp
      (Binary64.Span.nearest?_pos
        (Binary64.Span.low_onGrid_pos (low_span_pos positive exponent) _) near)
    exact .inl (digits_trimmed_ne_zero nonzero 20)

end DesignRules.Decimal

/-
**The fewest digits that identify a binary64 number.**

A grid of step `10 ^ place` is tried from the coarsest of one digit to that of seventeen. The first
grid with a point in the span of the number wins; of two points in the span the nearer, and of two
equally near ones the tie rule decides.

* `Significant`: whole digits and the place of the last one.
* `shortest`: the digits of a positive number.
-/

import DesignRules.Decimal.Binary
import DesignRules.Decimal.Rounding

namespace DesignRules.Decimal

/-- The decimal number `digits · 10 ^ place`. -/
structure Significant where
  digits : Nat
  place : Int
  deriving DecidableEq, Repr

namespace Significant

/-- Drops up to `limit` zeros at the end of the digits. -/
def trimmed : Nat → Significant → Significant
  | 0, number => number
  | limit + 1, number =>
    if number.digits ≠ 0 ∧ number.digits % 10 = 0 then
      trimmed limit ⟨number.digits / 10, number.place + 1⟩
    else number

end Significant

namespace Binary64.Span

/-- How many digits the whole part has, or minus the count of zeros after the point. -/
def magnitude (span : Span) : Int :=
  let above : Int := (Nat.toDigits 10 span.value).length
  let below : Int := (Nat.toDigits 10 span.denominator).length
  let least := above - below
  let reached :=
    if 0 ≤ least then span.denominator * Nat.pow 10 least.toNat ≤ span.value
    else span.denominator ≤ span.value * Nat.pow 10 (-least).toNat
  if reached then least + 1 else least

/-- The span counted in units of a grid of step `10 ^ place`. -/
def onGrid (span : Span) (place : Int) : Span :=
  let up := Nat.pow 10 (-place).toNat
  let down := Nat.pow 10 place.toNat
  { span with
    low := span.low * up
    value := span.value * up
    high := span.high * up
    denominator := span.denominator * down }

/-- Whether the whole number `point` lies in the span. -/
def holds (span : Span) (point : Nat) : Bool :=
  if span.inclusive then
    span.low ≤ point * span.denominator && point * span.denominator ≤ span.high
  else
    span.low < point * span.denominator && point * span.denominator < span.high

/-- The whole number in the span that is nearest to its value, if one of the value's neighbours is
in the span. -/
def nearest? (tie : Tie) (span : Span) : Option Nat :=
  let lower := span.value / span.denominator
  match span.holds lower, span.holds (lower + 1) with
  | true, true => some (roundedQuotient tie span.value span.denominator)
  | true, false => some lower
  | false, true => some (lower + 1)
  | false, false => none

end Binary64.Span

/-- The fewest digits that read back as `significand · 2 ^ exponent`. -/
def shortest (tie : Tie) (significand : Nat) (exponent : Int) : Significant :=
  let span := Binary64.span significand exponent
  let top := span.magnitude
  let found := (List.range 17).findSome? fun (count : Nat) =>
    let place : Int := top - 1 - count
    ((span.onGrid place).nearest? tie).map fun digits => Significant.mk digits place
  (found.getD ⟨0, 0⟩).trimmed 20

end DesignRules.Decimal

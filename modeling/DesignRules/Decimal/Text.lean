/-
**Decimal numbers in positional notation.**

* `Significant.positional`: digits with a point and no exponent.
* `plain`: a binary64 number in the fewest digits that identify it.
* `fixed`: a binary64 number rounded to a count of places, a half going to the even neighbour.
-/

import DesignRules.Decimal.Digits
import DesignRules.Decimal.Shortest

namespace DesignRules.Decimal

/-- Writes `digits` with `places` of them after the point; no point when there are none. -/
def pointed (digits places : Nat) : List Char :=
  if places = 0 then digitsOf digits
  else
    let whole := digits / Nat.pow 10 places
    let fraction := digitsOf (digits % Nat.pow 10 places)
    digitsOf whole ++ '.' :: (List.replicate (places - fraction.length) '0' ++ fraction)

/-- Digits in positional notation, without an exponent. -/
def Significant.positional (number : Significant) : List Char :=
  if 0 ≤ number.place then digitsOf (number.digits * Nat.pow 10 number.place.toNat)
  else pointed number.digits (-number.place).toNat

/-- A text with a minus sign before it if `negative`. -/
def signed (negative : Bool) (text : List Char) : String :=
  String.ofList (if negative then '-' :: text else text)

/-- The text of an infinite number. -/
def infiniteText (negative : Bool) : String := signed negative "inf".toList

/-- A number in the fewest digits that identify it, positional at every size; of two equally near
candidates the larger is written. -/
def plain (x : Float) : String :=
  match Binary64.ofFloat x with
  | .nan => "NaN"
  | .infinite negative => infiniteText negative
  | .finite negative 0 _ => signed negative ['0']
  | .finite negative significand exponent =>
    signed negative (shortest .up significand exponent).positional

/-- A number rounded to `places` digits after the point, a half going to the even neighbour. -/
def fixed (places : Nat) (x : Float) : String :=
  match Binary64.ofFloat x with
  | .nan => "NaN"
  | .infinite negative => infiniteText negative
  | .finite negative significand exponent =>
    let numerator := significand * Nat.pow 2 exponent.toNat * Nat.pow 10 places
    let denominator := Nat.pow 2 (-exponent).toNat
    signed negative (pointed (roundedQuotient .toEven numerator denominator) places)

end DesignRules.Decimal

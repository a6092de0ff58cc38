/-
**Numbers of the JSON format.**

A number is read by its leading digits, as many as make a 64-bit whole number, rounded to binary64
and scaled once by a rounded power of ten. It is written in the fewest digits that identify it, with
a point or an exponent so that it shows that it is no whole number.

* `Number.significand`: the leading digits as a whole number, and the power of ten they count.
* `Number.toFloat?`: the binary64 number, if it is in range.
* `Number.toNat?`: the natural number, for a literal without sign, point and exponent.
* `Number.ofFloat?`: the literal of a finite number.
* `Number.characters`: the text of a literal.
-/

import DesignRules.Decimal.Text
import DesignRules.Json.Basic

namespace DesignRules.Json.Number

open Decimal

/-- The largest whole number of 64 bits. -/
def largestWord : Nat := UInt64.size - 1

/-- Appends digits to a whole number while it stays in 64 bits; the second part counts the digits
from the first that does not fit. -/
def extend : Nat → List Char → Nat × Nat
  | value, [] => (value, 0)
  | value, digit :: rest =>
    let longer := value * 10 + digitValue digit
    if longer ≤ largestWord then extend longer rest else (value, rest.length + 1)

/-- The leading digits as a whole number, and the power of ten by which it is multiplied. -/
def significand (literal : Number) : Nat × Int :=
  let (whole, wholeLeft) := extend 0 literal.whole
  let (value, fractionLeft) := extend whole literal.fraction
  let places : Int := (wholeLeft : Int) - (literal.fraction.length - fractionLeft : Nat)
  (value, places + literal.exponent.getD 0)

/-- A power of ten as a binary64 number. -/
def powerOfTen (exponent : Nat) : Float := Float.ofScientific 1 false exponent

/-- `value · 10 ^ power` for a nonnegative binary64 number, if it is in range: multiplied or divided
once by a rounded power of ten, and stepwise below `10 ^ -308`. -/
def scaled (value : Float) : Int → Option Float
  | .ofNat power =>
    if value == 0.0 then some 0.0
    else if 308 < power then none
    else
      let product := value * powerOfTen power
      if product.isInf then none else some product
  | .negSucc power => some (divided (power / 308 + 1) value (power + 1))
where
  /-- Divides by `10 ^ power` in steps of at most `10 ^ 308`. -/
  divided : Nat → Float → Nat → Float
    | 0, value, _ => value
    | steps + 1, value, power =>
      if power ≤ 308 then value / powerOfTen power
      else if value == 0.0 then value
      else divided steps (value / powerOfTen 308) (power - 308)

/-- The binary64 number of a literal; none where it is too large. -/
def toFloat? (literal : Number) : Option Float :=
  let (value, power) := literal.significand
  let sign : Float → Float := fun x => if literal.negative then -x else x
  (scaled (Float.ofNat value) power).map sign

/-- The natural number of a literal without sign, point and exponent. -/
def toNat? (literal : Number) : Option Nat :=
  if literal.negative || !literal.fraction.isEmpty || literal.exponent.isSome then none
  else some (digitsValue literal.whole)

/-- The natural number of a literal, if it is at most `largest`. -/
def toNatUpTo? (largest : Nat) (literal : Number) : Option Nat :=
  literal.toNat?.filter fun n => n ≤ largest

/-- The literal of a natural number. -/
def ofNat (n : Nat) : Number := ⟨false, digitsOf n, [], none⟩

/-- How numbers are written: without an exponent where the point stands at most `rightmost` digits
after the first digit's left side and fewer than `leftmost` zeros follow it. -/
structure Style where
  leftmost : Nat
  rightmost : Nat
  tie : Tie

/-- Positional from `0.00001` to below `10 ^ 16`, and of two equally near digits the even one. -/
def style : Style := ⟨5, 16, .toEven⟩

/-- Splits digits after the first; an empty rest stays empty. -/
def scientific (negative : Bool) (digits : List Char) (place : Int) : Number :=
  let exponent := place + (digits.length : Int) - 1
  ⟨negative, digits.take 1, digits.drop 1, some exponent⟩

/-- Digits with a point and at least one digit on each side of it. -/
def positional (negative : Bool) (digits : List Char) (place : Int) : Number :=
  if 0 ≤ place then ⟨negative, digits ++ List.replicate place.toNat '0', ['0'], none⟩
  else
    let after := (-place).toNat
    let padded := List.replicate (after + 1 - digits.length) '0' ++ digits
    ⟨negative, padded.take (padded.length - after), padded.drop (padded.length - after), none⟩

/-- The literal of a number; none for what is not finite. -/
def ofFloat? (x : Float) : Option Number :=
  match Binary64.ofFloat x with
  | .nan => none
  | .infinite _ => none
  | .finite negative 0 _ => some ⟨negative, ['0'], ['0'], none⟩
  | .finite negative whole exponent =>
    let number := shortest style.tie whole exponent
    let digits := digitsOf number.digits
    let leading := number.place + (digits.length : Int)
    if -(style.leftmost : Int) < leading ∧ leading ≤ style.rightmost then
      some (positional negative digits number.place)
    else some (scientific negative digits number.place)

/-- The text of an exponent, its sign always written. -/
def exponentCharacters : Int → List Char
  | .ofNat n => 'e' :: '+' :: digitsOf n
  | .negSucc n => 'e' :: '-' :: digitsOf (n + 1)

/-- The text of a literal. -/
def characters (literal : Number) : List Char :=
  let sign := if literal.negative then ['-'] else []
  let point := if literal.fraction.isEmpty then [] else '.' :: literal.fraction
  let exponent := match literal.exponent with
    | none => []
    | some exponent => exponentCharacters exponent
  sign ++ literal.whole ++ point ++ exponent

end DesignRules.Json.Number

/-
**The parts of a binary64 number.**

* `Binary64`: a number as sign, whole significand and power of two, or one of the special values.
* `Binary64.ofFloat`: the parts of a machine number.
* `Binary64.Span`: the values that read as the same number, as fractions of one denominator.
-/

namespace DesignRules.Decimal

/-- A binary64 number by its parts: a finite one is `± significand · 2 ^ exponent`. -/
inductive Binary64 where
  | nan
  | infinite (negative : Bool)
  | finite (negative : Bool) (significand : Nat) (exponent : Int)
  deriving DecidableEq, Repr

namespace Binary64

/-- The parts of a number: one sign bit, eleven of the exponent, fifty-two of the fraction. -/
def ofBits (bits : Nat) : Binary64 :=
  let negative := bits / Nat.pow 2 63 % 2 == 1
  let biased : Nat := bits / Nat.pow 2 52 % Nat.pow 2 11
  let fraction : Nat := bits % Nat.pow 2 52
  if biased = 2047 then
    if fraction = 0 then .infinite negative else .nan
  else if biased = 0 then .finite negative fraction (-1074)
  else .finite negative (Nat.pow 2 52 + fraction) ((biased : Int) - 1075)

/-- The parts of a machine number. -/
def ofFloat (x : Float) : Binary64 := ofBits x.toBits.toNat

/-- A positive value with the bounds of the values that read as it, as numerators over
`denominator`; the bounds themselves belong to it where the significand is even. -/
structure Span where
  low : Nat
  value : Nat
  high : Nat
  denominator : Nat
  inclusive : Bool
  deriving DecidableEq, Repr

/-- The span of `significand · 2 ^ exponent`: half a unit to each side, and a quarter below a power
of two, where the numbers lie closer together. -/
def span (significand : Nat) (exponent : Int) : Span :=
  let below := if significand = Nat.pow 2 52 ∧ -1074 < exponent then 1 else 2
  let scale := Nat.pow 2 (exponent - 2).toNat
  { low := (4 * significand - below) * scale
    value := 4 * significand * scale
    high := (4 * significand + 2) * scale
    denominator := Nat.pow 2 (2 - exponent).toNat
    inclusive := significand % 2 == 0 }

end Binary64

end DesignRules.Decimal

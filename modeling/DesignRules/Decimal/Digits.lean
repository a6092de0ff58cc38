/-
**Decimal digits.**

* `isDigit`, `digitValue`: the ten ASCII digits and their values.
* `digitsValue`: the number that a sequence of digits denotes.
* `digitsOf`: the digits of a number, without zeros before them.
-/

namespace DesignRules.Decimal

/-- Whether a character is one of the ten ASCII digits. -/
def isDigit (c : Char) : Bool := '0' ≤ c && c ≤ '9'

/-- The value of a digit. -/
def digitValue (c : Char) : Nat := c.toNat - '0'.toNat

/-- The number that a sequence of digits denotes. -/
def digitsValue (digits : List Char) : Nat :=
  digits.foldl (fun value digit => value * 10 + digitValue digit) 0

/-- The decimal digits of a natural number. -/
def digitsOf (n : Nat) : List Char := Nat.toDigits 10 n

end DesignRules.Decimal

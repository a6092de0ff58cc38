/-
**Decimal numbers as people write them.**

A sign may come first; then come digits with at most one point among them and at least one digit in
all. There is no exponent.

* `Literal.ofCharacters?`: the number that a text denotes.
* `Literal.value`: the number nearest to it.
-/

import DesignRules.Decimal.Digits
import DesignRules.Scalar

namespace DesignRules.Decimal

/-- The decimal number `± digits / 10 ^ places`. -/
structure Literal where
  negative : Bool
  digits : Nat
  places : Nat
  deriving DecidableEq, Repr

namespace Literal

/-- A text without its sign, and whether that is a minus. -/
def splitSign : List Char → Bool × List Char
  | '-' :: rest => (true, rest)
  | '+' :: rest => (false, rest)
  | characters => (false, characters)

/-- Digits with at most one point among them and at least one digit. -/
def unsigned? (negative : Bool) (characters : List Char) : Option Literal :=
  let whole := characters.takeWhile isDigit
  match characters.dropWhile isDigit with
  | [] => if whole.isEmpty then none else some ⟨negative, digitsValue whole, 0⟩
  | '.' :: fraction =>
    if fraction.all isDigit && !(whole ++ fraction).isEmpty then
      some ⟨negative, digitsValue (whole ++ fraction), fraction.length⟩
    else none
  | _ => none

/-- The number that a text denotes. -/
def ofCharacters? (characters : List Char) : Option Literal :=
  let (negative, rest) := splitSign characters
  unsigned? negative rest

/-- The number nearest to the literal. -/
def value {K : Type} [Scalar K] (literal : Literal) : K :=
  let size : K := OfScientific.ofScientific literal.digits true literal.places
  if literal.negative then -size else size

end Literal

end DesignRules.Decimal

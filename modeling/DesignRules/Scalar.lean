/-
**Coordinates and lengths as an abstract number type.**

Shapes, limits and rules are written over any type of numbers with the operations below. The program
takes the binary64 numbers of `DesignRules.Decimal.Scalar`; a law about exact geometry takes an
ordered field.

* `Scalar`: arithmetic, comparison, decimal literals and the two ways of writing a number.
* `lesser`, `greater`: the smaller and the larger of two numbers, where a number that is not equal
  to itself yields to the other one and of equal numbers the second is taken.
* `total`: the sum of a list from the left.
-/

namespace DesignRules

/-- A number type for coordinates, lengths and areas. -/
class Scalar (K : Type) extends
    Add K, Sub K, Mul K, Div K, Neg K, BEq K, LT K, LE K, OfScientific K where
  /-- The strict order can be tested. -/
  decideLT : DecidableLT K
  /-- The order can be tested. -/
  decideLE : DecidableLE K
  /-- The distance of a number from zero. -/
  magnitude : K → K
  /-- The square root. -/
  root : K → K
  /-- A number in plain digits, as few as identify it. -/
  plainText : K → String
  /-- A number rounded to a count of decimal places. -/
  fixedText : Nat → K → String

namespace Scalar

variable {K : Type} [Scalar K]

instance decidableLT : DecidableLT K := Scalar.decideLT

instance decidableLE : DecidableLE K := Scalar.decideLE

/-- A number that differs from itself stands for no quantity. -/
def isNaN (a : K) : Bool := !(a == a)

/-- The smaller of two numbers; of equal ones the second, and of a number and none the number. -/
def lesser (a b : K) : K :=
  if a < b ∨ isNaN b then a else b

/-- The larger of two numbers; of equal ones the second, and of a number and none the number. -/
def greater (a b : K) : K :=
  if b < a ∨ isNaN b then a else b

/-- The sum of a list, added from the left to the neutral element of addition, which is the
negative zero where zeros have signs. -/
def total (summands : List K) : K :=
  summands.foldl (· + ·) (-0.0)

/-- The second power. -/
def square (a : K) : K := a * a

end Scalar

end DesignRules

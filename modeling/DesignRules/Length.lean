/-
**Lengths with units.**

A length is a decimal number and an optional unit right after it; the unit starts at the first ASCII
letter. Lengths are measured in nanometres.

* `LengthUnit`: the five units with their suffixes and sizes.
* `Quantity.ofCharacters?`: the number and the unit of a text.
* `Length.ofText?`: the length that a text denotes, in a unit of choice where it names none.
* `Length.millimetres`, `Length.squareMillimetres`: lengths and areas as messages show them.
-/

import DesignRules.Decimal.Literal

namespace DesignRules

/-- A unit of length. -/
inductive LengthUnit where
  | nanometre
  | micrometre
  | millimetre
  | mil
  | inch
  deriving DecidableEq, Repr

namespace LengthUnit

/-- The suffix of each unit. -/
def suffixes : List (String × LengthUnit) :=
  [("nm", .nanometre), ("um", .micrometre), ("mm", .millimetre), ("mil", .mil), ("in", .inch)]

/-- The unit with a suffix. -/
def ofSuffix? (suffix : String) : Option LengthUnit := suffixes.lookup suffix

/-- The length of a unit in nanometres. -/
def scale {K : Type} [Scalar K] : LengthUnit → K
  | .nanometre => 1.0
  | .micrometre => 1000.0
  | .millimetre => 1000000.0
  | .mil => 25400.0
  | .inch => 25400000.0

end LengthUnit

/-- Whether a character is one of the ASCII letters, which start a unit. -/
def isUnitLetter (c : Char) : Bool := c.isAlpha

/-- A number and the unit that is written after it, if any. -/
structure Quantity where
  number : Decimal.Literal
  unit? : Option LengthUnit
  deriving DecidableEq, Repr

namespace Quantity

/-- The suffix of a text, from its first letter on. -/
def suffixOf (characters : List Char) : List Char :=
  characters.dropWhile fun c => !isUnitLetter c

/-- The number before the first letter of a text. -/
def numberOf (characters : List Char) : List Char :=
  characters.takeWhile fun c => !isUnitLetter c

/-- The unit that a suffix names; no suffix is no unit, and an unknown one is an error. -/
def unitOf? (suffix : List Char) : Option (Option LengthUnit) :=
  if suffix.isEmpty then some none
  else (LengthUnit.ofSuffix? (String.ofList suffix)).map some

/-- The number and the unit of a text. -/
def ofCharacters? (characters : List Char) : Option Quantity := do
  let number ← Decimal.Literal.ofCharacters? (numberOf characters)
  let unit? ← unitOf? (suffixOf characters)
  return ⟨number, unit?⟩

/-- The length in nanometres; a number without a unit is in `bare`. -/
def length {K : Type} [Scalar K] (quantity : Quantity) (bare : LengthUnit) : K :=
  quantity.number.value * (quantity.unit?.getD bare).scale

end Quantity

namespace Length

variable {K : Type} [Scalar K]

/-- The length that a text denotes; a number without a unit is in `bare`, if that is given. -/
def ofText? (text : String) (bare : Option LengthUnit) : Option K := do
  let quantity ← Quantity.ofCharacters? text.toList
  let unit ← quantity.unit?.or bare
  return quantity.length unit

/-- A text without the zeros at its end, nor the point before them. -/
def trimmed (text : String) : String :=
  let withoutZeros := text.toList.reverse.dropWhile (· == '0')
  String.ofList (withoutZeros.dropWhile (· == '.')).reverse

/-- A length in millimetres, with at most four digits after the point. -/
def millimetres (length : K) : String :=
  trimmed (Scalar.fixedText 4 (length / 1000000.0)) ++ " mm"

/-- An area in square millimetres, with at most six digits after the point. -/
def squareMillimetres (area : K) : String :=
  trimmed (Scalar.fixedText 6 (area / 1000000000000.0)) ++ " mm²"

end Length

end DesignRules

/-
**Rounded quotients of natural numbers.**

* `Tie`: which neighbour an exact half goes to.
* `roundedQuotient`: the natural number nearest to a quotient.
* `roundedQuotient_of_dvd`: a quotient that is a natural number is not changed.
-/

namespace DesignRules.Decimal

/-- Where a value halfway between two neighbours goes. -/
inductive Tie where
  | toEven
  | up
  deriving DecidableEq, Repr

/-- Whether a tie between `lower` and the number after it goes to the latter. -/
def Tie.takesUpper : Tie → Nat → Bool
  | .toEven, lower => lower % 2 == 1
  | .up, _ => true

/-- The natural number nearest to `numerator / denominator`. -/
def roundedQuotient (tie : Tie) (numerator denominator : Nat) : Nat :=
  let lower := numerator / denominator
  let twice := 2 * (numerator % denominator)
  if denominator < twice then lower + 1
  else if twice = denominator ∧ tie.takesUpper lower then lower + 1
  else lower

theorem roundedQuotient_of_dvd (tie : Tie) {numerator denominator : Nat} (positive : 0 < denominator)
    (divides : denominator ∣ numerator) :
    roundedQuotient tie numerator denominator = numerator / denominator := by
  have remainder : numerator % denominator = 0 := Nat.mod_eq_zero_of_dvd divides
  have differs : ¬ 0 = denominator := by omega
  simp [roundedQuotient, remainder, differs]

end DesignRules.Decimal

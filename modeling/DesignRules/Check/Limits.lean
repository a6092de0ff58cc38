/-
**Measures against bounds.**

* `Bound.breach?`: how a measure breaks a bound: below the minimum or above the maximum.
-/

import DesignRules.Length
import DesignRules.Rule.Constraint

namespace DesignRules

/-- How a measure breaks a bound. -/
inductive Breach (K : Type) where
  | below (least : K)
  | above (most : K)
  deriving DecidableEq, Repr

variable {K : Type} [Scalar K]

/-- How a measure breaks a bound, if it does; the minimum is looked at first. -/
def Bound.breach? (bound : Bound K) (measure : K) : Option (Breach K) :=
  match bound.min.filter fun least => measure < least with
  | some least => some (.below least)
  | none => (bound.max.filter fun most => most < measure).map .above

/-- The text about a measure that breaks a bound. -/
def Breach.message (what : String) (measure : K) : Breach K → String
  | .below least =>
    what ++ " " ++ Length.millimetres measure ++ " is below minimum " ++ Length.millimetres least
  | .above most =>
    what ++ " " ++ Length.millimetres measure ++ " exceeds maximum " ++ Length.millimetres most

end DesignRules

/-
**The standard checks.**

* `Check.standard`: the five checks in the order in which they run.
* `Check.named?`: the standard check with a name.
-/

import DesignRules.Check.Clearance
import DesignRules.Check.Disallow
import DesignRules.Check.MinArea
import DesignRules.Check.TrackWidth
import DesignRules.Check.ViaDiameter

namespace DesignRules

namespace Check

variable {K : Type} [Scalar K]

/-- The five checks in the order in which they run. -/
def standard : List (Check K) :=
  [Clearance.check, TrackWidth.check, ViaDiameter.check, MinArea.check, Disallow.check]

/-- The standard check with a name. -/
def named? (name : String) : Option (Check K) := standard.find? fun check => check.name == name

end Check

end DesignRules

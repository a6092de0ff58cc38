/-
**Diameters of vias.**

A via lies on several layers, so no single one is bound, and rules with a layer filter do not count
for it.

* `ViaDiameter.inspect`: what an item breaks.
* `ViaDiameter.check`: the check.
-/

import DesignRules.Check.Limits
import DesignRules.Check.Walk

namespace DesignRules

variable {K : Type} [Scalar K]

namespace ViaDiameter

/-- The violation of a via by the constraint that counts for it. -/
def violation? (site : Site K) (item : Item K) (via : Via K) (entry : Entry K) :
    Option (Violation K) := do
  let bound ← entry.constraint.bound?
  let breach ← bound.breach? via.size
  return site.violation entry (breach.message "via diameter" via.size) none (some via.box)
    [item.id]

/-- What an item breaks; only vias are examined. -/
def inspect (site : Site K) (item : Item K) : Except RunError (Inspection K) :=
  match item.shape with
  | .via via => do
    let entry ← site.resolve .viaDiameter item
    return .ofOption (entry.bind (violation? site item via))
  | _ => return {}

/-- The check of the diameters of vias. -/
def check : Check K :=
  ⟨"via_diameter", [.viaDiameter], fun site state =>
    walkRun site (fun _ item => inspect site item) (fun _ => none) state⟩

end ViaDiameter

end DesignRules

/-
**Areas of rectangles and polygons.**

* `MinArea.measured?`: the layer and the area of an item that has one.
* `MinArea.inspect`: what an item breaks.
* `MinArea.check`: the check.
-/

import DesignRules.Check.Walk
import DesignRules.Length

namespace DesignRules

variable {K : Type} [Scalar K]

namespace MinArea

/-- The layer and the area of a rectangle or a polygon. -/
def measured? : Shape K → Option (LayerId × K)
  | .rectangle shape => some (shape.layer, shape.area)
  | .polygon shape => some (shape.layer, shape.area)
  | _ => none

/-- The text about an area that is too small. -/
def message (area least : K) : String :=
  "area " ++ Length.squareMillimetres area ++ " is below minimum " ++
    Length.squareMillimetres least

/-- The violation of an area by the constraint that counts for it. -/
def violation? (site : Site K) (item : Item K) (layer : LayerId) (area : K) (entry : Entry K) :
    Option (Violation K) := do
  let least ← entry.constraint.min?
  if least ≤ area then none
  else return site.violation entry (message area least) (some layer) item.box? [item.id]

/-- What an item breaks; only rectangles and polygons are examined. -/
def inspect (site : Site K) (item : Item K) : Except RunError (Inspection K) :=
  match measured? item.shape with
  | some (layer, area) => do
    let entry ← site.resolve .minArea item none (some layer)
    return .ofOption (entry.bind (violation? site item layer area))
  | none => return {}

/-- The check of areas. -/
def check : Check K :=
  ⟨"min_area", [.minArea], fun site state =>
    walkRun site (fun _ item => inspect site item) (fun _ => none) state⟩

end MinArea

end DesignRules

/-
**Widths of tracks.**

Every track has to keep the bound of the constraint that counts for it on its layer.

* `TrackWidth.inspect`: what an item breaks.
* `TrackWidth.check`: the check.
-/

import DesignRules.Check.Limits
import DesignRules.Check.Walk

namespace DesignRules

variable {K : Type} [Scalar K]

namespace TrackWidth

/-- The violation of a track by the constraint that counts for it. -/
def violation? (site : Site K) (item : Item K) (track : Path K) (entry : Entry K) :
    Option (Violation K) := do
  let bound ← entry.constraint.bound?
  let breach ← bound.breach? track.width
  return site.violation entry (breach.message "track width" track.width) (some track.layer)
    item.box? [item.id]

/-- What an item breaks; only tracks are examined. -/
def inspect (site : Site K) (item : Item K) : Except RunError (Inspection K) :=
  match item.shape with
  | .path track => do
    let entry ← site.resolve .trackWidth item none (some track.layer)
    return .ofOption (entry.bind (violation? site item track))
  | _ => return {}

/-- The closing message. -/
def closing (tracks : Nat) : String := "track_width: " ++ toString tracks ++ " track(s) checked"

/-- The check of the widths of tracks. -/
def check : Check K :=
  ⟨"track_width", [.trackWidth], fun site state =>
    walkRun site (fun _ item => inspect site item) (fun tracks => some (closing tracks)) state⟩

end TrackWidth

end DesignRules

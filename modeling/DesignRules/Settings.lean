/-
**Settings of a run.**

* `Settings`: how often checks report progress, how many violations are recorded, and whether rules
  that hide later ones are reported.
* `Settings.ofText?`: the settings that a JSON text denotes; what it leaves out keeps its default.
-/

import DesignRules.Json.Fields
import DesignRules.Json.Reader

namespace DesignRules

/-- Settings of a run. -/
structure Settings where
  /-- After how many items a check reports progress and looks whether it has to stop. -/
  progressInterval : Nat := 1000
  /-- How many violations are recorded; all of them if none is given. -/
  maxViolations : Option Nat := none
  /-- Whether rules that hide later ones are reported. -/
  warnOnShadowedRules : Bool := false
  deriving DecidableEq, Repr

namespace Settings

open Json

/-- The largest count that settings can hold. -/
def largestCount : Nat := UInt64.size - 1

/-- A count in settings. -/
def count? : Json → Option Nat
  | .number literal => literal.toNatUpTo? largestCount
  | _ => none

/-- The settings of a JSON value. -/
def ofJson? (json : Json) : Option Settings := do
  let standard : Settings := {}
  match ← json.fields? ["progress_interval", "max_violations", "warn_on_shadowed_rules"] with
  | [interval, limit, warn] =>
    return ⟨← withDefault? standard.progressInterval count? interval,
      ← withDefault? standard.maxViolations (nullable? count?) limit,
      ← withDefault? standard.warnOnShadowedRules toBool? warn⟩
  | _ => none

/-- The settings of a JSON text. -/
def ofText? (text : String) : Option Settings := (Json.ofText? text).bind ofJson?

end Settings

end DesignRules

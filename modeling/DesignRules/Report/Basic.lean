/-
**Reports.**

* `Report`: what a run found and which checks took part.
* `Report.count`, `Report.hasErrors`: how many violations have a severity, and whether any is an
  error.
-/

import DesignRules.Diagnostic
import DesignRules.Violation

namespace DesignRules

/-- The outcome of a run; violations stand in the order in which they were found. -/
structure Report (K : Type) where
  violations : List (Violation K) := []
  notes : List String := []
  diagnostics : List Diagnostic := []
  checksRun : List String := []
  checksSkipped : List String := []
  cancelled : Bool := false
  /-- Whether violations were dropped because the report was full. -/
  truncated : Bool := false
  deriving DecidableEq

namespace Report

variable {K : Type}

/-- How many violations have a severity. -/
def count (report : Report K) (severity : Severity) : Nat :=
  report.violations.countP fun violation => violation.severity == severity

/-- Whether a violation is an error. -/
def hasErrors (report : Report K) : Bool := 0 < report.count .error

end Report

end DesignRules

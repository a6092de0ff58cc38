/-
**Violations.**

* `Violation`: what breaks a constraint, which check found it and where.
* `Violation.text`: how a violation is shown.
-/

import DesignRules.Identity
import DesignRules.Rule.Constraint
import DesignRules.Severity

namespace DesignRules

open Scalar

/-- A place where a design breaks a constraint. -/
structure Violation (K : Type) where
  id : Identity
  check : String
  kind : ConstraintKind
  severity : Severity
  ruleName : String
  message : String
  layer : Option LayerId
  box : Box K
  items : List Identity
  deriving DecidableEq

namespace Violation

variable {K : Type}

/-- The box of a violation without a place. -/
def nowhere [Scalar K] : Box K := ⟨⟨0.0, 0.0⟩, ⟨0.0, 0.0⟩⟩

/-- How a violation is shown. -/
def text (violation : Violation K) : String :=
  "[" ++ violation.severity.name ++ "] " ++ violation.message ++ " (" ++
    violation.kind.keyword ++ ", rule '" ++ violation.ruleName ++ "')"

end Violation

end DesignRules

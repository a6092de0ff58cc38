/-
**Rules.**

A rule declares constraints for the objects that meet its condition on the layers that its filter
admits.

* `Rule.admitsLayer`: whether the filter admits a layer; without a filter every layer is admitted,
  and with one the absence of a layer is not.
* `Rule.isUnconditional`: whether the rule holds for everything.
-/

import DesignRules.Condition.Machine
import DesignRules.Rule.Constraint
import DesignRules.Severity

namespace DesignRules

/-- A rule; of several rules that apply, the one with the least priority counts. -/
structure Rule (K : Type) where
  name : String
  enabled : Bool := true
  priority : Nat
  condition : Option (Condition.Code K) := none
  layer : Option Pattern := none
  severity : Severity := .error
  constraints : List (Constraint K) := []
  line : Nat := 0
  deriving DecidableEq, Repr

namespace Rule

variable {K : Type}

/-- The rule's constraints of a kind, in order. -/
def constraintsOf (rule : Rule K) (kind : ConstraintKind) : List (Constraint K) :=
  rule.constraints.filter fun constraint => constraint.kind == kind

/-- Whether the filter admits a layer. -/
def admitsLayer (rule : Rule K) (stack : LayerStack) (layer : Option LayerId) : Bool :=
  match rule.layer, layer with
  | none, _ => true
  | some pattern, some id => stack.fits id pattern
  | some _, none => false

/-- Whether the rule has neither a condition nor a filter. -/
def isUnconditional (rule : Rule K) : Bool := rule.condition.isNone && rule.layer.isNone

end Rule

end DesignRules

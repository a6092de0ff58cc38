/-
**Constraints.**

* `ConstraintKind`: what a constraint limits, each kind with its keyword.
* `Bound`: a lower limit, an aim and an upper limit, all of them optional.
* `Constraint`: a bound or a list of forbidden kinds, with the rule that declares it.
-/

import DesignRules.Geometry.Shape

namespace DesignRules

/-- What a constraint limits. -/
inductive ConstraintKind where
  | clearance
  | trackWidth
  | viaDiameter
  | minArea
  | disallow
  deriving DecidableEq, Repr

namespace ConstraintKind

/-- All kinds, in their order. -/
def all : List ConstraintKind := [.clearance, .trackWidth, .viaDiameter, .minArea, .disallow]

/-- The word for a kind. -/
def keyword : ConstraintKind → String
  | .clearance => "clearance"
  | .trackWidth => "track_width"
  | .viaDiameter => "via_diameter"
  | .minArea => "min_area"
  | .disallow => "disallow"

/-- The kind that a word names. -/
def ofKeyword? (word : String) : Option ConstraintKind := all.find? fun kind => kind.keyword == word

/-- The message about a word that names no kind. -/
def unknownMessage (word : String) : String := "unknown constraint type '" ++ word ++ "'"

/-- Whether constraints of the kind list keywords instead of bounds. -/
def isCategorical (kind : ConstraintKind) : Bool := kind == .disallow

/-- Whether bounds of the kind are areas. -/
def isArea (kind : ConstraintKind) : Bool := kind == .minArea

theorem mem_all (kind : ConstraintKind) : kind ∈ all := by cases kind <;> decide

theorem ofKeyword?_keyword (kind : ConstraintKind) : ofKeyword? kind.keyword = some kind := by
  cases kind <;> decide

end ConstraintKind

/-- A lower limit, an aim and an upper limit. -/
structure Bound (K : Type) where
  min : Option K := none
  opt : Option K := none
  max : Option K := none
  deriving DecidableEq, Repr

namespace Bound

variable {K : Type}

/-- The bound with a lower limit only. -/
def atLeast (value : K) : Bound K := { min := some value }

/-- Whether nothing is limited. -/
def isEmpty (bound : Bound K) : Bool :=
  bound.min.isNone && bound.opt.isNone && bound.max.isNone

end Bound

/-- What a constraint demands. -/
inductive Demand (K : Type) where
  | bound (bound : Bound K)
  | categories (words : List String)
  deriving DecidableEq, Repr

/-- A demand of some kind with the name and the priority of the rule that declares it. -/
structure Constraint (K : Type) where
  kind : ConstraintKind
  demand : Demand K
  ruleName : String
  rulePriority : Nat
  deriving DecidableEq, Repr

namespace Constraint

variable {K : Type}

/-- The bound, if the constraint has one. -/
def bound? (constraint : Constraint K) : Option (Bound K) :=
  match constraint.demand with
  | .bound bound => some bound
  | .categories _ => none

/-- The forbidden words; none for a constraint with a bound. -/
def categories (constraint : Constraint K) : List String :=
  match constraint.demand with
  | .bound _ => []
  | .categories words => words

/-- The lower limit, if there is one. -/
def min? (constraint : Constraint K) : Option K := constraint.bound?.bind Bound.min

/-- The upper limit, if there is one. -/
def max? (constraint : Constraint K) : Option K := constraint.bound?.bind Bound.max

end Constraint

end DesignRules

/-
**The constraints that checks can ask for.**

A catalog is made from rules for some kinds of constraints. It lists, for each of these kinds, the
constraints of the enabled rules in the order of the rules.

* `Catalog.resolve`: the constraint that counts for some objects, which is the first one whose rule
  applies to them.
* `Catalog.worst`: the constraint with the most extreme limit, whatever its rule applies to.
* `Catalog.shadowing`: which rules hide all later constraints of a kind.
-/

import DesignRules.Diagnostic
import DesignRules.Rule.Basic

namespace DesignRules

open Condition (Context)

/-- Why a check cannot go on. -/
inductive RunError where
  /-- A kind of constraints was asked for that no check had announced. -/
  | unrequested (kind : ConstraintKind)
  /-- A check gives up. -/
  | failed (check message : String)
  /-- No check is registered under a number. -/
  | unknownHandle (handle : Nat)
  deriving DecidableEq, Repr

/-- The text of an error. -/
def RunError.message : RunError → String
  | .unrequested kind =>
    "Constraint type '" ++ kind.keyword ++ "' was not requested by any provider"
  | .failed check message => "Provider '" ++ check ++ "' failed: " ++ message
  | .unknownHandle handle => "Unknown provider handle " ++ toString handle

/-- A constraint with the rule that declares it. -/
structure Entry (K : Type) where
  rule : Rule K
  constraint : Constraint K
  deriving DecidableEq

/-- Whether the rule of an entry applies to what the slots are bound to. -/
def Entry.applies {K : Type} [Scalar K] (entry : Entry K) (context : Context K) : Bool :=
  entry.rule.admitsLayer context.stack context.layer &&
    entry.rule.condition.all fun code => code.holds context

/-- Which extreme of the limits is looked for. -/
inductive Extreme where
  | largestMin
  | smallestMin
  | largestMax
  | smallestMax
  deriving DecidableEq, Repr

namespace Extreme

variable {K : Type}

/-- The limit that is compared. -/
def limit? (extreme : Extreme) (constraint : Constraint K) : Option K :=
  match extreme with
  | .largestMin => constraint.min?
  | .smallestMin => constraint.min?
  | .largestMax => constraint.max?
  | .smallestMax => constraint.max?

/-- Whether a limit is more extreme than the best one so far. -/
def prefers [Scalar K] (extreme : Extreme) (candidate best : K) : Bool :=
  match extreme with
  | .largestMin => best < candidate
  | .largestMax => best < candidate
  | .smallestMin => candidate < best
  | .smallestMax => candidate < best

end Extreme

/-- The entries of each kind that was asked for, the kinds in their order. -/
structure Catalog (K : Type) where
  lists : List (ConstraintKind × List (Entry K)) := []

namespace Catalog

variable {K : Type}

/-- The constraints of a kind in enabled rules, in the order of the rules. -/
def entriesOf (rules : List (Rule K)) (kind : ConstraintKind) : List (Entry K) :=
  (rules.filter Rule.enabled).flatMap fun rule =>
    (rule.constraintsOf kind).map fun constraint => ⟨rule, constraint⟩

/-- The catalog of some rules for the kinds that are asked for. -/
def build (rules : List (Rule K)) (requested : List ConstraintKind) : Catalog K :=
  ⟨(ConstraintKind.all.filter requested.contains).map fun kind => (kind, entriesOf rules kind)⟩

/-- The kinds that were asked for. -/
def requested (catalog : Catalog K) : List ConstraintKind := catalog.lists.map Prod.fst

/-- Whether a kind was asked for. -/
def isRequested (catalog : Catalog K) (kind : ConstraintKind) : Bool :=
  (catalog.lists.lookup kind).isSome

/-- The entries of a kind that was asked for. -/
def entries (catalog : Catalog K) (kind : ConstraintKind) : Except RunError (List (Entry K)) :=
  match catalog.lists.lookup kind with
  | some entries => .ok entries
  | none => .error (.unrequested kind)

/-- How many entries a kind has; none for one that was not asked for. -/
def count (catalog : Catalog K) (kind : ConstraintKind) : Nat :=
  ((catalog.lists.lookup kind).getD []).length

variable [Scalar K]

/-- The first entry of a kind whose rule applies. -/
def resolve (catalog : Catalog K) (kind : ConstraintKind) (context : Context K) :
    Except RunError (Option (Entry K)) :=
  (catalog.entries kind).map fun entries => entries.find? fun entry => entry.applies context

/-- The better one of the best entry so far and another entry; the earlier of equals is kept, and so
is the first that has a limit. -/
def better (extreme : Extreme) (best : Option (K × Entry K)) (entry : Entry K) :
    Option (K × Entry K) :=
  match extreme.limit? entry.constraint, best with
  | none, best => best
  | some limit, none => some (limit, entry)
  | some limit, some (current, kept) =>
    if extreme.prefers limit current then some (limit, entry) else some (current, kept)

/-- The entry of a kind with the most extreme limit. -/
def worst (catalog : Catalog K) (kind : ConstraintKind) (extreme : Extreme) :
    Except RunError (Option (Entry K)) :=
  (catalog.entries kind).map fun entries =>
    (entries.foldl (better extreme) none).map Prod.snd

omit [Scalar K] in
/-- The text about a constraint that hides later ones of its kind. -/
def shadowMessage (kind : ConstraintKind) (hidden : Nat) : String :=
  "unconditional " ++ kind.keyword ++ " constraint shadows " ++ toString hidden ++ " later " ++
    kind.keyword ++ " entr(ies)"

omit [Scalar K] in
/-- The diagnostic about the first constraint of a kind that holds for everything, if others follow
it. -/
def shadow? (kind : ConstraintKind) (entries : List (Entry K)) : Option Diagnostic :=
  match entries.dropWhile fun entry => !entry.rule.isUnconditional with
  | [] => none
  | [_] => none
  | entry :: hidden =>
    some
      { level := .info
        line := some entry.rule.line
        rule := some entry.rule.name
        message := shadowMessage kind hidden.length }

omit [Scalar K] in
/-- The diagnostics about constraints that hide later ones, by kind. -/
def shadowing (catalog : Catalog K) : List Diagnostic :=
  catalog.lists.filterMap fun (kind, entries) => shadow? kind entries

end Catalog

end DesignRules

/-
**Checks that follow a script.**

A script is a list of actions that use all that a check may do while it runs. The answers are kept
in the state of the run.

* `Action`: one thing to do.
* `Action.perform`: the answer to an action, or the error that ends the check.
* `Check.scripted`: the check that follows a script.
-/

import DesignRules.Check.Basic

namespace DesignRules

variable {K : Type} [Scalar K]

/-- One thing that a scripted check does; items are named by their positions. -/
inductive Action where
  | worst (kind : ConstraintKind) (extreme : Extreme)
  | resolve (kind : ConstraintKind) (first : Nat) (second : Option Nat) (layer : Option LayerId)
  | violate (message : String) (kind : ConstraintKind) (first : Nat) (second : Option Nat)
      (layer : Option LayerId)
  | note (message : String)
  | cancel
  | isCancelled
  | checkpoint (done total : Nat)
  | describe
  | fail (message : String)
  deriving DecidableEq, Repr

/-- The constraint that counts for the items at some positions; none where there is no first one. -/
def Site.resolveAt (site : Site K) (kind : ConstraintKind) (first : Nat) (second : Option Nat)
    (layer : Option LayerId) : Except RunError (Option (Entry K)) :=
  match site.design.items[first]? with
  | none => .ok none
  | some item => site.resolve kind item (second.bind fun index => site.design.items[index]?) layer

/-- The answer to an action, or the error that ends the check. -/
def Action.perform (site : Site K) (state : RunState K) :
    Action → RunState K × Except RunError (Answer K)
  | .worst kind extreme => (state, (site.catalog.worst kind extreme).map .resolved)
  | .resolve kind first second layer =>
    (state, (site.resolveAt kind first second layer).map .resolved)
  | .violate message kind first second layer =>
    match site.resolveAt kind first second layer with
    | .error error => (state, .error error)
    | .ok none => (state, .ok .done)
    | .ok (some entry) =>
      let (state, recorded) := state.record (site.violation entry message)
      (state, .ok (.flag recorded))
  | .note message => (state.note message, .ok .done)
  | .cancel => ({ state with signal := .after 0 }, .ok .done)
  | .isCancelled =>
    let (cancelled, state) := state.askCancelled
    (state, .ok (.flag cancelled))
  | .checkpoint done total =>
    let (goOn, state) := site.checkpoint done total state
    (state, .ok (.flag goOn))
  | .describe =>
    (state, .ok (.described site.check site.design.name site.design.stack.size
      site.catalog.requested))
  | .fail message => (state, .error (.failed site.check message))

/-- The actions of a script one after the other, up to the first error. -/
def followScript (site : Site K) : List Action → RunState K → RunState K × Option RunError
  | [], state => (state, none)
  | action :: actions, state =>
    match action.perform site state with
    | (state, .error error) => (state, some error)
    | (state, .ok answer) =>
      followScript site actions { state with answers := state.answers ++ [answer] }

/-- The check that follows a script. -/
def Check.scripted (name : String) (needs : List ConstraintKind) (actions : List Action) :
    Check K :=
  ⟨name, needs, fun site state => followScript site actions state⟩

end DesignRules

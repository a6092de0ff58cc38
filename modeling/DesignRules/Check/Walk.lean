/-
**Checks that go from item to item.**

What such a check finds at an item depends on the design and the constraints alone. Between items it
may be stopped, and at the end it may leave a message about how much it examined.

* `Inspection`: what is found at an item.
* `walk`: the items one after the other.
* `walkRun`: the whole walk, with its closing message.
-/

import DesignRules.Check.Basic

namespace DesignRules

variable {K : Type}

/-- The violations at an item, and how much was examined for them. -/
structure Inspection (K : Type) where
  violations : List (Violation K) := []
  examined : Nat := 0

/-- Inspects the items from position `index` on. Gives how much was examined up to the end, or up to
where the check was stopped. -/
def walk (site : Site K) (inspect : Nat → Item K → Except RunError (Inspection K)) :
    Nat → List (Item K) → Nat → RunState K → RunState K × Except RunError Nat
  | _, [], examined, state => (state, .ok examined)
  | index, item :: rest, examined, state =>
    match site.checkpoint index site.design.items.length state with
    | (false, state) => (state, .ok examined)
    | (true, state) =>
      match inspect index item with
      | .error error => (state, .error error)
      | .ok found =>
        walk site inspect (index + 1) rest (examined + found.examined)
          (state.recordAll found.violations)

/-- The run of a check that inspects all items and closes with a message, if it has one. -/
def walkRun (site : Site K) (inspect : Nat → Item K → Except RunError (Inspection K))
    (message : Nat → Option String) (state : RunState K) : RunState K × Option RunError :=
  match walk site inspect 0 site.design.items 0 state with
  | (state, .error error) => (state, some error)
  | (state, .ok examined) => ((message examined).elim state state.note, none)

/-- The inspection that finds a violation, or nothing. -/
def Inspection.ofOption (violation : Option (Violation K)) : Inspection K :=
  { violations := violation.toList, examined := 1 }

end DesignRules

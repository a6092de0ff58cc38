/-
**Checks.**

A check looks at a design and reports what breaks the constraints of the kinds that it needs. While
it runs it can be told to stop.

* `Signal`: whether a run is cancelled, which may become so after any number of questions.
* `RunState`: what is found so far and the signal.
* `Site`: the design and the constraints that a check works on.
* `Site.checkpoint`: what happens every few items: progress is reported, and the check learns
  whether to go on.
* `Check`: a name, the kinds of constraints that are needed, and the run itself.
-/

import DesignRules.Catalog
import DesignRules.Design.Basic
import DesignRules.Report.Findings
import DesignRules.Settings

namespace DesignRules

open Condition (Context)

/-! ### Cancelling -/

/-- Whether a run is cancelled. A signal that is given after some questions answers these with no
and all later ones with yes. -/
inductive Signal where
  | never
  | after (questions : Nat)
  deriving DecidableEq, Repr

namespace Signal

/-- A signal that is given from the start, or never. -/
def ofBool (given : Bool) : Signal := if given then .after 0 else .never

/-- Whether the signal is given. -/
def isGiven : Signal → Bool
  | .after 0 => true
  | _ => false

/-- The signal after one question. -/
def asked : Signal → Signal
  | .after (questions + 1) => .after questions
  | signal => signal

end Signal

/-! ### The state of a run -/

/-- What a scripted check was told in answer to one of its actions. -/
inductive Answer (K : Type) where
  | done
  | flag (value : Bool)
  | resolved (entry : Option (Entry K))
  | described (check design : String) (layers : Nat) (requested : List ConstraintKind)
  deriving DecidableEq

/-- What a run has found, the signal that stops it, and the answers to scripted checks. -/
structure RunState (K : Type) where
  findings : Findings K
  signal : Signal
  answers : List (Answer K) := []

namespace RunState

variable {K : Type}

/-- Asks whether the run is cancelled. -/
def askCancelled (state : RunState K) : Bool × RunState K :=
  (state.signal.isGiven, { state with signal := state.signal.asked })

/-- Tells the watcher about an event. -/
def tell (state : RunState K) (event : Event K) : RunState K :=
  { state with findings := state.findings.tell event }

/-- Takes a violation; the answer tells whether it is recorded. -/
def record (state : RunState K) (violation : Violation K) : RunState K × Bool :=
  let (findings, recorded) := state.findings.record violation
  ({ state with findings }, recorded)

/-- Takes violations one after the other. -/
def recordAll (state : RunState K) (violations : List (Violation K)) : RunState K :=
  violations.foldl (fun state violation => (state.record violation).1) state

/-- Takes a message. -/
def note (state : RunState K) (message : String) : RunState K :=
  { state with findings := state.findings.note message }

end RunState

/-! ### Checks -/

/-- What a check works on. -/
structure Site (K : Type) where
  check : String
  catalog : Catalog K
  design : Design K
  settings : Settings

namespace Site

variable {K : Type}

/-- How many items lie between two checkpoints. -/
def interval (site : Site K) : Nat := max site.settings.progressInterval 1

/-- Whether to go on with item `done` of `total`. Every few items progress is reported, and the check
stops if the run is cancelled or nothing more can be recorded. -/
def checkpoint (site : Site K) (done total : Nat) (state : RunState K) : Bool × RunState K :=
  if done % site.interval ≠ 0 then (true, state)
  else
    let state := if 0 < total then state.tell (.progress done total) else state
    let (cancelled, state) := state.askCancelled
    (!cancelled && !state.findings.isFull, state)

/-- The slots bound to an item, or to a pair of items, and a layer. -/
def context (site : Site K) (first : Item K) (second : Option (Item K) := none)
    (layer : Option LayerId := none) : Context K :=
  { first := some first, second, layer, stack := site.design.stack }

/-- The constraint that counts for an item, or for a pair of items. -/
def resolve [Scalar K] (site : Site K) (kind : ConstraintKind) (first : Item K)
    (second : Option (Item K) := none) (layer : Option LayerId := none) :
    Except RunError (Option (Entry K)) :=
  site.catalog.resolve kind (site.context first second layer)

/-- A violation of the constraint of an entry, found by the check that works on this site. -/
def violation [Scalar K] (site : Site K) (entry : Entry K) (message : String)
    (layer : Option LayerId := none) (box : Option (Box K) := none)
    (items : List Identity := []) : Violation K :=
  { id := .nil
    check := site.check
    kind := entry.constraint.kind
    severity := entry.rule.severity
    ruleName := entry.rule.name
    message
    layer
    box := box.getD Violation.nowhere
    items }

end Site

/-- A check; its run gives an error if the check had to give up. -/
structure Check (K : Type) where
  name : String
  needs : List ConstraintKind
  run : Site K → RunState K → RunState K × Option RunError

end DesignRules

/-
**What a run has found so far.**

Violations are recorded up to a limit and ignored ones not at all. Whoever watches the run is told
what happens as it happens.

* `Event`: something that a watcher is told.
* `Findings.record`: takes a violation, if it is not ignored and the limit is not reached.
* `Findings.isFull`: whether the limit is reached.
* `Event.logLine`: how an event is logged.
-/

import DesignRules.Report.Basic

namespace DesignRules

open Scalar

/-- Something that a watcher of a run is told. -/
inductive Event (K : Type) where
  /-- A check starts, which is number `index` of `total`. -/
  | stage (name : String) (index total : Nat)
  /-- A part of the work is done. -/
  | progress (done total : Nat)
  /-- A check has a message. -/
  | note (message : String)
  /-- A violation is recorded. -/
  | violation (found : Violation K)
  deriving DecidableEq

/-- The share of the work that is done. -/
def share {K : Type} [Scalar K] (done total : Nat) : K :=
  OfScientific.ofScientific done false 0 / OfScientific.ofScientific total false 0

/-- How an event is logged. -/
def Event.logLine {K : Type} [Scalar K] : Event K → String
  | .stage name index total =>
    "INFO [" ++ toString (index + 1) ++ "/" ++ toString total ++ "] " ++ name
  | .progress done total =>
    "DEBUG progress " ++ fixedText 0 (share done total * 100.0 : K) ++ "%"
  | .note message => "INFO " ++ message
  | .violation found => "WARN " ++ found.text

/-- What a run has found so far. -/
structure Findings (K : Type) where
  limit : Option Nat
  violations : List (Violation K) := []
  notes : List String := []
  truncated : Bool := false
  events : List (Event K) := []

namespace Findings

variable {K : Type}

/-- Tells the watcher about an event. -/
def tell (findings : Findings K) (event : Event K) : Findings K :=
  { findings with events := findings.events ++ [event] }

/-- How many violations are recorded. -/
def size (findings : Findings K) : Nat := findings.violations.length

/-- Whether the limit is reached. -/
def isFull (findings : Findings K) : Bool :=
  findings.limit.any fun limit => limit ≤ findings.size

/-- Takes a violation; the answer tells whether it is recorded. -/
def record (findings : Findings K) (violation : Violation K) : Findings K × Bool :=
  if violation.severity = .ignore then (findings, false)
  else if findings.isFull then ({ findings with truncated := true }, false)
  else
    ({ findings with violations := findings.violations ++ [violation] }.tell
      (.violation violation), true)

/-- Takes a message. -/
def note (findings : Findings K) (message : String) : Findings K :=
  { findings with notes := findings.notes ++ [message] }.tell (.note message)

/-- The report of what was found. -/
def report (findings : Findings K) : Report K :=
  { violations := findings.violations, notes := findings.notes, truncated := findings.truncated }

end Findings

end DesignRules

/-
**Sessions.**

A session holds rules and registered checks. Before a run the catalog is made for all kinds that any
check needs, and each check is judged against it: one that needs a kind without a single constraint
is skipped. New rules and new checks make the catalog and the judgements obsolete.

* `Session.load`, `Session.register`: new rules, and one more check.
* `Session.compile`: the catalog and the judgements.
* `Session.run`: the checks that are not skipped, in the order in which they were registered.
* `Session.stage?`: how far a check has come.
-/

import DesignRules.Check.Basic
import DesignRules.Rule.Reader

namespace DesignRules

open Condition (SlotTable)

/-- How far a registered check has come. -/
inductive Stage where
  | registered
  | negotiating
  | runnable
  | skipped
  | ran
  deriving DecidableEq, Repr

/-- A registered check. -/
structure Registration (K : Type) where
  check : Check K
  stage : Stage := .registered

/-- Rules and checks, with what was made of them. -/
structure Session (K : Type) where
  settings : Settings := {}
  rules : Rules K := {}
  registrations : List (Registration K) := []
  /-- The constraints for the registered checks, from `Session.compile` until it is obsolete. -/
  catalog : Option (Catalog K) := none
  compileDiagnostics : List Diagnostic := []
  signal : Signal := .never

/-- What comes of a run. -/
structure Outcome (K : Type) where
  report : Report K
  events : List (Event K)
  answers : List (Answer K)

namespace Session

variable {K : Type}

/-! ### Rules and checks -/

/-- All diagnostics, those about the rules first. -/
def diagnostics (session : Session K) : List Diagnostic :=
  session.rules.diagnostics ++ session.compileDiagnostics

/-- A session that has to be compiled again. -/
def obsolete (session : Session K) : Session K :=
  { session with
    catalog := none
    compileDiagnostics := []
    registrations := session.registrations.map fun registration => ⟨registration.check, .registered⟩ }

/-- Replaces the rules by those of a document. -/
def load [Scalar K] (session : Session K) (text : String) : Session K :=
  obsolete { session with rules := Rules.ofText SlotTable.standard text }

/-- Registers a check; its handle is the number of checks before it. -/
def register (session : Session K) (check : Check K) : Session K × Nat :=
  (obsolete { session with registrations := session.registrations ++ [⟨check, .registered⟩] },
    session.registrations.length)

/-- Registers checks one after the other. -/
def registerAll (session : Session K) (checks : List (Check K)) : Session K :=
  checks.foldl (fun session check => (session.register check).1) session

/-- The stages of all checks. -/
def stages (session : Session K) : List Stage := session.registrations.map Registration.stage

/-- How far the check with a handle has come. -/
def stage? (session : Session K) (handle : Nat) : Except RunError Stage :=
  match session.stages[handle]? with
  | some stage => .ok stage
  | none => .error (.unknownHandle handle)

/-- Gives the signal to stop. -/
def cancel (session : Session K) : Session K := { session with signal := .after 0 }

/-- Takes the signal to stop back. -/
def resetSignal (session : Session K) : Session K := { session with signal := .never }

/-! ### Compiling -/

/-- The kinds that any check needs. -/
def needs (session : Session K) : List ConstraintKind :=
  session.registrations.flatMap fun registration => registration.check.needs

/-- The kinds that a check needs and of which there is no constraint. -/
def missing (catalog : Catalog K) (check : Check K) : List ConstraintKind :=
  check.needs.filter fun kind => catalog.count kind == 0

/-- The judgement on a check. -/
def judged (catalog : Catalog K) (registration : Registration K) : Registration K :=
  ⟨registration.check,
    if (missing catalog registration.check).isEmpty then .runnable else .skipped⟩

/-- The text about a check that is skipped because some kinds are missing. -/
def skipMessage (name : String) (kinds : List ConstraintKind) : String :=
  "provider '" ++ name ++ "' skipped: no enabled rule declares " ++
    ", ".intercalate (kinds.map ConstraintKind.keyword)

/-- The diagnostic about a check that is skipped. -/
def skip? (catalog : Catalog K) (check : Check K) : Option Diagnostic :=
  match missing catalog check with
  | [] => none
  | kinds => some (.info (skipMessage check.name kinds))

/-- Makes the catalog and judges the checks. -/
def compile (session : Session K) : Session K × Catalog K :=
  let catalog := Catalog.build session.rules.rules session.needs
  let skips := session.registrations.filterMap fun registration => skip? catalog registration.check
  let shadows := if session.settings.warnOnShadowedRules then catalog.shadowing else []
  ({ session with
      registrations := session.registrations.map (judged catalog)
      catalog := some catalog
      compileDiagnostics := skips ++ shadows },
    catalog)

/-- The session compiled, if that is not done already. -/
def compiled (session : Session K) : Session K × Catalog K :=
  match session.catalog with
  | some catalog => (session, catalog)
  | none => session.compile

/-! ### Running -/

/-- How checks were run. -/
structure Passage where
  /-- The positions of the checks that ran. -/
  ran : List Nat := []
  failures : List Diagnostic := []
  /-- Whether the run was stopped before a check. -/
  stopped : Bool := false

/-- The diagnostic about a check that gave up. -/
def failure (name : String) (error : RunError) : Diagnostic :=
  { level := .error, line := none, rule := some name
    message := (RunError.failed name error.message).message }

/-- Runs a check, which is at position `index` of `total`. -/
def runCheck (site : Site K) (check : Check K) (index total : Nat) (state : RunState K) :
    RunState K × Option RunError :=
  let (state, error) := check.run site (state.tell (.stage check.name index total))
  (state.tell (.progress (index + 1) total), error)

/-- Runs the checks from position `index` on that are not skipped, until the signal to stop. -/
def runAll (site : String → Site K) (total : Nat) :
    Nat → List (Registration K) → RunState K → RunState K × Passage
  | _, [], state => (state, {})
  | index, registration :: rest, state =>
    if registration.stage = .skipped then runAll site total (index + 1) rest state
    else
      match state.askCancelled with
      | (true, state) => (state, { stopped := true })
      | (false, state) =>
        let check := registration.check
        let (state, error) := runCheck (site check.name) check index total state
        let (state, passage) := runAll site total (index + 1) rest state
        (state,
          { passage with
            ran := index :: passage.ran
            failures := (error.map (failure check.name)).toList ++ passage.failures })

/-- The registrations, those at some positions at their last stage. -/
def markRan (ran : List Nat) (registrations : List (Registration K)) : List (Registration K) :=
  registrations.mapIdx fun index registration =>
    if index ∈ ran then { registration with stage := .ran } else registration

/-- The names of the checks at some positions. -/
def namesAt (registrations : List (Registration K)) (positions : List Nat) : List String :=
  positions.filterMap fun index =>
    registrations[index]?.map fun registration => registration.check.name

/-- The names of the checks that are skipped. -/
def skippedNames (registrations : List (Registration K)) : List String :=
  (registrations.filter fun registration => registration.stage = .skipped).map fun registration =>
    registration.check.name

/-- Runs the checks on a design, compiling first if that is needed. -/
def run (session : Session K) (design : Design K) : Session K × Outcome K :=
  let (session, catalog) := session.compiled
  let registrations := session.registrations
  let start : RunState K :=
    { findings := { limit := session.settings.maxViolations }, signal := session.signal }
  let site (name : String) : Site K := ⟨name, catalog, design, session.settings⟩
  let (state, passage) := runAll site registrations.length 0 registrations start
  let (cancelled, state) := state.askCancelled
  let report :=
    { state.findings.report with
      diagnostics := session.diagnostics ++ passage.failures
      checksRun := namesAt registrations passage.ran
      checksSkipped := skippedNames registrations
      cancelled := passage.stopped || cancelled }
  ({ session with registrations := markRan passage.ran registrations, signal := state.signal },
    ⟨report, state.findings.events, state.answers⟩)

end Session

end DesignRules

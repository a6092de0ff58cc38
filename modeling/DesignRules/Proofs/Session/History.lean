/-
**A run does not depend on what happened to the session before.**

Whatever was loaded, registered, compiled and run, the next run has the plan that the last document
and the registered checks give. New rules and new checks discard the catalog, compiling makes it
anew, and running leaves the plan alone.

* `Operation`, `Session.after`: what can happen to a session, and the session after some of it.
* `registered`, `lastDocument?`: what the operations leave to a run.
* `IsCurrent`: whether the plan is the one that the rules and checks give.
* `isCurrent_perform`, `isCurrent_after`: one operation, and all of them.
* `run_forgets_history`: the next run is that of a fresh session.
-/

import DesignRules.Decimal.Scalar
import DesignRules.Proofs.Check.Standard
import DesignRules.Proofs.Session.Plan
import Mathlib.Data.List.Induction

namespace DesignRules

variable {K : Type}

/-! ### Operations -/

/-- Something that happens to a session. -/
inductive Operation (K : Type) where
  | load (text : String)
  | register (check : Check K)
  | compile
  | run (design : Design K)
  | cancel
  | resetSignal

/-- The check that an operation registers. -/
def Operation.check? : Operation K → Option (Check K)
  | .register check => some check
  | _ => none

/-- The document that an operation loads. -/
def Operation.document? : Operation K → Option String
  | .load text => some text
  | _ => none

/-- The checks that some operations register, in order. -/
def registered (operations : List (Operation K)) : List (Check K) :=
  operations.filterMap Operation.check?

/-- The last document that some operations load. -/
def lastDocument? (operations : List (Operation K)) : Option String :=
  (operations.filterMap Operation.document?).getLast?

/-- The rules of a document; none where no document was loaded. -/
def rulesOf [Scalar K] (document? : Option String) : Rules K :=
  document?.elim {} (Rules.ofText Condition.SlotTable.standard)

/-- Whether a check leaves a signal alone that is not given. -/
def Check.KeepsSignal (check : Check K) : Prop :=
  ∀ (site : Site K) (state : RunState K), state.signal = .never →
    (check.run site state).1.signal = .never

namespace Session

variable [Scalar K]

/-- The session after an operation. -/
def perform (session : Session K) : Operation K → Session K
  | .load text => session.load text
  | .register check => (session.register check).1
  | .compile => session.compile.1
  | .run design => (session.run design).1
  | .cancel => session.cancel
  | .resetSignal => session.resetSignal

/-- The session after some operations. -/
def after (session : Session K) (operations : List (Operation K)) : Session K :=
  operations.foldl perform session

/-- A new session with some checks and the rules of a document, if there is one. -/
def fresh (settings : Settings) (checks : List (Check K)) (document? : Option String) : Session K :=
  let session := registerAll { settings } checks
  document?.elim session session.load

/-! ### Plans through operations -/

/-- Whether the plan of a session is the one that its rules and checks give. -/
def IsCurrent (session : Session K) : Prop :=
  session.plan = Plan.ofRules session.settings session.rules session.checks

omit [Scalar K] in
theorem isCurrent_of_none {session : Session K} (unknown : session.catalog = none) :
    session.IsCurrent := plan_of_none unknown

omit [Scalar K] in
theorem checks_obsolete (session : Session K) : session.obsolete.checks = session.checks := by
  show (session.registrations.map _).map _ = _
  rw [List.map_map]
  rfl

omit [Scalar K] in
theorem checks_register (session : Session K) (check : Check K) :
    (session.register check).1.checks = session.checks ++ [check] := by
  rw [register, checks_obsolete]
  exact List.map_append

omit [Scalar K] in
/-- The signal is no part of the plan. -/
theorem plan_withSignal (session : Session K) (signal : Signal) :
    { session with signal }.plan = session.plan := by
  unfold plan compiled
  cases session.catalog with
  | none => rfl
  | some catalog => rfl

/-- **One operation keeps the plan current.** -/
theorem isCurrent_perform {session : Session K} (current : session.IsCurrent)
    (operation : Operation K) : (session.perform operation).IsCurrent := by
  cases operation with
  | load text => exact isCurrent_of_none rfl
  | register check => exact isCurrent_of_none rfl
  | compile =>
    show session.compile.1.plan = _
    rw [plan_compile, ← checks_compile]
    rfl
  | run design =>
    obtain ⟨settings, rules, checks⟩ := session.run_frame design
    show (session.run design).1.plan = _
    rw [plan_run, perform, settings, rules, checks]
    exact current
  | cancel => exact (plan_withSignal session _).trans current
  | resetSignal => exact (plan_withSignal session _).trans current

/-- **The plan is current after all operations.** -/
theorem isCurrent_after {session : Session K} (current : session.IsCurrent)
    (operations : List (Operation K)) : (session.after operations).IsCurrent := by
  induction operations generalizing session with
  | nil => exact current
  | cons operation operations ih => exact ih (isCurrent_perform current operation)

/-! ### What the operations leave -/

/-- One operation leaves the settings, and the rules unless it loads others. -/
theorem perform_frame (session : Session K) (operation : Operation K) :
    (session.perform operation).settings = session.settings ∧
      (session.perform operation).rules =
        operation.document?.elim session.rules (Rules.ofText Condition.SlotTable.standard) := by
  cases operation with
  | run design =>
    obtain ⟨settings, rules, -⟩ := session.run_frame design
    exact ⟨settings, rules⟩
  | _ => exact ⟨rfl, rfl⟩

theorem checks_perform (session : Session K) (operation : Operation K) :
    (session.perform operation).checks = session.checks ++ operation.check?.toList := by
  have unchanged : session.checks = session.checks ++ [] := (List.append_nil _).symm
  cases operation with
  | register check => exact checks_register session check
  | load text => exact (checks_obsolete _).trans unchanged
  | compile => exact session.checks_compile.trans unchanged
  | run design => exact (session.run_frame design).2.2.trans unchanged
  | cancel => exact unchanged
  | resetSignal => exact unchanged

theorem settings_after (session : Session K) (operations : List (Operation K)) :
    (session.after operations).settings = session.settings := by
  induction operations generalizing session with
  | nil => rfl
  | cons operation operations ih => exact (ih _).trans (perform_frame session operation).1

theorem checks_after (session : Session K) (operations : List (Operation K)) :
    (session.after operations).checks = session.checks ++ registered operations := by
  induction operations generalizing session with
  | nil => exact (List.append_nil _).symm
  | cons operation operations ih =>
    refine (ih _).trans ?_
    rw [checks_perform, List.append_assoc]
    cases registers : operation.check? with
    | none => simp [registered, registers]
    | some check => simp [registered, registers]

/-- The rules are those of the last document. -/
theorem rules_after (session : Session K) (operations : List (Operation K)) :
    (session.after operations).rules =
      (lastDocument? operations).elim session.rules
        (Rules.ofText Condition.SlotTable.standard) := by
  induction operations using List.reverseRecOn with
  | nil => rfl
  | append_singleton operations operation ih =>
    have last : session.after (operations ++ [operation]) =
        (session.after operations).perform operation := List.foldl_append
    rw [last, (perform_frame _ _).2]
    cases loads : operation.document? with
    | none => simpa [lastDocument?, loads] using ih
    | some text => simp [lastDocument?, loads]

/-- A fresh session is one after some operations as well. -/
theorem fresh_eq_after (settings : Settings) (checks : List (Check K)) (document? : Option String) :
    fresh settings checks document? =
      after { settings } (checks.map .register ++ (document?.map .load).toList) := by
  unfold fresh after registerAll
  rw [List.foldl_append, List.foldl_map]
  cases document? with
  | none => rfl
  | some text => rfl

/-- **The plan after any operations** is the one that the last document and the checks give. -/
theorem plan_after (settings : Settings) (operations : List (Operation K)) :
    (after { settings } operations).plan =
      Plan.ofRules settings (rulesOf (lastDocument? operations)) (registered operations) := by
  have current : IsCurrent ({ settings } : Session K) := isCurrent_of_none rfl
  have planned := isCurrent_after current operations
  rw [IsCurrent, settings_after, rules_after, checks_after] at planned
  exact planned

omit [Scalar K] in
theorem registered_map_register (checks : List (Check K)) :
    registered (checks.map Operation.register) = checks := by
  rw [registered, List.filterMap_map]
  exact List.filterMap_some

omit [Scalar K] in
theorem documents_map_register (checks : List (Check K)) :
    (checks.map Operation.register).filterMap Operation.document? = [] := by
  rw [List.filterMap_map, List.filterMap_eq_nil_iff]
  exact fun _ _ => rfl

theorem plan_fresh (settings : Settings) (checks : List (Check K)) (document? : Option String) :
    (fresh settings checks document?).plan = Plan.ofRules settings (rulesOf document?) checks := by
  have registers := registered_map_register checks
  have loads := documents_map_register checks
  rw [fresh_eq_after, plan_after]
  cases document? with
  | none =>
    rw [Option.map_none, Option.toList, List.append_nil, registers, lastDocument?, loads]
    rfl
  | some text =>
    rw [Option.map_some, Option.toList, lastDocument?, List.filterMap_append, loads, registered,
      List.filterMap_append, ← registered, registers]
    exact congrArg _ (List.append_nil _)

theorem settings_fresh (settings : Settings) (checks : List (Check K))
    (document? : Option String) : (fresh settings checks document?).settings = settings := by
  rw [fresh_eq_after, settings_after]

theorem checks_fresh (settings : Settings) (checks : List (Check K)) (document? : Option String) :
    (fresh settings checks document?).checks = checks := by
  rw [← map_fst_roster, plan_fresh, Plan.ofRules, List.map_map]
  exact List.map_id checks

/-! ### Signals -/

omit [Scalar K] in
theorem signal_registerAll (session : Session K) (checks : List (Check K)) :
    (session.registerAll checks).signal = session.signal := by
  induction checks generalizing session with
  | nil => rfl
  | cons check checks ih => exact ih (session.register check).1

theorem signal_fresh (settings : Settings) (checks : List (Check K)) (document? : Option String) :
    (fresh settings checks document?).signal = .never := by
  have registers := signal_registerAll ({ settings } : Session K) checks
  cases document? with
  | none => exact registers
  | some text => exact registers

omit [Scalar K] in
/-- A run of checks that leave the signal alone does so too. -/
theorem signal_runAll {site : String → Site K} {total : Nat}
    {registrations : List (Registration K)}
    (keep : ∀ registration ∈ registrations, registration.check.KeepsSignal) (index : Nat)
    {state : RunState K} (never : state.signal = .never) :
    (runAll site total index registrations state).1.signal = .never := by
  induction registrations generalizing index state with
  | nil => exact never
  | cons registration registrations ih =>
    have others : ∀ other ∈ registrations, other.check.KeepsSignal :=
      fun other member => keep other (List.mem_cons_of_mem _ member)
    rw [fst_runAll_cons]
    split
    · exact ih others (index + 1) never
    · have asked : state.askCancelled.2.signal = .never := by
        show state.signal.asked = .never
        rw [never]
        rfl
      rw [if_neg (by rw [never]; exact Bool.false_ne_true)]
      exact ih others (index + 1) (keep registration List.mem_cons_self _ _ asked)

omit [Scalar K] in
theorem signal_run {session : Session K} (never : session.signal = .never)
    (keep : ∀ check ∈ session.checks, check.KeepsSignal) (design : Design K) :
    (session.run design).1.signal = .never := by
  have compiledKeep : ∀ registration ∈ session.compiled.1.registrations,
      registration.check.KeepsSignal := by
    intro registration member
    refine keep _ ?_
    rw [← session.compiled_frame.2.2.1]
    exact List.mem_map_of_mem member
  have start : session.compiled.1.signal = .never := by
    rw [session.compiled_frame.2.2.2, never]
  show (runAll _ _ 0 session.compiled.1.registrations _).1.signal.asked = .never
  rw [signal_runAll compiledKeep 0 start]
  rfl

theorem keepsSignal_of_mem_standard {check : Check K} (standard : check ∈ Check.standard) :
    check.KeepsSignal := by
  intro site state never
  exact Signal.Later.eq_never (never ▸ (isTour_of_mem_standard standard).later_run site state)

/-- **A run forgets the history of its session.** Its catalog and the checks that it skips are those
that the last document and all registered checks give. If the signal is not given, it has the
outcome of a new session with the same settings into which the same checks are registered and the
last document is loaded; and if no check gives the signal, a second run has the outcome of the
first. -/
theorem run_forgets_history (settings : Settings) (operations : List (Operation K))
    (design : Design K) :
    (after { settings } operations).plan =
        Plan.ofRules settings (rulesOf (lastDocument? operations)) (registered operations) ∧
      ((after { settings } operations).signal = .never →
        ((after { settings } operations).run design).2 =
            ((fresh settings (registered operations) (lastDocument? operations)).run design).2 ∧
          ((∀ check ∈ registered operations, check ∈ Check.standard ∨ check.KeepsSignal) →
            (((after { settings } operations).run design).1.run design).2 =
              ((after { settings } operations).run design).2)) := by
  have planned := plan_after settings operations
  refine ⟨planned, fun unset => ⟨?_, fun quiet => ?_⟩⟩
  · refine run_eq_of_plan_eq (planned.trans (plan_fresh settings _ _).symm) ?_ design
    rw [unset, signal_fresh]
  · have keep : ∀ check ∈ (after { settings } operations).checks, check.KeepsSignal := by
      rw [checks_after]
      exact fun check member => (quiet check member).elim keepsSignal_of_mem_standard id
    exact run_eq_of_plan_eq (plan_run _ design) ((signal_run unset keep design).trans unset.symm)
      design

/-- A square on the layer with number zero. -/
def square (name : String) : Item Float :=
  { id := .nil, name, shape := .rectangle ⟨0, ⟨0.0, 0.0⟩, ⟨1.0, 1.0⟩⟩ }

/-- Two squares. -/
def twoSquares : Design Float := ⟨.nil, "two squares", {}, [square "first", square "second"]⟩

/-- Rules and checks are added after a run, and the signal is given and taken back. -/
def reloading : List (Operation Float) :=
  [.load "(rule vias (constraint disallow via))", .register Disallow.check, .compile,
    .run twoSquares, .cancel, .load "(rule none (constraint disallow rect))",
    .register TrackWidth.check, .run twoSquares, .resetSignal]

/-- Only the second document and both checks count. -/
theorem run_forgets_history_of_reloading :
    (after {} reloading).signal = .never ∧
      ((after {} reloading).run twoSquares).2 =
        ((fresh {} [Disallow.check, TrackWidth.check]
          (some "(rule none (constraint disallow rect))")).run twoSquares).2 ∧
      (((after {} reloading).run twoSquares).1.run twoSquares).2 =
        ((after {} reloading).run twoSquares).2 := by
  have unset : (after {} reloading).signal = .never := by decide +kernel
  have standard : ∀ check ∈ registered reloading, check ∈ Check.standard ∨ check.KeepsSignal := by
    have only : registered reloading = [Disallow.check, TrackWidth.check] := rfl
    rw [only]
    simp [Check.standard]
  obtain ⟨same, again⟩ := (run_forgets_history {} reloading twoSquares).2 unset
  exact ⟨unset, same, again standard⟩

end Session

end DesignRules

/-
**What a limit on violations costs.**

A report holds at most as many violations as the settings allow. A run that is not cancelled finds
the first violations that there are, up to the limit; so a report below its limit is complete. A
report that has just reached it may have stopped the checks before they came to more, and then does
not say that anything is missing.

* `Session.unlimited`: the session without a limit.
* `follows_runAll`: the run of all checks under a limit, and without one.
* `report_cut_at_limit`: what a report that is not cancelled contains.
* `full_report_can_be_incomplete`: a report can lack violations without being called truncated.
-/

import DesignRules.Proofs.Check.Limit
import DesignRules.Proofs.Session.History

namespace DesignRules.Session

variable {K : Type}

/-- The session with no limit on violations and with a signal that is never given. -/
def unlimited (session : Session K) : Session K :=
  { session with
    settings := { session.settings with maxViolations := none }
    signal := .never }

theorem compiled_unlimited (session : Session K) :
    session.unlimited.compiled = (session.compiled.1.unlimited, session.compiled.2) :=
  compiled_change unlimited rfl rfl

/-! ### The run of all checks -/

section Checks

variable {registrations : List (Registration K)} {site : String → Site K} {total : Nat}

theorem later_askCancelled (state : RunState K) :
    state.signal.Later state.askCancelled.2.signal := .asked .now

/-- Running checks on their courses only asks for the signal. -/
theorem later_runAll (tours : ∀ registration ∈ registrations, registration.check.IsTour)
    (index : Nat) (state : RunState K) :
    state.signal.Later (runAll site total index registrations state).1.signal := by
  induction registrations generalizing index state with
  | nil => exact .now
  | cons registration rest ih =>
    have others : ∀ other ∈ rest, other.check.IsTour :=
      fun other member => tours other (List.mem_cons_of_mem _ member)
    have asked := later_askCancelled state
    rw [fst_runAll_cons]
    split
    · exact ih others (index + 1) state
    · split
      · exact asked
      · have ran := (tours registration List.mem_cons_self).later_run
          (site registration.check.name)
          (state.askCancelled.2.tell (.stage registration.check.name index total))
        refine (asked.trans ran).trans (Signal.Later.trans ?_ (ih others (index + 1) _))
        rw [fst_runCheck]
        exact .now

variable {limit : Option Nat} {cut whole : RunState K}

/-- **All checks**: the limited run follows the other one from check to check. -/
theorem follows_runAll (tours : ∀ registration ∈ registrations, registration.check.IsTour)
    (settings : Settings) (never : whole.signal = .never) (follows : cut.Follows limit whole)
    (index : Nat) :
    (runAll site total index registrations cut).1.Follows limit
      (runAll (fun name => { site name with settings }) total index registrations whole).1 := by
  induction registrations generalizing index cut whole with
  | nil => exact follows
  | cons registration rest ih =>
    have others : ∀ other ∈ rest, other.check.IsTour :=
      fun other member => tours other (List.mem_cons_of_mem _ member)
    have tour := tours registration List.mem_cons_self
    rcases follows with given | cuts
    · exact .inl ((later_runAll tours index cut).isGiven given)
    · have asked : whole.askCancelled.2.signal = .never := by
        show whole.signal.asked = .never
        rw [never]
        rfl
      have passes : ¬ whole.signal.isGiven = true := by
        rw [never]
        exact Bool.false_ne_true
      rw [fst_runAll_cons, fst_runAll_cons]
      by_cases skipped : registration.stage = .skipped
      · rw [if_pos skipped, if_pos skipped]
        exact ih others never (.inr cuts) (index + 1)
      · rw [if_neg skipped, if_neg skipped, if_neg passes]
        by_cases given : cut.signal.isGiven = true
        · rw [if_pos given]
          exact .inl ((later_askCancelled cut).isGiven given)
        · rw [if_neg given]
          have asks : cut.askCancelled.2.Follows limit whole.askCancelled.2 := .inr cuts
          have toldNever :
              (whole.askCancelled.2.tell (.stage registration.check.name index total)).signal =
                .never := asked
          have ran := tour.follows_run toldNever (asks.tell _) (site registration.check.name)
            settings
          rw [fst_runCheck, fst_runCheck]
          refine ih others (Signal.Later.eq_never ?_) (ran.tell _) (index + 1)
          rw [← toldNever]
          exact tour.later_run _ _

end Checks

/-! ### Reports -/

section Reports

variable (session : Session K) (design : Design K)

/-- The state in which the checks leave a run. -/
def finalState : RunState K :=
  (runAll (fun name => ⟨name, session.compiled.2, design, session.compiled.1.settings⟩)
    session.compiled.1.registrations.length 0 session.compiled.1.registrations
    { findings := { limit := session.compiled.1.settings.maxViolations }
      signal := session.compiled.1.signal }).1

theorem violations_run :
    (session.run design).2.report.violations = (session.finalState design).findings.violations :=
  rfl

theorem truncated_run :
    (session.run design).2.report.truncated = (session.finalState design).findings.truncated :=
  rfl

variable {session design} in
theorem isGiven_eq_false_of_finished (finished : (session.run design).2.report.cancelled = false) :
    (session.finalState design).signal.isGiven = false :=
  (Bool.or_eq_false_iff.mp finished).2

theorem finalState_unlimited :
    session.unlimited.finalState design =
      (runAll
        (fun name =>
          { (⟨name, session.compiled.2, design, session.compiled.1.settings⟩ : Site K) with
            settings := session.compiled.1.unlimited.settings })
        session.compiled.1.registrations.length 0 session.compiled.1.registrations
        { findings := { limit := none }, signal := .never }).1 := by
  unfold finalState
  rw [compiled_unlimited]
  rfl

variable {session} in
theorem isTour_of_compiled (tours : ∀ check ∈ session.checks, check.IsTour) :
    ∀ registration ∈ session.compiled.1.registrations, registration.check.IsTour := by
  intro registration member
  refine tours _ ?_
  rw [← session.compiled_frame.2.2.1]
  exact List.mem_map_of_mem member

variable {session} in
/-- A run that is not cancelled finds what the unlimited run finds, cut at the limit. -/
theorem cuts_finalState (tours : ∀ check ∈ session.checks, check.IsTour)
    (finished : (session.run design).2.report.cancelled = false) :
    (session.finalState design).findings.Cuts session.settings.maxViolations
      (session.unlimited.finalState design).findings := by
  rw [← session.compiled_frame.1, finalState_unlimited]
  have start : RunState.Follows session.compiled.1.settings.maxViolations
      ({ findings := { limit := session.compiled.1.settings.maxViolations }
         signal := session.compiled.1.signal } : RunState K)
      { findings := { limit := none }, signal := .never } :=
    .inr ⟨rfl, rfl, (admitted_nil _).symm, nofun⟩
  refine (follows_runAll (isTour_of_compiled tours) session.compiled.1.unlimited.settings rfl start
    0).resolve_left fun given => ?_
  have ends := isGiven_eq_false_of_finished finished
  rw [finalState, given] at ends
  cases ends

end Reports

/-- **What a report holds that is not cancelled.** Its violations are the first ones that a run
without a limit finds, as many as the limit admits. If they are fewer than the limit, none is
missing; and if the report says that it is truncated, some are. -/
theorem report_cut_at_limit [Scalar K] (session : Session K) (design : Design K)
    (standard : ∀ check ∈ session.checks, check ∈ Check.standard)
    (finished : (session.run design).2.report.cancelled = false) :
    (session.run design).2.report.violations =
        admitted session.settings.maxViolations
          (session.unlimited.run design).2.report.violations ∧
      ((∀ limit, session.settings.maxViolations = some limit →
          (session.run design).2.report.violations.length < limit) →
        (session.run design).2.report.truncated = false ∧
          (session.run design).2.report.violations =
            (session.unlimited.run design).2.report.violations) ∧
      ((session.run design).2.report.truncated = true →
        (session.run design).2.report.violations ≠
          (session.unlimited.run design).2.report.violations) := by
  have cuts := cuts_finalState design
    (fun check member => isTour_of_mem_standard (standard check member)) finished
  rw [violations_run, violations_run, truncated_run]
  refine ⟨cuts.violations, fun below => ?_, cuts.ne_of_truncated⟩
  have complete : (session.finalState design).findings.violations =
      (session.unlimited.finalState design).findings.violations := by
    rw [cuts.violations] at below ⊢
    exact eq_of_admitted_of_lt below
  exact ⟨eq_false_of_ne_true fun dropped => cuts.ne_of_truncated dropped complete, complete⟩

/-- A session that forbids rectangles and looks at every item whether it has to stop. -/
def forbiddingRectangles (limit : Nat) : Session Float :=
  fresh { progressInterval := 1, maxViolations := some limit } [Disallow.check]
    (some "(rule none (constraint disallow rect))")

/-- With a limit of one the first square is reported, with a limit of three both are. -/
theorem report_cut_at_limit_of_two_squares :
    ((forbiddingRectangles 1).run twoSquares).2.report.violations =
        ((forbiddingRectangles 1).unlimited.run twoSquares).2.report.violations.take 1 ∧
      ((forbiddingRectangles 3).run twoSquares).2.report.truncated = false ∧
      ((forbiddingRectangles 3).run twoSquares).2.report.violations =
        ((forbiddingRectangles 3).unlimited.run twoSquares).2.report.violations := by
  have standard (limit : Nat) :
      ∀ check ∈ (forbiddingRectangles limit).checks, check ∈ Check.standard := by
    have only : (forbiddingRectangles limit).checks = [Disallow.check] := rfl
    rw [only]
    simp [Check.standard]
  have first := report_cut_at_limit (forbiddingRectangles 1) twoSquares (standard 1)
    (by decide +kernel)
  have both := report_cut_at_limit (forbiddingRectangles 3) twoSquares (standard 3)
    (by decide +kernel)
  refine ⟨first.1, both.2.1 fun limit equal => ?_⟩
  obtain rfl : 3 = limit := Option.some.inj equal
  decide +kernel

/-- **A full report can be incomplete and not say so.** The check is stopped at the second square,
because the report is full, and no violation is dropped. -/
theorem full_report_can_be_incomplete :
    ¬ ∀ (text : String) (design : Design Float) (settings : Settings)
        (checks : List (Check Float)), (∀ check ∈ checks, check ∈ Check.standard) →
        ((fresh settings checks (some text)).run design).2.report.truncated = false →
        ((fresh settings checks (some text)).run design).2.report.cancelled = false →
        ((fresh settings checks (some text)).run design).2.report.violations =
          ((fresh settings checks (some text)).unlimited.run design).2.report.violations := by
  intro complete
  have equal := complete "(rule none (constraint disallow rect))" twoSquares
    { progressInterval := 1, maxViolations := some 1 } [Disallow.check]
    (by simp [Check.standard]) (by decide +kernel) (by decide +kernel)
  have found : ((forbiddingRectangles 1).run twoSquares).2.report.violations.length = 1 := by
    decide +kernel
  have all :
      ((forbiddingRectangles 1).unlimited.run twoSquares).2.report.violations.length = 2 := by
    decide +kernel
  have lengths := found.symm.trans ((congrArg List.length equal).trans all)
  cases lengths

end DesignRules.Session

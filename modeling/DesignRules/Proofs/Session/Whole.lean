/-
**What a run finds that nothing stops.**

Without a limit, and with a signal that is never given, each check that is not skipped records what
it finds alone, and the report lists all of it in the order of the checks.

* `runAll_of_isFree`: the run of all checks.
* `violations_run_of_isFree`, `mem_violations_run_iff`: the report of a session, from its plan and
  from its rules and checks.
* `violations_fresh_run`, `mem_violations_fresh_run_iff`: the report on a document and a design.
-/

import DesignRules.Proofs.Check.Whole
import DesignRules.Proofs.Session.Limit

namespace DesignRules.Session

variable {K : Type}

/-- What the checks of some registrations find that are not skipped. -/
def foundBy (site : String → Site K) (registrations : List (Registration K)) :
    List (Violation K) :=
  (roster registrations).flatMap fun entry =>
    if entry.2 then [] else entry.1.foundOn (site entry.1.name)

theorem foundBy_cons (site : String → Site K) (registration : Registration K)
    (rest : List (Registration K)) :
    foundBy site (registration :: rest) =
      (if registration.stage = .skipped then []
        else registration.check.foundOn (site registration.check.name)) ++ foundBy site rest := by
  rw [foundBy, roster, List.map_cons, List.flatMap_cons]
  simp only [beq_iff_eq]
  rfl

/-- **The run of all checks**: each adds what it finds alone. -/
theorem runAll_of_isFree (site : String → Site K) (total : Nat)
    {registrations : List (Registration K)}
    (tours : ∀ registration ∈ registrations, registration.check.IsTour) (index : Nat)
    {state : RunState K} (free : state.IsFree) :
    state.Extends (foundBy site registrations)
      (runAll site total index registrations state).1 := by
  induction registrations generalizing index state with
  | nil => exact .refl free
  | cons registration rest ih =>
    have others : ∀ other ∈ rest, other.check.IsTour :=
      fun other member => tours other (List.mem_cons_of_mem _ member)
    rw [fst_runAll_cons, foundBy_cons]
    by_cases skipped : registration.stage = .skipped
    · rw [if_pos skipped, if_pos skipped]
      exact ih others (index + 1) free
    · have passes : ¬ state.signal.isGiven = true := by
        rw [free.never]
        exact Bool.false_ne_true
      have asked : state.askCancelled.2.signal = state.signal := by
        show state.signal.asked = state.signal
        rw [free.never]
        rfl
      rw [if_neg skipped, if_neg skipped, if_neg passes, fst_runCheck]
      have begun : state.Extends []
          (state.askCancelled.2.tell (.stage registration.check.name index total)) :=
        (RunState.Extends.refl free).of_tally asked rfl
      have ran := (tours registration List.mem_cons_self).run_of_isFree
        (site registration.check.name) begun.isFree
      have told : RunState.Extends _ _
          ((registration.check.run (site registration.check.name)
            (state.askCancelled.2.tell (.stage registration.check.name index total))).1.tell
              (.progress (index + 1) total)) := ran.of_tally rfl rfl
      exact (begun.trans told).trans (ih others (index + 1) told.isFree)

/-- **The report of a run that nothing stops.** -/
theorem violations_run_of_isFree {session : Session K} (unset : session.signal = .never)
    (unlimited : session.settings.maxViolations = none)
    (tours : ∀ check ∈ session.checks, check.IsTour) (design : Design K) :
    (session.run design).2.report.violations =
      session.plan.roster.flatMap fun entry =>
        if entry.2 then []
        else entry.1.foundOn ⟨entry.1.name, session.plan.catalog, design, session.settings⟩ := by
  have start : RunState.IsFree
      ({ findings := { limit := session.compiled.1.settings.maxViolations }
         signal := session.compiled.1.signal } : RunState K) := by
    refine ⟨?_, ?_⟩
    · exact session.compiled_frame.2.2.2.trans unset
    · exact (congrArg Settings.maxViolations session.compiled_frame.1).trans unlimited
  have ran := runAll_of_isFree
    (fun name => ⟨name, session.compiled.2, design, session.compiled.1.settings⟩)
    session.compiled.1.registrations.length (isTour_of_compiled tours) 0 start
  rw [violations_run, finalState, ran.violations, session.compiled_frame.1]
  rfl

/-! ### Plans that are current -/

/-- The site of a check in a run on some rules, for some checks. -/
def siteFor (rules : Rules K) (checks : List (Check K)) (settings : Settings) (design : Design K)
    (name : String) : Site K :=
  ⟨name, Catalog.build rules.rules (checks.flatMap Check.needs), design, settings⟩

/-- What the checks of a plan find that are not skipped. -/
theorem flatMap_roster_ofRules (settings : Settings) (rules : Rules K) (checks : List (Check K))
    (design : Design K) :
    ((Plan.ofRules settings rules checks).roster.flatMap fun entry =>
        if entry.2 then []
        else entry.1.foundOn
          ⟨entry.1.name, (Plan.ofRules settings rules checks).catalog, design, settings⟩) =
      checks.flatMap fun check =>
        if missing (Catalog.build rules.rules (checks.flatMap Check.needs)) check = []
          then check.foundOn (siteFor rules checks settings design check.name)
          else [] := by
  show (checks.map _).flatMap _ = _
  rw [List.flatMap_map]
  refine List.flatMap_congr fun check _ => ?_
  cases lacking : missing (Catalog.build rules.rules (checks.flatMap Check.needs)) check with
  | nil => rfl
  | cons kind kinds => rfl

theorem mem_flatMap_backed_iff {rules : Rules K} {checks : List (Check K)} {settings : Settings}
    {design : Design K} {violation : Violation K} :
    (violation ∈ checks.flatMap fun check =>
        if missing (Catalog.build rules.rules (checks.flatMap Check.needs)) check = []
          then check.foundOn (siteFor rules checks settings design check.name)
          else []) ↔
      ∃ check ∈ checks,
        missing (Catalog.build rules.rules (checks.flatMap Check.needs)) check = [] ∧
          violation ∈ check.foundOn (siteFor rules checks settings design check.name) := by
  rw [List.mem_flatMap]
  refine exists_congr fun check => and_congr_right fun _ => ?_
  split
  · rename_i backed
    exact ⟨fun member => ⟨backed, member⟩, fun both => both.2⟩
  · rename_i lacking
    exact ⟨fun member => absurd member List.not_mem_nil, fun both => absurd both.1 lacking⟩

/-- **The report of a session with a current plan**: each check that has all its kinds records what
it finds alone. -/
theorem mem_violations_run_iff {session : Session K} (current : session.IsCurrent)
    (unset : session.signal = .never) (unlimited : session.settings.maxViolations = none)
    (tours : ∀ check ∈ session.checks, check.IsTour) (design : Design K)
    (violation : Violation K) :
    violation ∈ (session.run design).2.report.violations ↔
      ∃ check ∈ session.checks,
        missing (Catalog.build session.rules.rules (session.checks.flatMap Check.needs)) check = [] ∧
          violation ∈ check.foundOn
            (siteFor session.rules session.checks session.settings design check.name) := by
  rw [violations_run_of_isFree unset unlimited tours, current, flatMap_roster_ofRules,
    mem_flatMap_backed_iff]

section Fresh

variable [Scalar K] {settings : Settings} {checks : List (Check K)}
  (unlimited : settings.maxViolations = none) (tours : ∀ check ∈ checks, check.IsTour)
  (document? : Option String) (design : Design K)

include unlimited tours

/-- **The report on a document and a design**: each check that has all its kinds records what it
finds alone. -/
theorem violations_fresh_run :
    ((fresh settings checks document?).run design).2.report.violations =
      checks.flatMap fun check =>
        if missing (Catalog.build (rulesOf document?).rules (checks.flatMap Check.needs)) check = []
          then check.foundOn (siteFor (rulesOf document?) checks settings design check.name)
          else [] := by
  have touring : ∀ check ∈ (fresh settings checks document?).checks, check.IsTour := by
    rw [checks_fresh]
    exact tours
  have free : (fresh settings checks document?).settings.maxViolations = none := by
    rw [settings_fresh, unlimited]
  rw [violations_run_of_isFree (signal_fresh ..) free touring, plan_fresh, settings_fresh,
    flatMap_roster_ofRules]

theorem mem_violations_fresh_run_iff (violation : Violation K) :
    violation ∈ ((fresh settings checks document?).run design).2.report.violations ↔
      ∃ check ∈ checks,
        missing (Catalog.build (rulesOf document?).rules (checks.flatMap Check.needs)) check = [] ∧
          violation ∈
            check.foundOn (siteFor (rulesOf document?) checks settings design check.name) := by
  rw [violations_fresh_run unlimited tours, mem_flatMap_backed_iff]

end Fresh

end DesignRules.Session

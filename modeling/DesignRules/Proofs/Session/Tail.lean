/-
**A limit on violations cuts the tail.**

Two sessions with the same rules and checks, of which one has a limit and neither is cancelled, find
the same violations in the same order, and the one with the limit stops after as many as it admits.
How often they look whether to stop makes no difference.

* `cuts_finalState_of_plan`: sessions whose plans differ in the settings only.
* `limit_cuts_the_tail`: the reports on a document and a design.
-/

import DesignRules.Proofs.Session.Limit

namespace DesignRules.Session

variable {K : Type}

/-! ### Plans that differ in the settings -/

/-- A run that nobody cancels ends with a signal that is not given. -/
theorem signal_finalState {session : Session K} (unset : session.signal = .never)
    (tours : ∀ check ∈ session.checks, check.IsTour) (design : Design K) :
    (session.finalState design).signal = .never := by
  have start : session.compiled.1.signal = .never := by
    rw [session.compiled_frame.2.2.2, unset]
  refine Signal.Later.eq_never ?_
  rw [finalState, start]
  exact later_runAll (isTour_of_compiled tours) 0 { findings := _, signal := .never }

section Plans

variable {session other : Session K} (catalogs : session.plan.catalog = other.plan.catalog)
  (rosters : session.plan.roster = other.plan.roster)

include catalogs rosters

/-- A session runs as another one with its catalog and its checks, under its own settings. -/
theorem finalState_eq_runAll (design : Design K) :
    other.finalState design =
      (runAll
        (fun name =>
          { (⟨name, session.compiled.2, design, session.compiled.1.settings⟩ : Site K) with
            settings := other.compiled.1.settings })
        session.compiled.1.registrations.length 0 session.compiled.1.registrations
        { findings := { limit := other.compiled.1.settings.maxViolations }
          signal := other.compiled.1.signal }).1 := by
  have total : session.compiled.1.registrations.length =
      other.compiled.1.registrations.length := by
    simpa [plan, planWith, roster] using congrArg List.length rosters
  have catalog : session.compiled.2 = other.compiled.2 := catalogs
  rw [runAll_eq_of_roster_eq rosters, total, catalog]
  rfl

/-- **Plans that differ in the settings**: what the limited run finds is what the other one finds,
cut at the limit. -/
theorem cuts_finalState_of_plan (unset : session.signal = .never) (unset' : other.signal = .never)
    (unlimited : other.settings.maxViolations = none)
    (tours : ∀ check ∈ session.checks, check.IsTour) (design : Design K) :
    (session.finalState design).findings.Cuts session.settings.maxViolations
      (other.finalState design).findings := by
  have never : other.compiled.1.signal = .never := by rw [other.compiled_frame.2.2.2, unset']
  have start : RunState.Follows session.settings.maxViolations
      ({ findings := { limit := session.compiled.1.settings.maxViolations }
         signal := session.compiled.1.signal } : RunState K)
      { findings := { limit := other.compiled.1.settings.maxViolations }
        signal := other.compiled.1.signal } := by
    rw [session.compiled_frame.1, other.compiled_frame.1, unlimited]
    exact .inr ⟨rfl, rfl, (admitted_nil _).symm, nofun⟩
  rw [finalState_eq_runAll catalogs rosters]
  refine (follows_runAll (isTour_of_compiled tours) other.compiled.1.settings never start
    0).resolve_left fun given => ?_
  have ends := signal_finalState unset tours design
  rw [finalState] at ends
  rw [ends] at given
  cases given

end Plans

/-! ### Reports -/

/-- **A limit cuts the tail.** On any document and design, with any standard checks in any order and
any search for neighbours, the violations under a limit are the first ones of those without a limit,
as many as the limit admits; the checkpoints may lie anywhere in both runs. -/
theorem limit_cuts_the_tail [Scalar K] (search : Search K) (text : String) (design : Design K)
    (checks : List (Check K)) (standard : ∀ check ∈ checks, check ∈ Check.standardBy search)
    (settings others : Settings) (limit : Nat) (limited : settings.maxViolations = some limit)
    (unlimited : others.maxViolations = none) :
    ((fresh settings checks (some text)).run design).2.report.violations =
      ((fresh others checks (some text)).run design).2.report.violations.take limit := by
  have planned := plan_fresh settings checks (some text)
  have others' := plan_fresh others checks (some text)
  have catalogs : (fresh settings checks (some text)).plan.catalog =
      (fresh others checks (some text)).plan.catalog := by
    rw [planned, others']
    rfl
  have rosters : (fresh settings checks (some text)).plan.roster =
      (fresh others checks (some text)).plan.roster := by
    rw [planned, others']
    rfl
  have tours : ∀ check ∈ (fresh settings checks (some text)).checks, check.IsTour := by
    rw [checks_fresh]
    exact fun check member => isTour_of_mem_standardBy (standard check member)
  have free : (fresh others checks (some text)).settings.maxViolations = none := by
    rw [settings_fresh, unlimited]
  have cuts := cuts_finalState_of_plan catalogs rosters (signal_fresh ..) (signal_fresh ..) free
    tours design
  rw [violations_run, violations_run, cuts.violations, settings_fresh, limited]
  rfl

/-- Two checks; the one of distances takes the neighbours from the last to the first. -/
def backwards : List (Check Float) :=
  [Disallow.check, Clearance.checkBy fun neighbours region => (neighbours.near region).reverse]

/-- A rule that forbids rectangles and keeps items apart. -/
def crowded : String :=
  "(rule crowded (constraint disallow rect) (constraint clearance (min 1mm)))"

/-- Three squares at one place. -/
def threeSquares : Design Float :=
  ⟨.nil, "three squares", {}, [square "first", square "second", square "third"]⟩

/-- Of the three squares and their three pairs the first four are reported, whether the checks look
up at every second item or at every one. -/
theorem limit_cuts_the_tail_of_three_squares :
    (∀ check ∈ backwards,
      check ∈ Check.standardBy fun neighbours region => (neighbours.near region).reverse) ∧
    ((fresh { progressInterval := 2, maxViolations := some 4 } backwards (some crowded)).run
        threeSquares).2.report.violations =
      ((fresh { progressInterval := 1 } backwards (some crowded)).run
        threeSquares).2.report.violations.take 4 ∧
    ((fresh { progressInterval := 1 } backwards (some crowded)).run
        threeSquares).2.report.violations.length = 6 := by
  have standard : ∀ check ∈ backwards,
      check ∈ Check.standardBy fun neighbours region => (neighbours.near region).reverse := by
    simp [backwards, Check.standardBy]
  refine ⟨standard, ?_, by decide +kernel⟩
  exact limit_cuts_the_tail _ crowded threeSquares backwards standard _ _ 4 rfl rfl

end DesignRules.Session

/-
**A cancelled run is the beginning of the whole one.**

A session runs twice on a design, once with a signal that is given after some questions and once
with one that is never given. Before the signal is noticed both runs do the same; then the check at
hand stops at its checkpoint, no other one is started, and the report is put together from what
there is.

* `Session.heeding`: the session with a signal that is given after some questions.
* `obeys_runOn`, `obeys_runAll`: one more check, and the run of all of them.
* `IsPart`: what a report of a cancelled run has of the whole one.
* `cancelled_run_is_beginning`: the reports on a document and a design.
-/

import DesignRules.Proofs.Check.Cancel
import DesignRules.Proofs.Session.Tail

namespace DesignRules

variable {K : Type}

/-- A check obeys signals, if it takes a course. -/
theorem Check.IsTour.obeys_run {check : Check K} (tour : check.IsTour) (site : Site K)
    {state : RunState K} (never : state.signal = .never) : Obeys GoesOn (check.run site) state := by
  obtain ⟨course, -, follows⟩ := tour
  have unfolded : check.run site = (course site).run site := funext (follows site)
  rw [unfolded]
  exact (course site).obeys_run site never

theorem Check.IsTour.prefix_run {check : Check K} (tour : check.IsTour) (site : Site K)
    (state : RunState K) :
    state.findings.violations <+: (check.run site state).1.findings.violations := by
  obtain ⟨course, -, follows⟩ := tour
  rw [follows]
  exact (course site).prefix_run site state

/-- The names of the checks that are not skipped, in order. -/
def Plan.runnable (plan : Plan K) : List String :=
  (plan.roster.filter fun entry => !entry.2).map fun entry => entry.1.name

namespace Session

/-! ### The run of all checks -/

/-- A passage with one more check before it. -/
def Passage.after (index : Nat) (name : String) (error? : Option RunError) (others : Passage) :
    Passage :=
  { others with
    ran := index :: others.ran
    failures := (error?.map (failure name)).toList ++ others.failures }

/-- A run that goes on with a check. -/
def runOn (site : String → Site K) (total index : Nat) (registration : Registration K)
    (rest : List (Registration K)) (state : RunState K) : RunState K × Passage :=
  let check := registration.check
  let ran := runCheck (site check.name) check index total state
  let others := runAll site total (index + 1) rest ran.1
  (others.1, Passage.after index check.name ran.2 others.2)

section Checks

variable {check : Check K} (tour : check.IsTour) (site : Site K) (index total : Nat)

include tour

/-- A check between its messages to the watcher. -/
theorem obeys_runCheck {state : RunState K} (never : state.signal = .never) :
    Obeys GoesOn (runCheck site check index total) state := by
  have told : (state.tell (.stage check.name index total)).signal = .never := never
  have obeys : Obeys GoesOn
      (fun state => check.run site (state.tell (.stage check.name index total))) state :=
    (tour.obeys_run site told).before fun left => rfl
  exact obeys.after (fun _ last => last.tell (.progress (index + 1) total)) id
    (fun _ _ _ => rfl) (fun _ _ => rfl) (fun _ _ => rfl) fun _ _ goesOn => goesOn

theorem later_runCheck (state : RunState K) :
    state.signal.Later (runCheck site check index total state).1.signal :=
  tour.later_run site (state.tell (.stage check.name index total))

theorem prefix_runCheck (state : RunState K) :
    state.findings.violations <+:
      (runCheck site check index total state).1.findings.violations :=
  tour.prefix_run site (state.tell (.stage check.name index total))

end Checks

variable (site : String → Site K) (total : Nat)

theorem runAll_of_skipped {registration : Registration K} (skipped : registration.stage = .skipped)
    (index : Nat) (rest : List (Registration K)) (state : RunState K) :
    runAll site total index (registration :: rest) state =
      runAll site total (index + 1) rest state := by
  rw [runAll, if_pos skipped]

/-- **A run before a check** that is not skipped asks for the signal. -/
theorem runAll_of_not_skipped {registration : Registration K}
    (runs : registration.stage ≠ .skipped) (index : Nat) (rest : List (Registration K))
    (state : RunState K) :
    runAll site total index (registration :: rest) state =
      if state.signal.isGiven = true then (state.askCancelled.2, { stopped := true })
      else runOn site total index registration rest state.askCancelled.2 := by
  rw [runAll, if_neg runs]
  unfold RunState.askCancelled
  cases state.signal.isGiven <;> rfl

/-- A run that nobody cancels goes on with the check. -/
theorem runAll_of_never {registration : Registration K} (runs : registration.stage ≠ .skipped)
    (index : Nat) (rest : List (Registration K)) {state : RunState K}
    (never : state.signal = .never) :
    runAll site total index (registration :: rest) state =
      runOn site total index registration rest state := by
  rw [runAll_of_not_skipped site total runs, never]
  obtain ⟨findings, signal, answers⟩ := state
  cases never
  rfl

/-- **All checks only add violations.** -/
theorem prefix_runAll {registrations : List (Registration K)}
    (tours : ∀ registration ∈ registrations, registration.check.IsTour) (index : Nat)
    (state : RunState K) :
    state.findings.violations <+:
      (runAll site total index registrations state).1.findings.violations := by
  induction registrations generalizing index state with
  | nil => exact List.prefix_rfl
  | cons registration rest ih =>
    have others : ∀ other ∈ rest, other.check.IsTour :=
      fun other member => tours other (List.mem_cons_of_mem _ member)
    by_cases skipped : registration.stage = .skipped
    · rw [runAll_of_skipped site total skipped]
      exact ih others (index + 1) state
    · rw [runAll_of_not_skipped site total skipped]
      split
      · exact List.prefix_rfl
      · exact (prefix_runCheck (tours registration List.mem_cons_self) _ index total
          state.askCancelled.2).trans (ih others (index + 1) _)

theorem prefix_runOn {registration : Registration K} {rest : List (Registration K)}
    (tour : registration.check.IsTour) (others : ∀ other ∈ rest, other.check.IsTour) (index : Nat)
    (state : RunState K) :
    state.findings.violations <+:
      (runOn site total index registration rest state).1.findings.violations :=
  (prefix_runCheck tour _ index total state).trans
    (prefix_runAll site total others (index + 1) _)

/-- **No check is started** once the signal is given. -/
theorem runAll_of_isGiven (registrations : List (Registration K)) (index : Nat)
    {state : RunState K} (given : state.signal.isGiven = true) :
    (runAll site total index registrations state).1.signal.isGiven = true ∧
      (runAll site total index registrations state).1.findings = state.findings ∧
      (runAll site total index registrations state).2.ran = [] ∧
      (runAll site total index registrations state).2.failures = [] := by
  induction registrations generalizing index with
  | nil => exact ⟨given, rfl, rfl, rfl⟩
  | cons registration rest ih =>
    by_cases skipped : registration.stage = .skipped
    · rw [runAll_of_skipped site total skipped]
      exact ih (index + 1)
    · rw [runAll_of_not_skipped site total skipped, if_pos given]
      exact ⟨(later_askCancelled state).isGiven given, rfl, rfl, rfl⟩

/-- Whether a passage is a part of another one: fewer checks ran, and fewer of them gave up. -/
def PartOf (part whole : Passage) : Prop :=
  part.ran <+: whole.ran ∧ part.failures <+: whole.failures

/-- **One more check.** If it is stopped, none of the others is started. -/
theorem obeys_runOn {registration : Registration K} {rest : List (Registration K)} {index : Nat}
    (tour : registration.check.IsTour) (others : ∀ other ∈ rest, other.check.IsTour)
    {state : RunState K} (never : state.signal = .never)
    (obeysOthers : ∀ {state : RunState K}, state.signal = .never →
      Obeys PartOf (runAll site total (index + 1) rest) state) :
    Obeys PartOf (runOn site total index registration rest) state := by
  have stillNever := later_runCheck tour (site registration.check.name) index total state
  rw [never] at stillNever
  refine (obeys_runCheck tour (site registration.check.name) index total never).bind
    (obeysOthers stillNever.eq_never) (prefix_runAll site total others ..)
    (fun last given => ?_) (fun error? last goesOn given => ?_) (fun passage part => ?_)
  · obtain ⟨stillGiven, findings, -⟩ := runAll_of_isGiven site total rest (index + 1) given
    exact ⟨stillGiven, congrArg Findings.violations findings⟩
  · -- the check was stopped, so it did not give up, and it is the last one that ran
    obtain ⟨-, -, noneRan, noneFailed⟩ := runAll_of_isGiven site total rest (index + 1) given
    obtain rfl : error? = none := goesOn
    unfold PartOf Passage.after
    rw [noneRan, noneFailed]
    exact ⟨List.prefix_append [index] _, List.nil_prefix⟩
  · exact ⟨(List.prefix_cons_inj index).mpr part.1, (List.prefix_append_right_inj _).mpr part.2⟩

/-- **The run of all checks obeys signals.** -/
theorem obeys_runAll {registrations : List (Registration K)}
    (tours : ∀ registration ∈ registrations, registration.check.IsTour) (index : Nat)
    {state : RunState K} (never : state.signal = .never) :
    Obeys PartOf (runAll site total index registrations) state := by
  induction registrations generalizing index state with
  | nil => exact .silent fun left => rfl
  | cons registration rest ih =>
    have tour := tours registration List.mem_cons_self
    have others : ∀ other ∈ rest, other.check.IsTour :=
      fun other member => tours other (List.mem_cons_of_mem _ member)
    by_cases skipped : registration.stage = .skipped
    · have passed : runAll site total index (registration :: rest) =
          runAll site total (index + 1) rest :=
        funext (runAll_of_skipped site total skipped index rest)
      rw [passed]
      exact ih others (index + 1) never
    · refine (obeys_runOn site total tour others never (ih others (index + 1))).ask
        (runAll_of_never site total skipped index rest never) (fun left => ?_) ?_
      · rw [runAll_of_not_skipped site total skipped]
        rfl
      · rw [runAll_of_not_skipped site total skipped]
        exact ⟨rfl, prefix_runOn site total tour others index state, List.nil_prefix,
          List.nil_prefix⟩

/-- A run that nobody cancels runs all checks that are not skipped. -/
theorem ran_runAll_of_never {registrations : List (Registration K)}
    (tours : ∀ registration ∈ registrations, registration.check.IsTour)
    (before : List (Registration K)) {state : RunState K} (never : state.signal = .never) :
    (runAll site total before.length registrations state).2.stopped = false ∧
      namesAt (before ++ registrations)
          (runAll site total before.length registrations state).2.ran =
        ((roster registrations).filter fun entry => !entry.2).map fun entry => entry.1.name := by
  induction registrations generalizing before state with
  | nil => exact ⟨rfl, rfl⟩
  | cons registration rest ih =>
    have tour := tours registration List.mem_cons_self
    have others : ∀ other ∈ rest, other.check.IsTour :=
      fun other member => tours other (List.mem_cons_of_mem _ member)
    have split : before ++ registration :: rest = before ++ [registration] ++ rest := by
      rw [List.append_assoc, List.singleton_append]
    have next : before.length + 1 = (before ++ [registration]).length := by
      rw [List.length_append, List.length_singleton]
    by_cases skipped : registration.stage = .skipped
    · have left : roster (registration :: rest) = (registration.check, true) :: roster rest := by
        rw [roster, List.map_cons, skipped]
        rfl
      rw [runAll_of_skipped site total skipped, split, next, left]
      exact ih others (before ++ [registration]) never
    · have kept : roster (registration :: rest) = (registration.check, false) :: roster rest := by
        rw [roster, List.map_cons, beq_eq_false_iff_ne.mpr skipped]
        rfl
      have stillNever := later_runCheck tour (site registration.check.name) before.length total
        state
      rw [never] at stillNever
      obtain ⟨goesOn, named⟩ := ih others (before ++ [registration]) stillNever.eq_never
      rw [← next, ← split] at named
      rw [← next] at goesOn
      have here : (before ++ registration :: rest)[before.length]? = some registration := by
        rw [List.getElem?_append_right (Nat.le_refl _), Nat.sub_self, List.getElem?_cons_zero]
      rw [runAll_of_never site total skipped _ rest never, kept]
      refine ⟨goesOn, ?_⟩
      show namesAt _ (before.length :: _) = registration.check.name :: _
      rw [namesAt, List.filterMap_cons, here]
      exact congrArg _ named

/-! ### Reports -/

/-- The session with a signal that is given after some questions. -/
def heeding (session : Session K) (left : Nat) : Session K := { session with signal := .after left }

theorem compiled_heeding (session : Session K) (left : Nat) :
    (session.heeding left).compiled = (session.compiled.1.heeding left, session.compiled.2) :=
  compiled_change (heeding · left) rfl rfl

/-- The state from which a run that nobody cancels starts. -/
def start (session : Session K) : RunState K :=
  { findings := { limit := session.compiled.1.settings.maxViolations }, signal := .never }

/-- The run of all checks from a state on. -/
def runFrom (session : Session K) (design : Design K) : RunState K → RunState K × Passage :=
  runAll (fun name => ⟨name, session.compiled.2, design, session.compiled.1.settings⟩)
    session.compiled.1.registrations.length 0 session.compiled.1.registrations

/-- The outcome that is made of the run of all checks. -/
def outcomeOf (session : Session K) (ran : RunState K × Passage) : Outcome K :=
  { report :=
      { ran.1.findings.report with
        diagnostics := session.plan.diagnostics ++ ran.2.failures
        checksRun := namesAt session.compiled.1.registrations ran.2.ran
        checksSkipped := skippedNames session.compiled.1.registrations
        cancelled := ran.2.stopped || ran.1.signal.isGiven }
    events := ran.1.findings.events
    answers := ran.1.answers }

theorem run_of_never {session : Session K} (unset : session.signal = .never) (design : Design K) :
    (session.run design).2 = session.outcomeOf (session.runFrom design session.start) := by
  have never : session.compiled.1.signal = .never := by rw [session.compiled_frame.2.2.2, unset]
  unfold run start
  simp only [never]
  rfl

theorem run_heeding (session : Session K) (design : Design K) (left : Nat) :
    ((session.heeding left).run design).2 =
        session.outcomeOf (session.runFrom design (session.start.heeding left)) ∧
      ((session.heeding left).run design).1.signal =
        (session.runFrom design (session.start.heeding left)).1.signal.asked := by
  unfold run
  rw [compiled_heeding]
  exact ⟨rfl, rfl⟩

/-- **What a cancelled run reports**: violations and checks from the beginning of the whole run, the
same skipped checks, and the diagnostics of the plan with the first ones of the whole run about
checks that gave up. -/
structure IsPart (plan : Plan K) (part whole : Report K) : Prop where
  violations : part.violations <+: whole.violations
  checksRun : part.checksRun <+: plan.runnable
  checksSkipped : part.checksSkipped = whole.checksSkipped
  diagnostics : ∃ failures missing, part.diagnostics = plan.diagnostics ++ failures ∧
    whole.diagnostics = plan.diagnostics ++ failures ++ missing

section Outcomes

variable {session : Session K} (tours : ∀ check ∈ session.checks, check.IsTour) (design : Design K)

include tours

theorem obeys_runFrom : Obeys PartOf (session.runFrom design) session.start :=
  obeys_runAll _ _ (isTour_of_compiled tours) 0 rfl

theorem signal_runFrom : (session.runFrom design session.start).1.signal = .never :=
  (later_runAll (isTour_of_compiled tours) 0 session.start).eq_never

theorem ran_runFrom :
    (session.runFrom design session.start).2.stopped = false ∧
      namesAt session.compiled.1.registrations (session.runFrom design session.start).2.ran =
        session.plan.runnable :=
  ran_runAll_of_never _ _ (isTour_of_compiled tours) [] rfl

/-- What is reported of a part of the run of all checks. -/
theorem isPart_outcomeOf {part : RunState K × Passage}
    (violations : part.1.findings.violations <+:
      (session.runFrom design session.start).1.findings.violations)
    (passage : PartOf part.2 (session.runFrom design session.start).2) :
    IsPart session.plan (session.outcomeOf part).report
      (session.outcomeOf (session.runFrom design session.start)).report := by
  obtain ⟨missing, whole⟩ := passage.2
  refine ⟨violations, ?_, rfl, part.2.failures, missing, rfl, ?_⟩
  · rw [← (ran_runFrom tours design).2]
    exact passage.1.filterMap _
  · show session.plan.diagnostics ++ (session.runFrom design session.start).2.failures = _
    rw [← whole, List.append_assoc]

/-- A signal that is given after the last question makes no difference. -/
theorem outcomeOf_heeding (left : Nat) :
    session.outcomeOf
        ((session.runFrom design session.start).1.heeding (left + 1),
          (session.runFrom design session.start).2) =
      session.outcomeOf (session.runFrom design session.start) := by
  unfold outcomeOf
  rw [signal_runFrom tours design]
  rfl

variable (unset : session.signal = .never)

include unset

theorem checksRun_run : (session.run design).2.report.checksRun = session.plan.runnable := by
  rw [run_of_never unset]
  exact (ran_runFrom tours design).2

theorem isPart_heeding (left : Nat) :
    IsPart session.plan ((session.heeding left).run design).2.report
      (session.run design).2.report := by
  obtain ⟨questions, obeys⟩ := obeys_runFrom tours design
  rw [run_of_never unset, (session.run_heeding design left).1]
  by_cases enough : questions ≤ left
  · rw [(obeys left).1 enough]
    exact isPart_outcomeOf tours design List.prefix_rfl ⟨List.prefix_rfl, List.prefix_rfl⟩
  · obtain ⟨-, begins, passage⟩ := (obeys left).2 (Nat.lt_of_not_le enough)
    exact isPart_outcomeOf tours design begins passage

/-- **A run is cancelled** just if one of its questions is answered with yes, the last of which is
put after all checks. -/
theorem cancelled_heeding_iff :
    ∃ questions, ∀ left,
      (((session.heeding left).run design).2.report.cancelled = true ↔ left < questions) ∧
      (questions ≤ left →
        ((session.heeding left).run design).2 = (session.run design).2 ∧
          ((session.heeding left).run design).1.signal = .after (left - questions)) := by
  obtain ⟨questions, obeys⟩ := obeys_runFrom tours design
  refine ⟨questions + 1, fun left => ?_⟩
  rw [run_of_never unset, (session.run_heeding design left).1,
    (session.run_heeding design left).2]
  by_cases enough : questions ≤ left
  · rw [(obeys left).1 enough]
    -- the signal is noticed only by the question after all checks, or by none
    cases remaining : left - questions with
    | zero =>
      have cancelled : (session.outcomeOf ((session.runFrom design session.start).1.heeding 0,
          (session.runFrom design session.start).2)).report.cancelled = true := Bool.or_true _
      exact ⟨iff_of_true cancelled (by omega), by omega⟩
    | succ further =>
      have finished :
          (session.outcomeOf (session.runFrom design session.start)).report.cancelled = false := by
        unfold outcomeOf
        rw [(ran_runFrom tours design).1, signal_runFrom tours design]
        rfl
      rw [outcomeOf_heeding tours design, finished]
      refine ⟨iff_of_false Bool.false_ne_true (by omega), fun _ => ⟨rfl, ?_⟩⟩
      show Signal.after further = _
      congr 1
      omega
  · obtain ⟨given, -⟩ := (obeys left).2 (Nat.lt_of_not_le enough)
    have cancelled :
        (session.outcomeOf (session.runFrom design (session.start.heeding left))).report.cancelled =
          true := Bool.or_eq_true_iff.mpr (.inr given)
    exact ⟨iff_of_true cancelled (by omega), by omega⟩

end Outcomes

/-- **A cancelled run is the beginning of the whole one.** On any document and design, with any
standard checks in any order, any settings and any search for neighbours, let the signal be given
after some questions.

* The report is a part of that of a run that nobody cancels, which runs all checks that are not
  skipped.
* It says that it was cancelled exactly if the questions that the other run asks are more than those
  that are answered with no. If they are not, nothing else is different either; and the signal tells
  how many questions were asked.
* A check that starts with some questions left does not look at an item from the checkpoint on at
  which they are used up: it would do the same if its inspection did anything else there. -/
theorem cancelled_run_is_beginning [Scalar K] (search : Search K) (text : String)
    (design : Design K) (settings : Settings) (checks : List (Check K))
    (standard : ∀ check ∈ checks, check ∈ Check.standardBy search) :
    (∀ left,
      IsPart (Plan.ofRules settings (rulesOf (some text)) checks)
        (((fresh settings checks (some text)).heeding left).run design).2.report
        ((fresh settings checks (some text)).run design).2.report) ∧
    ((fresh settings checks (some text)).run design).2.report.checksRun =
      (Plan.ofRules settings (rulesOf (some text)) checks).runnable ∧
    (∃ questions, ∀ left,
      ((((fresh settings checks (some text)).heeding left).run design).2.report.cancelled = true ↔
        left < questions) ∧
      (questions ≤ left →
        (((fresh settings checks (some text)).heeding left).run design).2 =
            ((fresh settings checks (some text)).run design).2 ∧
          (((fresh settings checks (some text)).heeding left).run design).1.signal =
            .after (left - questions))) ∧
    ∀ check ∈ checks, ∃ course : Site K → Course K,
      (∀ site state, check.run site state = (course site).run site state) ∧
      ∀ site state left other, state.signal = .after left →
        (course site).AgreeBelow (left * site.interval) other →
          check.run site state = other.run site state := by
  have tours : ∀ check ∈ (fresh settings checks (some text)).checks, check.IsTour := by
    rw [checks_fresh]
    exact fun check member => isTour_of_mem_standardBy (standard check member)
  have unset := signal_fresh settings checks (some text)
  rw [← plan_fresh]
  refine ⟨isPart_heeding tours design unset, checksRun_run tours design unset,
    cancelled_heeding_iff tours design unset, fun check member => ?_⟩
  obtain ⟨course, -, follows⟩ := isTour_of_mem_standardBy (standard check member)
  refine ⟨course, follows, fun site state left other heeds agree => ?_⟩
  rw [follows]
  exact Course.run_eq_of_agreeBelow agree heeds

/-- The check of distances learns at the first square that it has to stop, so that only what the
other check found is reported. -/
theorem cancelled_run_is_beginning_of_three_squares :
    (∀ check ∈ backwards,
      check ∈ Check.standardBy fun neighbours region => (neighbours.near region).reverse) ∧
    IsPart (Plan.ofRules { progressInterval := 2 } (rulesOf (some crowded)) backwards)
      (((fresh { progressInterval := 2 } backwards (some crowded)).heeding 4).run
        threeSquares).2.report
      ((fresh { progressInterval := 2 } backwards (some crowded)).run threeSquares).2.report ∧
    (((fresh { progressInterval := 2 } backwards (some crowded)).heeding 4).run
      threeSquares).2.report.violations.length = 3 ∧
    (((fresh { progressInterval := 2 } backwards (some crowded)).heeding 4).run
      threeSquares).2.report.cancelled = true ∧
    ((fresh { progressInterval := 2 } backwards (some crowded)).run
      threeSquares).2.report.violations.length = 6 := by
  have standard : ∀ check ∈ backwards,
      check ∈ Check.standardBy fun neighbours region => (neighbours.near region).reverse := by
    simp [backwards, Check.standardBy]
  obtain ⟨parts, -⟩ := cancelled_run_is_beginning _ crowded threeSquares { progressInterval := 2 }
    backwards standard
  exact ⟨standard, parts 4, by decide +kernel, by decide +kernel, by decide +kernel⟩

end Session

end DesignRules

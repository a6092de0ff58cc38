/-
**Every check is accounted for once.**

A run starts checks one after the other, each in the state in which the one before left it, until
all that are not skipped have had their turn or the signal is given. A check that gives up adds its
diagnostic to those of the session and holds up none of the others.

* `Start`, `Succession`: a check that a run starts, and the checks of a run one after the other.
* `exists_succession`: the run of all checks is such a succession.
* `positionsWhere`: the positions of a list at which something holds.
* `ran_of_finished`: a run that is not stopped starts all checks that are not skipped.
* `Accounts`: how a report accounts for checks.
* `run_accounts_for_checks`: what a report that is not cancelled says about the checks.
-/

import DesignRules.Check.Scripted
import DesignRules.Proofs.Catalog.FirstMatch
import DesignRules.Proofs.Session.Stages
import DesignRules.Proofs.Session.Whole

namespace DesignRules

variable {K : Type}

/-! ### Checks one after the other -/

/-- A check that a run starts: its position, and the state of the run that it is given. -/
structure Start (K : Type) where
  position : Nat
  check : Check K
  given : RunState K

namespace Start

variable (site : String → Site K) (total : Nat) (start : Start K)

/-- What the check makes of its state, and the error with which it gives up, if it does. -/
def result : RunState K × Option RunError := start.check.run (site start.check.name) start.given

/-- The state of the run after the check. -/
def left : RunState K := (start.result site).1.tell (.progress (start.position + 1) total)

/-- The diagnostic about the check, if it gives up. -/
def failure? : Option Diagnostic :=
  (start.result site).2.map fun error =>
    { level := .error
      line := none
      rule := some start.check.name
      message := (RunError.failed start.check.name error.message).message }

end Start

/-- **The checks of a run one after the other.** Before each check the run asks for the signal; the
check is announced and runs, and its progress is told. The run ends with its last check, or stops
where the signal is given. -/
inductive Succession (site : String → Site K) (total : Nat) :
    RunState K → List (Start K) → RunState K → Prop where
  | done {state : RunState K} : Succession site total state [] state
  | stopped {state : RunState K} : state.signal.isGiven = true →
      Succession site total state [] state.askCancelled.2
  | next {state last : RunState K} {start : Start K} {rest : List (Start K)} :
      state.signal.isGiven = false →
      start.given =
        state.askCancelled.2.tell (.stage start.check.name start.position total) →
      Succession site total (start.left site total) rest last →
      Succession site total state (start :: rest) last

namespace Session

/-- What a run says about the checks that it starts. -/
structure Recounts (site : String → Site K) (passage : Passage) (starts : List (Start K)) :
    Prop where
  ran : passage.ran = starts.map Start.position
  failures : passage.failures = starts.filterMap (Start.failure? site)

/-- Whether starts are those of checks from position `index` on that are not skipped. -/
def StartsAmong (registrations : List (Registration K)) (index : Nat) (starts : List (Start K)) :
    Prop :=
  ∀ start ∈ starts, ∃ offset registration, start.position = index + offset ∧
    registrations[offset]? = some registration ∧ registration.stage ≠ .skipped ∧
      start.check = registration.check

theorem StartsAmong.later {registrations : List (Registration K)} {index : Nat}
    {starts : List (Start K)} (among : StartsAmong registrations (index + 1) starts)
    (registration : Registration K) : StartsAmong (registration :: registrations) index starts := by
  intro start member
  obtain ⟨offset, found, position, listed, runs, same⟩ := among start member
  exact ⟨offset + 1, found, by omega, listed, runs, same⟩

/-- **The run of all checks is a succession of some of them**, none of which is skipped. -/
theorem exists_succession (site : String → Site K) (total : Nat)
    (registrations : List (Registration K)) (index : Nat) (state : RunState K) :
    ∃ starts,
      Succession site total state starts (runAll site total index registrations state).1 ∧
        Recounts site (runAll site total index registrations state).2 starts ∧
          StartsAmong registrations index starts := by
  induction registrations generalizing index state with
  | nil => exact ⟨[], .done, ⟨rfl, rfl⟩, List.forall_mem_nil _⟩
  | cons registration rest ih =>
    by_cases skipped : registration.stage = .skipped
    · obtain ⟨starts, succession, recounts, among⟩ := ih (index + 1) state
      rw [runAll, if_pos skipped]
      exact ⟨starts, succession, recounts, among.later registration⟩
    · cases given : state.signal.isGiven with
      | true =>
        have stops : runAll site total index (registration :: rest) state =
            (state.askCancelled.2, { stopped := true }) := by
          simp [runAll, skipped, RunState.askCancelled, given]
        rw [stops]
        exact ⟨[], .stopped given, ⟨rfl, rfl⟩, List.forall_mem_nil _⟩
      | false =>
        let start : Start K := ⟨index, registration.check,
          state.askCancelled.2.tell (.stage registration.check.name index total)⟩
        obtain ⟨starts, succession, recounts, among⟩ := ih (index + 1) (start.left site total)
        have goesOn : runAll site total index (registration :: rest) state =
            ((runAll site total (index + 1) rest (start.left site total)).1,
              { (runAll site total (index + 1) rest (start.left site total)).2 with
                ran := index :: (runAll site total (index + 1) rest (start.left site total)).2.ran
                failures := (start.failure? site).toList ++
                  (runAll site total (index + 1) rest (start.left site total)).2.failures }) := by
          rw [runAll, if_neg skipped]
          unfold RunState.askCancelled
          rw [given]
          rfl
        rw [goesOn]
        refine ⟨start :: starts, .next given rfl succession, ⟨?_, ?_⟩, ?_⟩
        · exact congrArg (index :: ·) recounts.ran
        · show _ ++ _ = _
          rw [recounts.failures, List.filterMap_cons]
          cases start.failure? site <;> rfl
        · refine List.forall_mem_cons.mpr ⟨?_, among.later registration⟩
          exact ⟨0, registration, rfl, rfl, skipped, rfl⟩

end Session

/-! ### Positions -/

section Positions

variable {α β : Type}

/-- The positions of a list at which something holds; the first position is `index`. -/
def positionsWhere (holds : α → Bool) (list : List α) (index : Nat := 0) : List Nat :=
  ((list.zipIdx index).filter fun listed => holds listed.1).map Prod.snd

variable (holds : α → Bool) (list : List α)

theorem mem_positionsWhere_iff {position : Nat} :
    position ∈ positionsWhere holds list ↔
      ∃ value, list[position]? = some value ∧ holds value = true := by
  simp [positionsWhere, List.mem_zipIdx_iff_getElem?]

theorem pairwise_positionsWhere : (positionsWhere holds list).Pairwise (· < ·) :=
  List.pairwise_map.mpr ((pairwise_zipIdx list).filter _)

/-- Each position is one where something holds, or one where it does not. -/
theorem positionsWhere_append_perm :
    (positionsWhere holds list ++ positionsWhere (fun value => !holds value) list).Perm
      (List.range list.length) := by
  have parts := (List.filter_append_perm (fun listed : α × Nat => holds listed.1) list.zipIdx).map
    Prod.snd
  rwa [List.map_append, List.zipIdx_map_snd, ← List.range_eq_range'] at parts

theorem positionsWhere_map (read : β → α) (values : List β) (index : Nat) :
    positionsWhere holds (values.map read) index =
      positionsWhere (fun value => holds (read value)) values index := by
  rw [positionsWhere, List.zipIdx_map, List.filter_map, List.map_map]
  rfl

/-- What is read at these positions is read of the values for which it holds. -/
theorem filterMap_positionsWhere (read : α → β) :
    (positionsWhere holds list).filterMap (fun position => list[position]?.map read) =
      (list.filter holds).map read := by
  rw [positionsWhere, List.filterMap_map]
  have reads : ∀ listed ∈ list.zipIdx.filter fun listed => holds listed.1,
      ((fun position => list[position]?.map read) ∘ Prod.snd) listed = some (read listed.1) := by
    intro listed member
    have there := List.mem_zipIdx_iff_getElem?.mp (List.mem_of_mem_filter member)
    exact congrArg (Option.map read) there
  rw [List.filterMap_congr reads]
  conv_rhs => rw [← List.zipIdx_map_fst 0 list, List.filter_map, List.map_map]
  exact congrFun (List.filterMap_eq_map (f := fun listed : α × Nat => read listed.1)) _

end Positions

namespace Session

/-- **A run that is not stopped starts all checks that are not skipped.** -/
theorem ran_of_finished {site : String → Site K} {total : Nat}
    {registrations : List (Registration K)} {index : Nat} {state : RunState K}
    (finished : (runAll site total index registrations state).2.stopped = false) :
    (runAll site total index registrations state).2.ran =
      positionsWhere (fun registration => registration.stage != .skipped) registrations index := by
  induction registrations generalizing index state with
  | nil => rfl
  | cons registration rest ih =>
    rw [positionsWhere, List.zipIdx_cons, List.filter_cons]
    rw [runAll] at finished ⊢
    by_cases skipped : registration.stage = .skipped
    · rw [if_pos skipped] at finished ⊢
      rw [ih finished]
      simp [positionsWhere, skipped]
    · rw [if_neg skipped] at finished ⊢
      unfold RunState.askCancelled at finished ⊢
      cases given : state.signal.isGiven with
      | true =>
        rw [given] at finished
        cases finished
      | false =>
        rw [given] at finished
        simp only [bne_iff_ne, ne_eq, skipped, not_false_eq_true, if_true, List.map_cons]
        exact congrArg (index :: ·) (ih finished)

/-! ### Reports -/

/-- The names of the checks at some positions. -/
def namesOf (checks : List (Check K)) (positions : List Nat) : List String :=
  positions.filterMap fun position => checks[position]?.map Check.name

/-- **How a report accounts for checks**, given the positions of those that were started and of
those that were skipped: each check is one of the two, once, and both are listed in the order of the
checks. A check is skipped just if the rules have no constraint of some kind that it needs. -/
structure Accounts (rules : Rules K) (checks : List (Check K)) (started skipped : List Nat)
    (report : Report K) : Prop where
  once : (started ++ skipped).Perm (List.range checks.length)
  startedInOrder : started.Pairwise (· < ·)
  skippedInOrder : skipped.Pairwise (· < ·)
  checksRun : report.checksRun = namesOf checks started
  checksSkipped : report.checksSkipped = namesOf checks skipped
  decided : ∀ position check, checks[position]? = some check →
    (position ∈ skipped ↔ ∃ kind ∈ check.needs, Catalog.entriesOf rules.rules kind = [])

theorem namesAt_eq_namesOf (registrations : List (Registration K)) (positions : List Nat) :
    namesAt registrations positions =
      namesOf (registrations.map Registration.check) positions := by
  refine List.filterMap_congr fun position _ => ?_
  rw [List.getElem?_map, Option.map_map]
  rfl

/-- A check lacks a kind just if the rules have no constraint of one that it needs. -/
theorem missing_build_ne_nil_iff {rules : List (Rule K)} {checks : List (Check K)}
    {check : Check K} (registered : check ∈ checks) :
    missing (Catalog.build rules (checks.flatMap Check.needs)) check ≠ [] ↔
      ∃ kind ∈ check.needs, Catalog.entriesOf rules kind = [] := by
  rw [missing_ne_nil_iff registered]
  refine exists_congr fun kind => and_congr_right fun needed => ?_
  have asked : kind ∈ checks.flatMap Check.needs := List.mem_flatMap.mpr ⟨check, registered, needed⟩
  rw [Catalog.entries_build, if_pos asked, Except.ok.injEq]

/-- Whether a check is skipped, where some checks ask for the constraints of some rules. -/
def isSkipped (rules : Rules K) (checks : List (Check K)) (check : Check K) : Bool :=
  !(missing (Catalog.build rules.rules (checks.flatMap Check.needs)) check).isEmpty

theorem isSkipped_iff {rules : Rules K} {checks : List (Check K)} {check : Check K}
    (registered : check ∈ checks) :
    isSkipped rules checks check = true ↔
      ∃ kind ∈ check.needs, Catalog.entriesOf rules.rules kind = [] := by
  rw [← missing_build_ne_nil_iff registered, isSkipped, Bool.not_eq_true', ne_eq,
    ← List.isEmpty_iff, Bool.not_eq_true]

section Planned

/-- **A run as a succession of checks**, each of which has constraints of all kinds it needs. -/
structure RunsThrough (settings : Settings) (rules : Rules K) (checks : List (Check K))
    (session : Session K) (design : Design K) (starts : List (Start K)) : Prop where
  succession : Succession (siteFor rules checks settings design) checks.length
    { findings := { limit := settings.maxViolations }, signal := session.signal } starts
    (session.finalState design)
  invoked : starts.map Start.position = session.invoked design
  registered : ∀ start ∈ starts, checks[start.position]? = some start.check
  backed : ∀ start ∈ starts, ∀ kind ∈ start.check.needs,
    Catalog.entriesOf rules.rules kind ≠ []
  diagnostics : (session.run design).2.report.diagnostics =
    rules.diagnostics ++
      compileReport settings (Catalog.build rules.rules (checks.flatMap Check.needs)) checks ++
        starts.filterMap (Start.failure? (siteFor rules checks settings design))

variable {settings : Settings} {rules : Rules K} {checks : List (Check K)} {session : Session K}
  (planned : session.plan = Plan.ofRules settings rules checks)

include planned

theorem roster_of_planned :
    roster session.compiled.1.registrations =
      checks.map fun check => (check, isSkipped rules checks check) :=
  congrArg Plan.roster planned

theorem checks_of_planned :
    session.compiled.1.registrations.map Registration.check = checks := by
  have listed := congrArg (List.map Prod.fst) (roster_of_planned planned)
  rw [roster, List.map_map, List.map_map] at listed
  exact listed.trans (List.map_id checks)

/-- A registered check is skipped as the plan says. -/
theorem registration_of_planned {position : Nat} {registration : Registration K}
    (listed : session.compiled.1.registrations[position]? = some registration) :
    checks[position]? = some registration.check ∧
      (registration.stage == .skipped) = isSkipped rules checks registration.check := by
  have entry := congrArg (·[position]?) (roster_of_planned planned)
  simp only [roster, List.getElem?_map, listed, Option.map_some] at entry
  obtain ⟨check, there, same⟩ := Option.map_eq_some_iff.mp entry.symm
  obtain ⟨rfl, judged⟩ := Prod.mk.inj same
  exact ⟨there, judged.symm⟩

/-- **The run of a session** is a succession of checks that are not skipped. -/
theorem exists_runsThrough (design : Design K) :
    ∃ starts, RunsThrough settings rules checks session design starts := by
  have sites : (fun name => ⟨name, session.compiled.2, design, session.compiled.1.settings⟩) =
      siteFor rules checks settings design := by
    have catalog : session.compiled.2 = Catalog.build rules.rules (checks.flatMap Check.needs) :=
      congrArg Plan.catalog planned
    have kept : session.compiled.1.settings = settings := congrArg Plan.settings planned
    rw [catalog, kept]
    rfl
  have total : session.compiled.1.registrations.length = checks.length := by
    rw [← checks_of_planned planned, List.length_map]
  have limit : session.compiled.1.settings.maxViolations = settings.maxViolations :=
    congrArg (Settings.maxViolations ∘ Plan.settings) planned
  obtain ⟨starts, succession, recounts, among⟩ := exists_succession
    (siteFor rules checks settings design) checks.length session.compiled.1.registrations 0
    { findings := { limit := settings.maxViolations }, signal := session.signal }
  rw [← sites, ← total, ← limit, ← session.compiled_frame.2.2.2] at succession recounts
  refine ⟨starts, ⟨?_, recounts.ran.symm, fun start member => ?_, fun start member => ?_, ?_⟩⟩
  · rw [← sites, ← total, ← limit, ← session.compiled_frame.2.2.2]
    exact succession
  · obtain ⟨offset, registration, position, listed, -, same⟩ := among start member
    rw [position, Nat.zero_add, same]
    exact (registration_of_planned planned listed).1
  · obtain ⟨offset, registration, -, listed, runs, same⟩ := among start member
    obtain ⟨there, judged⟩ := registration_of_planned planned listed
    have backed : ¬ isSkipped rules checks registration.check = true := by
      rw [← judged, beq_iff_eq]
      exact runs
    rw [isSkipped_iff (List.mem_of_getElem? there), ← same] at backed
    exact fun kind needed lacking => backed ⟨kind, needed, lacking⟩
  · have known : session.compiled.1.diagnostics = rules.diagnostics ++
        compileReport settings (Catalog.build rules.rules (checks.flatMap Check.needs)) checks :=
      congrArg Plan.diagnostics planned
    show session.compiled.1.diagnostics ++ (session.passage design).failures = _
    rw [known, ← sites]
    exact congrArg _ recounts.failures

/-- **The checks of a run that is not cancelled.** -/
theorem accounts_run {design : Design K}
    (finished : (session.run design).2.report.cancelled = false) :
    Accounts rules checks (session.invoked design)
      (positionsWhere (isSkipped rules checks) checks) (session.run design).2.report := by
  have unstopped : (session.passage design).stopped = false :=
    (Bool.or_eq_false_iff.mp finished).1
  have started : session.invoked design =
      positionsWhere (fun check => !isSkipped rules checks check) checks := by
    have ran := ran_of_finished unstopped
    have judged := positionsWhere_map (fun entry : Check K × Bool => !entry.2)
      (fun check => (check, isSkipped rules checks check)) checks 0
    rw [← roster_of_planned planned, roster, positionsWhere_map] at judged
    exact ran.trans judged
  have names (holds : Check K → Bool) :
      namesOf checks (positionsWhere holds checks) = (checks.filter holds).map Check.name :=
    filterMap_positionsWhere holds checks Check.name
  refine ⟨?_, ?_, pairwise_positionsWhere .., ?_, ?_, fun position check there => ?_⟩
  · rw [started]
    exact List.perm_append_comm.trans (positionsWhere_append_perm ..)
  · rw [started]
    exact pairwise_positionsWhere ..
  · show namesAt session.compiled.1.registrations _ = _
    rw [namesAt_eq_namesOf, checks_of_planned planned]
    rfl
  · show skippedNames session.compiled.1.registrations = _
    rw [skippedNames_eq, roster_of_planned planned, names, List.filter_map, List.map_map]
    rfl
  · rw [mem_positionsWhere_iff, ← isSkipped_iff (List.mem_of_getElem? there)]
    constructor
    · rintro ⟨other, same, skipped⟩
      obtain rfl := Option.some.inj (there.symm.trans same)
      exact skipped
    · exact fun skipped => ⟨check, there, skipped⟩

end Planned

/-! ### After any operations -/

/-- The session with another signal. -/
def withSignal (session : Session K) (signal : Signal) : Session K := { session with signal }

/-- **A run accounts for every check once.** Whatever happened to a session, and whatever its
signal, a run whose report is not cancelled starts every registered check that is not skipped, one
after the other in the order of the checks, and each of them once, whether others before it gave up
or not. The report lists those names and those of the skipped checks. Its diagnostics are those
about the rules, those about skipped checks and hidden constraints, and then an error for each check
that gave up. Whether a check is skipped is a matter of the rules and of its own needs. -/
theorem run_accounts_for_checks [Scalar K] (settings : Settings) (operations : List (Operation K))
    (signal : Signal) (design : Design K)
    (finished :
      (((after { settings } operations).withSignal signal).run design).2.report.cancelled =
        false) :
    ∃ starts skipped,
      RunsThrough settings (rulesOf (lastDocument? operations)) (registered operations)
          ((after { settings } operations).withSignal signal) design starts ∧
        Accounts (rulesOf (lastDocument? operations)) (registered operations)
          (starts.map Start.position) skipped
          (((after { settings } operations).withSignal signal).run design).2.report := by
  have planned : ((after { settings } operations).withSignal signal).plan =
      Plan.ofRules settings (rulesOf (lastDocument? operations)) (registered operations) :=
    (plan_withSignal _ signal).trans (plan_after settings operations)
  obtain ⟨starts, runs⟩ := exists_runsThrough planned design
  have accounts := accounts_run planned finished
  rw [← runs.invoked] at accounts
  exact ⟨starts, _, runs, accounts⟩

/-- Two checks of one name give up, one is skipped, and one finds something. -/
def unlucky : List (Operation Float) :=
  [.register (.scripted "unlucky" [] [.fail "no luck"]), .register Disallow.check,
    .register TrackWidth.check, .load "(rule none (constraint disallow rect))",
    .register (.scripted "unlucky" [] [.note "again", .fail "no luck"])]

/-- The checks at positions 0, 1 and 3 are started, and two of them give up. -/
theorem run_accounts_for_checks_of_unlucky :
    (((after {} unlucky).withSignal .never).run twoSquares).2.report.cancelled = false ∧
    (∃ starts skipped,
      RunsThrough {} (rulesOf (lastDocument? unlucky)) (registered unlucky)
          ((after {} unlucky).withSignal .never) twoSquares starts ∧
        Accounts (rulesOf (lastDocument? unlucky)) (registered unlucky)
          (starts.map Start.position) skipped
          (((after {} unlucky).withSignal .never).run twoSquares).2.report ∧
        starts.map Start.position = [0, 1, 3] ∧ skipped = [2]) ∧
    (((after {} unlucky).withSignal .never).run twoSquares).2.report.diagnostics.map
      Diagnostic.level = [.info, .error, .error] := by
  have finished :
      (((after {} unlucky).withSignal .never).run twoSquares).2.report.cancelled = false := by
    decide +kernel
  have started : ((after {} unlucky).withSignal .never).invoked twoSquares = [0, 1, 3] := by
    decide +kernel
  obtain ⟨starts, skipped, runs, accounts⟩ :=
    run_accounts_for_checks {} unlucky .never twoSquares finished
  have positions := runs.invoked.trans started
  have once := accounts.once
  rw [positions] at once
  have rest : ([0, 1, 3] ++ skipped).Perm ([0, 1, 3] ++ [2]) :=
    once.trans (by decide : (List.range 4).Perm ([0, 1, 3] ++ [2]))
  have left := List.perm_singleton.mp ((List.perm_append_left_iff _).mp rest)
  exact ⟨finished, ⟨starts, skipped, runs, accounts, positions, left⟩, by decide +kernel⟩

end Session

end DesignRules

/-
**What a run takes from a session.**

A session remembers the catalog that was made for it and how far its checks have come. Of all this a
run uses the catalog, the diagnostics, and which checks are skipped.

* `Plan`, `Session.plan`: what a run takes from a session, apart from the signal.
* `Plan.ofRules`: the plan made from settings, rules and checks alone.
* `run_eq_of_plan_eq`: sessions with one plan and one signal run alike.
* `plan_run`: a run leaves the plan as it was.
-/

import DesignRules.Session
import Mathlib.Data.List.Basic

namespace DesignRules

variable {K : Type}

/-! ### Plans -/

/-- The registered checks in order, each with whether it is skipped. -/
def roster (registrations : List (Registration K)) : List (Check K × Bool) :=
  registrations.map fun registration => (registration.check, registration.stage == .skipped)

/-- What a run takes from a session, apart from the signal. -/
structure Plan (K : Type) where
  settings : Settings
  catalog : Catalog K
  diagnostics : List Diagnostic
  roster : List (Check K × Bool)

/-- The diagnostics about skipped checks and, if they are asked for, about hidden constraints. -/
def compileReport (settings : Settings) (catalog : Catalog K) (checks : List (Check K)) :
    List Diagnostic :=
  checks.filterMap (Session.skip? catalog) ++
    if settings.warnOnShadowedRules then catalog.shadowing else []

/-- The plan for rules and checks that nothing is known about yet. -/
def Plan.ofRules (settings : Settings) (rules : Rules K) (checks : List (Check K)) : Plan K :=
  let catalog := Catalog.build rules.rules (checks.flatMap Check.needs)
  { settings
    catalog
    diagnostics := rules.diagnostics ++ compileReport settings catalog checks
    roster := checks.map fun check => (check, !(Session.missing catalog check).isEmpty) }

namespace Session

/-- The registered checks in order. -/
def checks (session : Session K) : List (Check K) := session.registrations.map Registration.check

/-- What a run takes from a session that was compiled to a catalog. -/
def planWith (session : Session K) (catalog : Catalog K) : Plan K :=
  { settings := session.settings
    catalog
    diagnostics := session.diagnostics
    roster := roster session.registrations }

/-- What a run takes from a session, compiled if that was not done already. -/
def plan (session : Session K) : Plan K := session.compiled.1.planWith session.compiled.2

/-! ### Compiling -/

theorem compiled_of_catalog {session : Session K} {catalog : Catalog K}
    (known : session.catalog = some catalog) : session.compiled = (session, catalog) := by
  rw [compiled, known]

theorem compiled_of_none {session : Session K} (unknown : session.catalog = none) :
    session.compiled = session.compile := by
  rw [compiled, unknown]

/-- A change that leaves the catalog can be made before or after compiling, if it can be made before
or after the catalog is built. -/
theorem compiled_change (change : Session K → Session K) {session : Session K}
    (keeps : (change session).catalog = session.catalog)
    (commutes : (change session).compile = (change session.compile.1, session.compile.2)) :
    (change session).compiled = (change session.compiled.1, session.compiled.2) := by
  cases known : session.catalog with
  | some catalog => rw [compiled_of_catalog (keeps.trans known), compiled_of_catalog known]
  | none => rw [compiled_of_none (keeps.trans known), compiled_of_none known, commutes]

theorem catalog_compiled (session : Session K) :
    session.compiled.1.catalog = some session.compiled.2 := by
  cases known : session.catalog with
  | some catalog => rw [compiled_of_catalog known, known]
  | none =>
    rw [compiled_of_none known]
    rfl

theorem checks_compile (session : Session K) : session.compile.1.checks = session.checks := by
  show (session.registrations.map _).map _ = _
  rw [List.map_map]
  rfl

/-- Compiling leaves alone what was registered, loaded or set. -/
theorem compiled_frame (session : Session K) :
    session.compiled.1.settings = session.settings ∧
      session.compiled.1.rules = session.rules ∧
      session.compiled.1.checks = session.checks ∧
      session.compiled.1.signal = session.signal := by
  cases known : session.catalog with
  | some catalog =>
    rw [compiled_of_catalog known]
    exact ⟨rfl, rfl, rfl, rfl⟩
  | none =>
    rw [compiled_of_none known]
    exact ⟨rfl, rfl, session.checks_compile, rfl⟩

/-- A judged check is skipped if a kind that it needs is missing. -/
theorem roster_judged (catalog : Catalog K) (registrations : List (Registration K)) :
    roster (registrations.map (judged catalog)) =
      (registrations.map Registration.check).map fun check =>
        (check, !(missing catalog check).isEmpty) := by
  rw [roster, List.map_map, List.map_map]
  refine List.map_congr_left fun registration _ => ?_
  show (registration.check, (if (missing catalog registration.check).isEmpty then Stage.runnable
    else .skipped) == .skipped) =
      (registration.check, !(missing catalog registration.check).isEmpty)
  cases (missing catalog registration.check).isEmpty <;> rfl

theorem needs_eq_flatMap (session : Session K) :
    session.needs = session.checks.flatMap Check.needs := by
  rw [needs, checks, List.flatMap_map]

/-- **Compiling makes the plan from the rules and checks at hand.** -/
theorem planWith_compile (session : Session K) :
    session.compile.1.planWith session.compile.2 =
      Plan.ofRules session.settings session.rules session.checks := by
  have catalog : session.compile.2 =
      Catalog.build session.rules.rules (session.checks.flatMap Check.needs) := by
    rw [← needs_eq_flatMap]
    rfl
  have skips : session.registrations.filterMap
      (fun registration => skip? session.compile.2 registration.check) =
        session.checks.filterMap (skip? session.compile.2) := by
    rw [checks, List.filterMap_map]
    rfl
  have judgements := roster_judged session.compile.2 session.registrations
  unfold Plan.ofRules
  rw [← catalog]
  refine Plan.mk.injEq .. |>.mpr ⟨rfl, rfl, ?_, judgements⟩
  show session.rules.diagnostics ++ (_ ++ _) = session.rules.diagnostics ++ (_ ++ _)
  rw [← skips]
  rfl

theorem plan_compile (session : Session K) :
    session.compile.1.plan = Plan.ofRules session.settings session.rules session.checks := by
  have known : session.compile.1.catalog = some session.compile.2 := rfl
  rw [plan, compiled_of_catalog known, planWith_compile]

theorem plan_of_none {session : Session K} (unknown : session.catalog = none) :
    session.plan = Plan.ofRules session.settings session.rules session.checks := by
  rw [plan, compiled_of_none unknown, planWith_compile]

/-! ### Running -/

theorem fst_runCheck (site : Site K) (check : Check K) (index total : Nat) (state : RunState K) :
    (runCheck site check index total state).1 =
      (check.run site (state.tell (.stage check.name index total))).1.tell
        (.progress (index + 1) total) := rfl

/-- The state after one more check: it is passed over, or the run stops before it, or it runs. -/
theorem fst_runAll_cons (site : String → Site K) (total index : Nat)
    (registration : Registration K) (rest : List (Registration K)) (state : RunState K) :
    (runAll site total index (registration :: rest) state).1 =
      if registration.stage = .skipped then (runAll site total (index + 1) rest state).1
      else if state.signal.isGiven = true then state.askCancelled.2
      else
        (runAll site total (index + 1) rest
          (runCheck (site registration.check.name) registration.check index total
            state.askCancelled.2).1).1 := by
  rw [runAll]
  split
  · rfl
  · unfold RunState.askCancelled
    cases state.signal.isGiven <;> rfl

theorem runAll_eq_of_roster_eq {site : String → Site K} {total : Nat}
    {registrations others : List (Registration K)} (same : roster registrations = roster others)
    (index : Nat) (state : RunState K) :
    runAll site total index registrations state = runAll site total index others state := by
  induction registrations generalizing others index state with
  | nil =>
    cases others with
    | nil => rfl
    | cons other others => cases same
  | cons registration registrations ih =>
    cases others with
    | nil => cases same
    | cons other others =>
      obtain ⟨head, tail⟩ := List.cons.inj same
      obtain ⟨check, skipped⟩ := Prod.mk.inj head
      have skips : registration.stage = .skipped ↔ other.stage = .skipped := by
        rw [← beq_iff_eq, skipped, beq_iff_eq]
      unfold runAll
      simp only [skips, check, ih tail]

theorem namesAt_eq (registrations : List (Registration K)) (positions : List Nat) :
    namesAt registrations positions =
      positions.filterMap fun index =>
        (roster registrations)[index]?.map fun entry => entry.1.name := by
  refine List.filterMap_congr fun index _ => ?_
  rw [roster, List.getElem?_map, Option.map_map]
  rfl

theorem skippedNames_eq (registrations : List (Registration K)) :
    skippedNames registrations =
      ((roster registrations).filter Prod.snd).map fun entry => entry.1.name := by
  rw [roster, List.filter_map, List.map_map]
  rfl

/-- **Sessions with one plan and one signal run alike.** -/
theorem run_eq_of_plan_eq {session other : Session K} (same : session.plan = other.plan)
    (signals : session.signal = other.signal) (design : Design K) :
    (session.run design).2 = (other.run design).2 := by
  obtain ⟨settings, catalog, diagnostics, rosters⟩ := Plan.mk.inj same
  have total : session.compiled.1.registrations.length =
      other.compiled.1.registrations.length := by
    simpa [roster] using congrArg List.length rosters
  have signals' : session.compiled.1.signal = other.compiled.1.signal := by
    rw [session.compiled_frame.2.2.2, other.compiled_frame.2.2.2, signals]
  unfold run
  simp only [settings, catalog, diagnostics, total, signals', runAll_eq_of_roster_eq rosters,
    namesAt_eq, skippedNames_eq, rosters]

/-- Only checks that are not skipped run. -/
theorem not_skipped_of_mem_ran {site : String → Site K} {total : Nat}
    {registrations : List (Registration K)} {index : Nat} {state : RunState K} {position : Nat}
    (ran : position ∈ (runAll site total index registrations state).2.ran) :
    ∃ offset registration, position = index + offset ∧
      registrations[offset]? = some registration ∧ registration.stage ≠ .skipped := by
  induction registrations generalizing index state with
  | nil => cases ran
  | cons registration registrations ih =>
    have later {state : RunState K}
        (ran : position ∈ (runAll site total (index + 1) registrations state).2.ran) :
        ∃ offset registration', position = index + offset ∧
          (registration :: registrations)[offset]? = some registration' ∧
            registration'.stage ≠ .skipped := by
      obtain ⟨offset, found, rfl, listed, runs⟩ := ih ran
      exact ⟨offset + 1, found, by omega, listed, runs⟩
    unfold runAll at ran
    by_cases skipped : registration.stage = .skipped
    · rw [if_pos skipped] at ran
      exact later ran
    · rw [if_neg skipped] at ran
      cases asked : state.askCancelled with
      | mk cancelled state =>
        rw [asked] at ran
        cases cancelled with
        | true => cases ran
        | false =>
          rcases List.mem_cons.mp ran with rfl | ran
          · exact ⟨0, registration, rfl, rfl, skipped⟩
          · exact later ran

/-- Marking checks that ran does not change which are skipped. -/
theorem roster_markRan {ran : List Nat} {registrations : List (Registration K)}
    (runs : ∀ position ∈ ran, ∀ registration, registrations[position]? = some registration →
      registration.stage ≠ .skipped) :
    roster (markRan ran registrations) = roster registrations := by
  refine List.ext_getElem? fun position => ?_
  rw [roster, markRan, roster, List.getElem?_map, List.getElem?_mapIdx, List.getElem?_map,
    Option.map_map]
  cases found : registrations[position]? with
  | none => rfl
  | some registration =>
    by_cases member : position ∈ ran
    · have kept := runs position member registration found
      simp [member, kept]
    · simp [member]

/-- **A run leaves the plan as it was.** -/
theorem plan_run (session : Session K) (design : Design K) :
    (session.run design).1.plan = session.plan := by
  have known : (session.run design).1.catalog = some session.compiled.2 :=
    catalog_compiled session
  rw [plan, compiled_of_catalog known]
  refine Plan.mk.injEq .. |>.mpr ⟨rfl, rfl, rfl, roster_markRan ?_⟩
  intro position ran registration found
  obtain ⟨offset, other, rfl, listed, runs⟩ := not_skipped_of_mem_ran ran
  rw [Nat.zero_add, listed, Option.some.injEq] at found
  exact found ▸ runs

theorem map_fst_roster (session : Session K) :
    session.plan.roster.map Prod.fst = session.checks := by
  rw [← session.compiled_frame.2.2.1]
  show (roster session.compiled.1.registrations).map _ = _
  rw [roster, List.map_map]
  rfl

/-- A run leaves alone what was registered, loaded or set. -/
theorem run_frame (session : Session K) (design : Design K) :
    (session.run design).1.settings = session.settings ∧
      (session.run design).1.rules = session.rules ∧
      (session.run design).1.checks = session.checks := by
  refine ⟨session.compiled_frame.1, session.compiled_frame.2.1, ?_⟩
  rw [← map_fst_roster, plan_run, map_fst_roster]

end Session

end DesignRules

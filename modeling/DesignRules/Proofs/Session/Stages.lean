/-
**What a session knows, whatever happened to it.**

Either a session was not compiled since its rules or checks changed, and knows nothing; or it has the
catalog of its rules and checks, each check is judged by it, and each skipped check has its
diagnostic.

* `Session.invoked`, `RanSince`: the checks that a run starts, and those that were started since the
  session was last compiled.
* `IsBlank`, `IsJudged`: what is known before and after compiling.
* `tracks_perform`, `tracks_after`: the stages through one operation, and through all of them.
* `run_replaceRun`: the run of a skipped check is never used.
* `session_state`: what is known after any operations.
-/

import DesignRules.Proofs.Catalog.Entries
import DesignRules.Proofs.Session.History
import Mathlib.Data.List.Forall2

namespace DesignRules

variable {K : Type}

/-- Whether an operation leaves the catalog of a session as it is, if there is one. -/
def Operation.keepsCatalog : Operation K → Bool
  | .run _ | .cancel | .resetSignal => true
  | .load _ | .register _ | .compile => false

namespace Session

/-! ### Checks that are run -/

/-- The run of the checks of a session, which is compiled first if that is needed. -/
def passage (session : Session K) (design : Design K) : Passage :=
  (runAll (fun name => ⟨name, session.compiled.2, design, session.compiled.1.settings⟩)
    session.compiled.1.registrations.length 0 session.compiled.1.registrations
    { findings := { limit := session.compiled.1.settings.maxViolations }
      signal := session.compiled.1.signal }).2

/-- The positions of the checks that a run starts. -/
def invoked (session : Session K) (design : Design K) : List Nat := (session.passage design).ran

/-- A run starts checks of the compiled session that are not skipped. -/
theorem not_skipped_of_mem_invoked {session : Session K} {design : Design K} {position : Nat}
    (started : position ∈ session.invoked design) :
    ∃ registration, session.compiled.1.registrations[position]? = some registration ∧
      registration.stage ≠ .skipped := by
  obtain ⟨offset, registration, rfl, listed, runs⟩ := not_skipped_of_mem_ran started
  rw [Nat.zero_add]
  exact ⟨registration, listed, runs⟩

theorem getElem?_stages (session : Session K) (position : Nat) :
    session.stages[position]? = session.registrations[position]?.map Registration.stage :=
  List.getElem?_map

/-- **The stages after a run.** -/
theorem getElem?_stages_run (session : Session K) (design : Design K) (position : Nat) :
    (session.run design).1.stages[position]? =
      if position ∈ session.invoked design then some .ran
      else session.compiled.1.stages[position]? := by
  have marked : (session.run design).1.registrations =
      markRan (session.invoked design) session.compiled.1.registrations := rfl
  rw [getElem?_stages, getElem?_stages, marked, markRan, List.getElem?_mapIdx]
  by_cases started : position ∈ session.invoked design
  · obtain ⟨registration, listed, -⟩ := not_skipped_of_mem_invoked started
    rw [if_pos started, listed]
    simp only [Option.map_some, if_pos started]
  · rw [if_neg started]
    simp only [if_neg started, Option.map_id']

/-! ### Runs since the last compilation -/

variable [Scalar K]

/-- Whether a run has started the check at a position and the catalog is still the one of that
run. -/
def RanSince (session : Session K) (operations : List (Operation K)) (position : Nat) : Prop :=
  ∃ before design rest, operations = before ++ .run design :: rest ∧
    (∀ operation ∈ rest, operation.keepsCatalog = true) ∧
      position ∈ (session.after before).invoked design

theorem not_ranSince_nil (session : Session K) (position : Nat) :
    ¬ session.RanSince [] position := by
  rintro ⟨before, design, rest, split, -⟩
  exact List.append_ne_nil_of_right_ne_nil before (List.cons_ne_nil _ rest) split.symm

/-- **One more operation**: a run starts checks, and what discards the catalog forgets all runs. -/
theorem ranSince_append_singleton (session : Session K) (operations : List (Operation K))
    (operation : Operation K) (position : Nat) :
    session.RanSince (operations ++ [operation]) position ↔
      (∃ design, operation = .run design ∧
        position ∈ (session.after operations).invoked design) ∨
      operation.keepsCatalog = true ∧ session.RanSince operations position := by
  constructor
  · rintro ⟨before, design, rest, split, kept, started⟩
    rcases rest.eq_nil_or_concat' with rfl | ⟨rest, last, rfl⟩
    · obtain ⟨rfl, same⟩ := List.append_inj' split rfl
      exact .inl ⟨design, List.head_eq_of_cons_eq same, started⟩
    · rw [← List.cons_append, ← List.append_assoc] at split
      obtain ⟨rfl, same⟩ := List.append_inj' split rfl
      obtain rfl := List.head_eq_of_cons_eq same
      obtain ⟨keptRest, keptLast⟩ := List.forall_mem_append.mp kept
      exact .inr ⟨keptLast operation (List.mem_singleton_self _), before, design, rest, rfl, keptRest,
        started⟩
  · rintro (⟨design, rfl, started⟩ | ⟨kept, before, design, rest, rfl, keptRest, started⟩)
    · exact ⟨operations, design, [], rfl, List.forall_mem_nil _, started⟩
    · refine ⟨before, design, rest ++ [operation], ?_, ?_, started⟩
      · rw [List.append_assoc, List.cons_append]
      · exact List.forall_mem_append.mpr ⟨keptRest, List.forall_mem_singleton.mpr kept⟩

/-! ### Stages through operations -/

omit [Scalar K] in
/-- **How far the checks have come**, and which of them ran: none before the session is compiled. -/
structure Tracks (session : Session K) (ran : Nat → Prop) : Prop where
  blank : session.catalog = none →
    session.compileDiagnostics = [] ∧ ∀ stage ∈ session.stages, stage = .registered
  judged : session.catalog ≠ none →
    ∀ stage ∈ session.stages, stage = .skipped ∨ stage = .runnable ∨ stage = .ran
  marked : ∀ position, session.stages[position]? = some .ran ↔ ran position

section Steps

variable {session : Session K} {ran : Nat → Prop}

omit [Scalar K]

theorem Tracks.congr {other : Nat → Prop} (tracks : session.Tracks ran)
    (same : ∀ position, ran position ↔ other position) : session.Tracks other :=
  ⟨tracks.blank, tracks.judged, fun position => (tracks.marked position).trans (same position)⟩

theorem stages_obsolete (session : Session K) :
    ∀ stage ∈ session.obsolete.stages, stage = .registered := by
  intro stage member
  obtain ⟨registration, listed, rfl⟩ := List.mem_map.mp member
  obtain ⟨original, -, rfl⟩ := List.mem_map.mp listed
  rfl

theorem stages_compile (session : Session K) :
    ∀ stage ∈ session.compile.1.stages, stage = .skipped ∨ stage = .runnable := by
  intro stage member
  obtain ⟨registration, listed, rfl⟩ := List.mem_map.mp member
  obtain ⟨original, -, rfl⟩ := List.mem_map.mp listed
  show (if _ then _ else _) = _ ∨ (if _ then _ else _) = _
  split
  · exact .inr rfl
  · exact .inl rfl

/-- A list without a stage does not have it at any position. -/
theorem getElem?_ne_ran {stages : List Stage} (never : .ran ∉ stages) (position : Nat) :
    ¬ stages[position]? = some .ran :=
  fun listed => never (List.mem_of_getElem? listed)

theorem tracks_obsolete (session : Session K) : session.obsolete.Tracks fun _ => False where
  blank := fun _ => ⟨rfl, session.stages_obsolete⟩
  judged := fun known => absurd rfl known
  marked := fun position => by
    refine iff_of_false (getElem?_ne_ran (fun member => ?_) position) id
    cases session.stages_obsolete _ member

theorem tracks_compile (session : Session K) : session.compile.1.Tracks fun _ => False where
  blank := fun unknown => by cases unknown
  judged := fun _ stage member => (session.stages_compile stage member).imp_right .inl
  marked := fun position => by
    refine iff_of_false (getElem?_ne_ran (fun member => ?_) position) id
    rcases session.stages_compile _ member with same | same <;> cases same

/-- Compiling a session that needs it does not change which checks ran. -/
theorem Tracks.compiled (tracks : session.Tracks ran) : session.compiled.1.Tracks ran := by
  cases known : session.catalog with
  | some catalog =>
    rw [compiled_of_catalog known]
    exact tracks
  | none =>
    have none_ran : ∀ position, ¬ ran position := by
      intro position started
      have member := List.mem_of_getElem? ((tracks.marked position).mpr started)
      cases (tracks.blank known).2 _ member
    rw [compiled_of_none known]
    exact session.tracks_compile.congr fun position => iff_of_false id (none_ran position)

theorem Tracks.run (tracks : session.Tracks ran) (design : Design K) :
    (session.run design).1.Tracks fun position =>
      position ∈ session.invoked design ∨ ran position := by
  have compiled := tracks.compiled
  have known : (session.run design).1.catalog = some session.compiled.2 :=
    catalog_compiled session
  have judged := compiled.judged (by rw [catalog_compiled]; exact Option.some_ne_none _)
  refine ⟨fun unknown => ?_, fun _ stage member => ?_, fun position => ?_⟩
  · rw [known] at unknown
    cases unknown
  · obtain ⟨position, listed⟩ := List.mem_iff_getElem?.mp member
    rw [getElem?_stages_run] at listed
    by_cases started : position ∈ session.invoked design
    · rw [if_pos started] at listed
      exact .inr (.inr (Option.some.inj listed).symm)
    · rw [if_neg started] at listed
      exact judged stage (List.mem_of_getElem? listed)
  · rw [getElem?_stages_run]
    by_cases started : position ∈ session.invoked design
    · rw [if_pos started]
      exact iff_of_true rfl (.inl started)
    · rw [if_neg started, compiled.marked]
      exact (or_iff_right started).symm

end Steps

/-- **One operation.** -/
theorem tracks_perform {session : Session K} {ran : Nat → Prop} (tracks : session.Tracks ran)
    (operation : Operation K) :
    (session.perform operation).Tracks fun position =>
      (∃ design, operation = .run design ∧ position ∈ session.invoked design) ∨
        operation.keepsCatalog = true ∧ ran position := by
  have forgotten (discards : operation.keepsCatalog = false)
      (stops : ∀ design, operation ≠ .run design) (position : Nat) :
      False ↔ (∃ design, operation = .run design ∧ position ∈ session.invoked design) ∨
        operation.keepsCatalog = true ∧ ran position := by
    refine iff_of_false id ?_
    rintro (⟨design, same, -⟩ | ⟨keeps, -⟩)
    · exact stops design same
    · rw [discards] at keeps
      cases keeps
  have kept (keeps : operation.keepsCatalog = true) (stops : ∀ design, operation ≠ .run design)
      (position : Nat) :
      ran position ↔ (∃ design, operation = .run design ∧ position ∈ session.invoked design) ∨
        operation.keepsCatalog = true ∧ ran position := by
    refine ⟨fun started => .inr ⟨keeps, started⟩, ?_⟩
    rintro (⟨design, same, -⟩ | ⟨-, started⟩)
    · exact absurd same (stops design)
    · exact started
  cases operation with
  | load text => exact (tracks_obsolete _).congr (forgotten rfl nofun)
  | register check => exact (tracks_obsolete _).congr (forgotten rfl nofun)
  | compile => exact session.tracks_compile.congr (forgotten rfl nofun)
  | cancel =>
    exact Tracks.congr ⟨tracks.blank, tracks.judged, tracks.marked⟩ (kept rfl nofun)
  | resetSignal =>
    exact Tracks.congr ⟨tracks.blank, tracks.judged, tracks.marked⟩ (kept rfl nofun)
  | run design =>
    refine (tracks.run design).congr fun position => ?_
    simp [Operation.keepsCatalog]

/-- **All operations.** -/
theorem tracks_after {session : Session K} (tracks : session.Tracks fun _ => False)
    (operations : List (Operation K)) :
    (session.after operations).Tracks (session.RanSince operations) := by
  induction operations using List.reverseRecOn with
  | nil => exact tracks.congr fun position => iff_of_false id (session.not_ranSince_nil position)
  | append_singleton operations operation ih =>
    have last : session.after (operations ++ [operation]) =
        (session.after operations).perform operation := List.foldl_append
    rw [last]
    exact (tracks_perform ih operation).congr fun position =>
      (session.ranSince_append_singleton operations operation position).symm

/-! ### What is known -/

omit [Scalar K] in
/-- **What is known before a session is compiled**: nothing. -/
structure IsBlank (session : Session K) : Prop where
  unknown : session.catalog = none
  stages : ∀ stage ∈ session.stages, stage = .registered
  diagnostics : session.compileDiagnostics = []

omit [Scalar K] in
/-- **What is known once a session is compiled.** The catalog is that of its rules for all kinds that
its checks need. A check is skipped just if a kind that it needs has no entry, which a diagnostic
says; the diagnostics on hidden constraints follow, if they are asked for. -/
structure IsJudged (session : Session K) (catalog : Catalog K) : Prop where
  known : session.catalog = some catalog
  built : catalog = Catalog.build session.rules.rules (session.checks.flatMap Check.needs)
  skipped : ∀ registration ∈ session.registrations,
    (registration.stage = .skipped ↔
      ∃ kind ∈ registration.check.needs, catalog.entries kind = .ok [])
  others : ∀ registration ∈ session.registrations,
    registration.stage = .skipped ∨ registration.stage = .runnable ∨ registration.stage = .ran
  diagnostics : session.compileDiagnostics =
    ((session.registrations.filter fun registration => registration.stage = .skipped).map
      fun registration =>
        .info (skipMessage registration.check.name (missing catalog registration.check))) ++
      if session.settings.warnOnShadowedRules then catalog.shadowing else []

section Judgement

variable {session : Session K}

omit [Scalar K]

/-- A check lacks a kind just if one that it needs has no entry. -/
theorem missing_ne_nil_iff {rules : List (Rule K)} {checks : List (Check K)} {check : Check K}
    (registered : check ∈ checks) :
    missing (Catalog.build rules (checks.flatMap Check.needs)) check ≠ [] ↔
      ∃ kind ∈ check.needs,
        (Catalog.build rules (checks.flatMap Check.needs)).entries kind = .ok [] := by
  rw [ne_eq, missing, List.filter_eq_nil_iff, not_forall]
  refine exists_congr fun kind => ?_
  rw [Classical.not_imp, not_not, beq_iff_eq, Catalog.count_build, Catalog.entries_build]
  refine and_congr_right fun needed => ?_
  have asked : kind ∈ checks.flatMap Check.needs := List.mem_flatMap.mpr ⟨check, registered, needed⟩
  rw [if_pos asked, if_pos asked, List.length_eq_zero_iff, Except.ok.injEq]

/-- A check with its judgement has a diagnostic just if it is skipped. -/
theorem filterMap_skip?_eq {catalog : Catalog K} {registrations : List (Registration K)}
    (judged : ∀ registration ∈ registrations,
      (registration.stage = .skipped ↔ missing catalog registration.check ≠ [])) :
    (registrations.map Registration.check).filterMap (skip? catalog) =
      (registrations.filter fun registration => registration.stage = .skipped).map
        fun registration =>
          .info (skipMessage registration.check.name (missing catalog registration.check)) := by
  induction registrations with
  | nil => rfl
  | cons registration rest ih =>
    obtain ⟨here, others⟩ := List.forall_mem_cons.mp judged
    rw [List.map_cons, List.filterMap_cons, List.filter_cons, skip?, ih others]
    cases lacking : missing catalog registration.check with
    | nil =>
      have stays : registration.stage ≠ .skipped := fun skipped => here.mp skipped lacking
      simp [stays]
    | cons kind kinds =>
      have skipped : registration.stage = .skipped :=
        here.mpr (lacking ▸ List.cons_ne_nil kind kinds)
      simp [skipped, lacking]

/-- A session that is compiled, and whose plan is current, is judged. -/
theorem isJudged_of_isCurrent (current : session.IsCurrent) {catalog : Catalog K}
    (known : session.catalog = some catalog)
    (stages : ∀ stage ∈ session.stages, stage = .skipped ∨ stage = .runnable ∨ stage = .ran) :
    session.IsJudged catalog := by
  rw [IsCurrent, plan, compiled_of_catalog known] at current
  obtain ⟨-, built, report, rosters⟩ := Plan.mk.inj current
  have built : catalog = Catalog.build session.rules.rules (session.checks.flatMap Check.needs) :=
    built
  rw [← built] at report rosters
  have diagnostics : session.compileDiagnostics =
      compileReport session.settings catalog session.checks := List.append_cancel_left report
  have lacks : ∀ registration ∈ session.registrations,
      (registration.stage = .skipped ↔ missing catalog registration.check ≠ []) := by
    intro registration listed
    have judgements : (session.registrations.map fun registration =>
          (registration.check, registration.stage == .skipped)) =
        session.registrations.map fun registration =>
          (registration.check, !(missing catalog registration.check).isEmpty) := by
      rw [checks, List.map_map] at rosters
      exact rosters
    have judgement := (Prod.mk.inj (List.map_inj_left.mp judgements registration listed)).2
    rw [← beq_iff_eq, judgement, Bool.not_eq_true', ne_eq, ← List.isEmpty_iff,
      Bool.not_eq_true]
  refine ⟨known, built, fun registration listed => ?_, fun registration listed => ?_, ?_⟩
  · have registered : registration.check ∈ session.checks := List.mem_map_of_mem listed
    rw [lacks registration listed, built]
    exact missing_ne_nil_iff registered
  · exact stages _ (List.mem_map_of_mem listed)
  · rw [diagnostics, compileReport, checks, filterMap_skip?_eq lacks]

end Judgement

/-! ### Runs of skipped checks -/

section Replacing

omit [Scalar K]

/-- A registered check that runs in another way. -/
def withRun (run : Site K → RunState K → RunState K × Option RunError)
    (registration : Registration K) : Registration K :=
  { registration with check := { registration.check with run } }

/-- The session in which the check at a position runs in another way. -/
def replaceRun (session : Session K) (position : Nat)
    (run : Site K → RunState K → RunState K × Option RunError) : Session K :=
  { session with registrations := session.registrations.modify position (withRun run) }

/-- Reading all values commutes with changing one, if reading one value does. -/
theorem map_modify {α β : Type} (read : α → β) {change : α → α} (change' : β → β)
    (commutes : ∀ value, read (change value) = change' (read value)) (values : List α)
    (position : Nat) :
    (values.modify position change).map read = (values.map read).modify position change' := by
  induction values generalizing position with
  | nil => rw [List.modify_nil, List.map_nil, List.modify_nil]
  | cons value values ih =>
    cases position with
    | zero => simp [commutes]
    | succ position => simp [ih]

variable (run : Site K → RunState K → RunState K × Option RunError)

/-- What is read of checks apart from their runs is not changed. -/
theorem map_modify_withRun {β : Type} (read : Registration K → β)
    (unread : ∀ registration, read (withRun run registration) = read registration)
    (registrations : List (Registration K)) (position : Nat) :
    (registrations.modify position (withRun run)).map read = registrations.map read :=
  (map_modify read id unread registrations position).trans (List.modify_id ..)

theorem compiled_replaceRun (session : Session K) (position : Nat) :
    (session.replaceRun position run).compiled =
      (session.compiled.1.replaceRun position run, session.compiled.2) := by
  refine compiled_change (replaceRun · position run) rfl ?_
  have needed : (session.replaceRun position run).needs = session.needs :=
    congrArg List.flatten
      (map_modify_withRun run _ (fun _ => rfl) session.registrations position)
  have skips (catalog : Catalog K) :
      (session.registrations.modify position (withRun run)).filterMap
          (fun registration => skip? catalog registration.check) =
        session.registrations.filterMap fun registration => skip? catalog registration.check := by
    have read := map_modify_withRun run (fun registration => skip? catalog registration.check)
      (fun _ => rfl) session.registrations position
    simpa only [List.filterMap_map, Function.id_comp] using congrArg (List.filterMap id) read
  have judgements (catalog : Catalog K) :
      (session.registrations.modify position (withRun run)).map (judged catalog) =
        (session.registrations.map (judged catalog)).modify position (withRun run) :=
    map_modify (judged catalog) (withRun run) (fun _ => rfl) session.registrations position
  unfold compile
  rw [needed]
  simp only [replaceRun, skips, judgements]
  rfl

/-- Whether two registered checks can differ only in how they run, and only if they are skipped. -/
structure Alike (registration other : Registration K) : Prop where
  name : other.check.name = registration.check.name
  stage : other.stage = registration.stage
  check : registration.stage ≠ .skipped → other.check = registration.check

theorem alike_replaceRun {registrations : List (Registration K)} {position : Nat}
    (skipped : ∀ registration, registrations[position]? = some registration →
      registration.stage = .skipped) :
    List.Forall₂ Alike registrations (registrations.modify position (withRun run)) := by
  have same (registration : Registration K) : Alike registration registration :=
    ⟨rfl, rfl, fun _ => rfl⟩
  induction registrations generalizing position with
  | nil =>
    rw [List.modify_nil]
    exact .nil
  | cons registration rest ih =>
    cases position with
    | zero =>
      rw [List.modify_zero_cons]
      refine .cons ⟨rfl, rfl, fun runs => ?_⟩ (List.forall₂_same.mpr fun other _ => same other)
      exact absurd (skipped registration rfl) runs
    | succ position =>
      rw [List.modify_succ_cons]
      exact .cons (same registration) (ih skipped)

section Alike

variable {registrations others : List (Registration K)}
  (alike : List.Forall₂ Alike registrations others)

include alike

theorem runAll_eq_of_alike (site : String → Site K) (total index : Nat) (state : RunState K) :
    runAll site total index others state = runAll site total index registrations state := by
  induction alike generalizing index state with
  | nil => rfl
  | cons here _ ih =>
    unfold runAll
    split
    · rename_i skipped
      rw [if_pos (here.stage.symm.trans skipped)]
      exact ih (index + 1) state
    · rename_i runs
      have runs' := fun skipped => runs (here.stage.trans skipped)
      rw [if_neg runs']
      simp only [here.check runs', ih]

theorem names_eq_of_alike :
    others.map (fun registration => registration.check.name) =
      registrations.map fun registration => registration.check.name := by
  induction alike with
  | nil => rfl
  | cons here _ ih => rw [List.map_cons, List.map_cons, here.name, ih]

theorem skippedNames_eq_of_alike : skippedNames others = skippedNames registrations := by
  induction alike with
  | nil => rfl
  | cons here _ ih =>
    unfold skippedNames at ih ⊢
    rw [List.filter_cons, List.filter_cons, here.stage]
    split
    · rw [List.map_cons, List.map_cons, here.name, ih]
    · exact ih

end Alike

theorem namesAt_eq_of_names_eq {registrations others : List (Registration K)}
    (names : others.map (fun registration => registration.check.name) =
      registrations.map fun registration => registration.check.name) (positions : List Nat) :
    namesAt others positions = namesAt registrations positions := by
  refine List.filterMap_congr fun position _ => ?_
  rw [← List.getElem?_map, ← List.getElem?_map, names]

/-- **The run of a skipped check is never used.** -/
theorem run_replaceRun {session : Session K} {position : Nat}
    (skipped : session.compiled.1.stages[position]? = some .skipped) (design : Design K) :
    ((session.replaceRun position run).run design).2 = (session.run design).2 := by
  have alike : List.Forall₂ Alike session.compiled.1.registrations
      (session.compiled.1.replaceRun position run).registrations := by
    refine alike_replaceRun run fun registration listed => ?_
    rw [getElem?_stages, listed] at skipped
    exact Option.some.inj skipped
  have total : (session.compiled.1.replaceRun position run).registrations.length =
      session.compiled.1.registrations.length := alike.length_eq.symm
  have kept : (session.compiled.1.replaceRun position run).settings =
      session.compiled.1.settings := rfl
  unfold Session.run
  simp only [compiled_replaceRun, total, runAll_eq_of_alike alike, skippedNames_eq_of_alike alike,
    namesAt_eq_of_names_eq (names_eq_of_alike alike)]
  rfl

end Replacing

/-! ### After any operations -/

/-- **What is known after any operations.** The session knows nothing, or it is judged by the catalog
of its rules and checks. No check is left between two stages; a check counts as run just if a run
since the last compilation started it; and a check that is skipped in a run is not started there, so
that its own run can be any other. -/
theorem session_state (settings : Settings) (operations : List (Operation K)) :
    ((after { settings } operations).IsBlank ∨
        ∃ catalog, (after { settings } operations).IsJudged catalog) ∧
      .negotiating ∉ (after { settings } operations).stages ∧
      (∀ position, (after { settings } operations).stages[position]? = some .ran ↔
        RanSince { settings } operations position) ∧
      ∀ (design : Design K) (position : Nat),
        (after { settings } operations).compiled.1.stages[position]? = some .skipped →
          position ∉ (after { settings } operations).invoked design ∧
            ∀ run, (((after { settings } operations).replaceRun position run).run design).2 =
              ((after { settings } operations).run design).2 := by
  have new : ({ settings } : Session K).Tracks fun _ => False :=
    ⟨fun _ => ⟨rfl, List.forall_mem_nil _⟩, fun known => absurd rfl known, fun _ => ⟨nofun, nofun⟩⟩
  have tracks := tracks_after new operations
  have current : (after { settings } operations).IsCurrent :=
    isCurrent_after (isCurrent_of_none rfl) operations
  have stages : ∀ stage ∈ (after { settings } operations).stages,
      stage = .registered ∨ stage = .skipped ∨ stage = .runnable ∨ stage = .ran := by
    intro stage member
    by_cases unknown : (after { settings } operations).catalog = none
    · exact .inl ((tracks.blank unknown).2 stage member)
    · exact .inr (tracks.judged unknown stage member)
  refine ⟨?_, fun member => ?_, tracks.marked, fun design position skipped => ⟨?_, ?_⟩⟩
  · cases known : (after { settings } operations).catalog with
    | none => exact .inl ⟨known, (tracks.blank known).2, (tracks.blank known).1⟩
    | some catalog =>
      have judged := tracks.judged (known ▸ Option.some_ne_none catalog)
      exact .inr ⟨catalog, isJudged_of_isCurrent current known judged⟩
  · rcases stages _ member with same | same | same | same <;> cases same
  · intro started
    obtain ⟨registration, listed, runs⟩ := not_skipped_of_mem_invoked started
    rw [getElem?_stages, listed] at skipped
    exact runs (Option.some.inj skipped)
  · exact fun run => run_replaceRun run skipped design

/-- One check has a rule and the other has none; the second run is cancelled. -/
def onlyRectangles : List (Operation Float) :=
  [.load "(rule none (constraint disallow rect))", .register Disallow.check,
    .register TrackWidth.check, .run twoSquares, .cancel, .run twoSquares]

/-- The first check still counts as run, and the other one is not started by the next run. -/
theorem session_state_of_onlyRectangles :
    (after {} onlyRectangles).stages = [.ran, .skipped] ∧
      RanSince ({} : Session Float) onlyRectangles 0 ∧
        1 ∉ (after {} onlyRectangles).invoked twoSquares := by
  have stages : (after {} onlyRectangles).stages = [.ran, .skipped] := by decide +kernel
  have skipped : (after {} onlyRectangles).compiled.1.stages[1]? = some .skipped := by
    decide +kernel
  obtain ⟨-, -, ran, unused⟩ := session_state {} onlyRectangles
  exact ⟨stages, (ran 0).mp (by rw [stages]; rfl), (unused twoSquares 1 skipped).1⟩

end Session

end DesignRules

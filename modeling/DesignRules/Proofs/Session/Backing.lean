/-
**A check that is started can ask for what it needs.**

The catalog of a run is made for all kinds that any registered check needs, and a check is skipped
if a kind that it needs has no entry. So a question about a kind that a started check needs always
has an answer. The standard checks ask about no other kinds, so none of them gives up; and since
reading rules and compiling report no errors, neither does the run.

* `Site.Answers`: whether a site answers the questions about a kind, and has an entry of it.
* `answers_siteFor`: the sites of a run.
* `Course.Succeeds`, `Check.Completes`: courses, and checks, that do not give up.
* `completes_of_mem_standardBy`: the standard checks.
* `level_of_mem_compileReport`: what compiling reports.
* `started_checks_can_ask`: a run of any checks, and of standard ones.
-/

import DesignRules.Proofs.Clearance.Pairs
import DesignRules.Proofs.Rule.Warnings
import DesignRules.Proofs.Session.Account

namespace DesignRules

open Disallow (onlyLayer?)

variable {K : Type}

/-! ### Answers -/

section Answers

variable [Scalar K]

/-- Whether a site has an entry of a kind and answers every question about it: which constraint
counts for an item or a pair of items, with or without a layer, and which limit is the most
extreme. -/
structure Site.Answers (site : Site K) (kind : ConstraintKind) : Prop where
  has : ∃ entry entries, site.catalog.entries kind = .ok (entry :: entries)
  resolves : ∀ first second layer, ∃ found, site.resolve kind first second layer = .ok found
  compares : ∀ extreme, ∃ found, site.catalog.worst kind extreme = .ok found

theorem Site.answers_of_entries {site : Site K} {kind : ConstraintKind} {entries : List (Entry K)}
    (listed : site.catalog.entries kind = .ok entries) (filled : entries ≠ []) :
    site.Answers kind where
  has := by
    obtain ⟨entry, rest, rfl⟩ := List.exists_cons_of_ne_nil filled
    exact ⟨entry, rest, listed⟩
  resolves first second layer := by
    unfold Site.resolve Catalog.resolve
    rw [listed]
    exact ⟨_, rfl⟩
  compares extreme := by
    unfold Catalog.worst
    rw [listed]
    exact ⟨_, rfl⟩

/-- **A registered check is answered** about each kind that it needs and that the rules have a
constraint of. -/
theorem answers_siteFor {rules : Rules K} {checks : List (Check K)} {check : Check K}
    (registered : check ∈ checks) {kind : ConstraintKind} (needed : kind ∈ check.needs)
    (backed : Catalog.entriesOf rules.rules kind ≠ []) (settings : Settings) (design : Design K)
    (name : String) : (Session.siteFor rules checks settings design name).Answers kind := by
  have asked : kind ∈ checks.flatMap Check.needs := List.mem_flatMap.mpr ⟨check, registered, needed⟩
  have listed : (Session.siteFor rules checks settings design name).catalog.entries kind =
      .ok (Catalog.entriesOf rules.rules kind) :=
    (Catalog.entries_build _ _ _).trans (if_pos asked)
  exact Site.answers_of_entries listed backed

end Answers

/-! ### Courses that do not give up -/

/-- Whether a course neither gives up nor inspects an item in vain. -/
def Course.Succeeds : Course K → Prop
  | .givesUp _ => False
  | .closes _ => True
  | .walks inspect _ => ∀ index item, ∃ found, inspect index item = .ok found

theorem exists_walk_eq_ok {inspect : Nat → Item K → Except RunError (Inspection K)}
    (succeeds : ∀ index item, ∃ found, inspect index item = .ok found) (site : Site K) (index : Nat)
    (items : List (Item K)) (examined : Nat) (state : RunState K) :
    ∃ total, (walk site inspect index items examined state).2 = .ok total := by
  induction items generalizing index examined state with
  | nil => exact ⟨examined, rfl⟩
  | cons item rest ih =>
    rw [walk_cons]
    split
    · obtain ⟨found, inspected⟩ := succeeds index item
      unfold walkOn
      rw [inspected]
      exact ih _ _ _
    · exact ⟨examined, rfl⟩

theorem Course.Succeeds.run_eq_none {course : Course K} (succeeds : course.Succeeds)
    (site : Site K) (state : RunState K) : (course.run site state).2 = none := by
  cases course with
  | givesUp error => exact succeeds.elim
  | closes message => rfl
  | walks inspect message =>
    obtain ⟨total, walked⟩ := exists_walk_eq_ok succeeds site 0 site.design.items 0 state
    show (walkRun site inspect message state).2 = none
    unfold walkRun
    generalize walk site inspect 0 site.design.items 0 state = after at walked ⊢
    obtain ⟨left, result⟩ := after
    obtain rfl : result = .ok total := walked
    rfl

variable [Scalar K]

/-- Whether a check does not give up where it is answered about all kinds that it needs. -/
def Check.Completes (check : Check K) : Prop :=
  ∀ site : Site K, (∀ kind ∈ check.needs, site.Answers kind) →
    ∀ state, (check.run site state).2 = none

/-- A check that takes a course and asks about one kind. -/
theorem Check.completes_of_course {check : Check K} {kind : ConstraintKind}
    (needed : check.needs = [kind]) (course : Site K → Course K)
    (follows : ∀ (site : Site K) (state : RunState K),
      check.run site state = (course site).run site state)
    (succeeds : ∀ site : Site K, site.Answers kind → (course site).Succeeds) : check.Completes := by
  intro site answered state
  have answers := answered kind (needed ▸ List.mem_singleton_self kind)
  rw [follows]
  exact (succeeds site answers).run_eq_none site state

namespace Clearance

/-- The check of distances asks for the largest minimum, and for the constraints of pairs. -/
theorem succeeds_courseBy (search : Search K) {site : Site K} (answers : site.Answers .clearance) :
    (courseBy search site).Succeeds := by
  obtain ⟨entry, entries, listed⟩ := answers.has
  obtain ⟨widest, compared⟩ := answers.compares .largestMin
  unfold courseBy reach?
  rw [compared]
  cases limit : widest.bind fun entry => entry.constraint.min? with
  | none =>
    simp only [Except.map, limit]
    trivial
  | some reach =>
    simp only [Except.map, limit]
    intro index item
    unfold inspectBy
    cases item.box? with
    | none => exact ⟨_, rfl⟩
    | some box =>
      obtain ⟨found, visited⟩ := exists_mapM_eq_ok (withNeighbour site index item box)
        (search (Neighbours.ofItems site.design.items) (box.grown reach)) fun neighbour _ =>
          (mem_withNeighbour_iff listed index item box neighbour).imp fun _ both => both.1
      simp only [visited]
      exact ⟨_, rfl⟩

end Clearance

namespace Judges

variable {check : Check K} {inspect : Site K → Item K → Except RunError (Inspection K)}
  (judges : Judges check inspect)

include judges

/-- A check that judges each item alone can judge any item, where it is answered. -/
theorem exists_inspected {kind : ConstraintKind} (needed : check.needs = [kind]) {site : Site K}
    (answers : site.Answers kind) (item : Item K) : ∃ found, inspect site item = .ok found := by
  rcases judges.inspect_eq needed site item with ⟨passed, -⟩ | judged
  · exact ⟨_, passed⟩
  · obtain ⟨answer, resolved⟩ := answers.resolves item none (onlyLayer? item.layers)
    rw [judged, resolved]
    exact ⟨_, rfl⟩

theorem completes : check.Completes := by
  obtain ⟨kind, needed⟩ := judges.exists_needs
  obtain ⟨message, follows⟩ := judges.exists_walks
  exact Check.completes_of_course needed _ follows fun site answers _ item =>
    judges.exists_inspected needed answers item

end Judges

/-- **The standard checks do not give up** where they are answered about what they need. -/
theorem completes_of_mem_standardBy {search : Search K} {check : Check K}
    (standard : check ∈ Check.standardBy search) : check.Completes := by
  simp only [Check.standardBy, List.mem_cons, List.not_mem_nil, or_false] at standard
  rcases standard with rfl | rfl | rfl | rfl | rfl
  · exact Check.completes_of_course rfl _ (fun _ _ => rfl) fun _ =>
      Clearance.succeeds_courseBy search
  · exact Judges.trackWidth.completes
  · exact Judges.viaDiameter.completes
  · exact Judges.minArea.completes
  · exact Judges.disallow.completes

/-! ### What compiling reports -/

omit [Scalar K] in
theorem level_of_shadow? {kind : ConstraintKind} {entries : List (Entry K)}
    {diagnostic : Diagnostic} (reported : Catalog.shadow? kind entries = some diagnostic) :
    diagnostic.level = .info := by
  unfold Catalog.shadow? at reported
  split at reported
  · cases reported
  · cases reported
  · obtain rfl := Option.some.inj reported
    rfl

omit [Scalar K] in
/-- **Compiling reports no errors**, only that checks are skipped and constraints hidden. -/
theorem level_of_mem_compileReport {settings : Settings} {catalog : Catalog K}
    {checks : List (Check K)} {diagnostic : Diagnostic}
    (reported : diagnostic ∈ compileReport settings catalog checks) : diagnostic.level = .info := by
  rcases List.mem_append.mp reported with skips | shadows
  · obtain ⟨check, -, skipped⟩ := List.mem_filterMap.mp skips
    unfold Session.skip? at skipped
    split at skipped
    · cases skipped
    · obtain rfl := Option.some.inj skipped
      rfl
  · split at shadows
    · obtain ⟨⟨kind, entries⟩, -, hides⟩ := List.mem_filterMap.mp shadows
      exact level_of_shadow? hides
    · cases shadows

theorem level_of_mem_rulesOf {document? : Option String} {diagnostic : Diagnostic}
    (reported : diagnostic ∈ (rulesOf document? : Rules K).diagnostics) :
    diagnostic.level = .warning := by
  cases document? with
  | none => cases reported
  | some text => exact Rules.onlyWarns_ofText K _ text diagnostic reported

/-! ### Runs -/

namespace Session

/-- **A check that is started can ask for what it needs.** Whatever happened to a session, and
whatever its signal, a run is a succession of checks each of which is answered, for all items and
layers, about every kind that it needs and of which there is an entry. If all registered checks are
standard ones, whatever search they use, none of them gives up, and the report has no error. -/
theorem started_checks_can_ask (settings : Settings) (operations : List (Operation K))
    (signal : Signal) (design : Design K) :
    let rules : Rules K := rulesOf (lastDocument? operations)
    let session := (after { settings } operations).withSignal signal
    let site := siteFor rules (registered operations) settings design
    ∃ starts, RunsThrough settings rules (registered operations) session design starts ∧
      (∀ start ∈ starts, ∀ kind ∈ start.check.needs, (site start.check.name).Answers kind) ∧
      ((∀ check ∈ registered operations, ∃ search, check ∈ Check.standardBy search) →
        (∀ start ∈ starts, (start.result site).2 = none) ∧
          ∀ diagnostic ∈ (session.run design).2.report.diagnostics, diagnostic.level ≠ .error) := by
  intro rules session site
  have planned : session.plan = Plan.ofRules settings rules (registered operations) :=
    (plan_withSignal _ signal).trans (plan_after settings operations)
  obtain ⟨starts, runs⟩ := exists_runsThrough planned design
  have answered : ∀ start ∈ starts, ∀ kind ∈ start.check.needs,
      (site start.check.name).Answers kind := by
    intro start member kind needed
    have listed := List.mem_of_getElem? (runs.registered start member)
    exact answers_siteFor listed needed (runs.backed start member kind needed) settings design _
  refine ⟨starts, runs, answered, fun standard => ?_⟩
  have completes : ∀ start ∈ starts, (start.result site).2 = none := by
    intro start member
    obtain ⟨search, known⟩ := standard start.check
      (List.mem_of_getElem? (runs.registered start member))
    exact completes_of_mem_standardBy known _ (answered start member) start.given
  refine ⟨completes, fun diagnostic reported => ?_⟩
  rw [runs.diagnostics] at reported
  rcases List.mem_append.mp reported with known | failed
  · rcases List.mem_append.mp known with read | compiled
    · rw [level_of_mem_rulesOf read]
      decide
    · rw [level_of_mem_compileReport compiled]
      decide
  · obtain ⟨start, member, gaveUp⟩ := List.mem_filterMap.mp failed
    rw [Start.failure?, completes start member] at gaveUp
    cases gaveUp

/-- Rules for two of the standard checks, and then all of them. -/
def standardChecks : List (Operation Float) :=
  .load "(rule gap (constraint clearance (min 0.1mm))) (rule none (constraint disallow rect))" ::
    Check.standard.map .register

/-- The first and the last of the standard checks are started and do not give up. -/
theorem started_checks_can_ask_of_standard_checks :
    (∀ check ∈ registered standardChecks, ∃ search, check ∈ Check.standardBy search) ∧
    ∃ starts,
      RunsThrough {} (rulesOf (lastDocument? standardChecks)) (registered standardChecks)
          ((after {} standardChecks).withSignal .never) twoSquares starts ∧
        starts.map Start.position = [0, 4] ∧
        (∀ start ∈ starts, (start.result (siteFor (rulesOf (lastDocument? standardChecks))
          (registered standardChecks) {} twoSquares)).2 = none) ∧
        ∀ diagnostic ∈
            (((after {} standardChecks).withSignal .never).run twoSquares).2.report.diagnostics,
          diagnostic.level ≠ .error := by
  have standard : ∀ check ∈ registered standardChecks,
      ∃ search, check ∈ Check.standardBy search := by
    intro check member
    refine ⟨Neighbours.near, ?_⟩
    rw [standardBy_near]
    exact member
  obtain ⟨starts, runs, -, succeed⟩ := started_checks_can_ask {} standardChecks .never twoSquares
  have started : ((after {} standardChecks).withSignal .never).invoked twoSquares = [0, 4] := by
    decide +kernel
  obtain ⟨completes, fine⟩ := succeed standard
  exact ⟨standard, starts, runs, runs.invoked.trans started, completes, fine⟩

end Session

end DesignRules

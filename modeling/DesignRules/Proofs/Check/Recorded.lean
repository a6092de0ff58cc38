/-
**What a check records.**

Whatever limit a run has and whenever it is cancelled, a check records nothing but what it finds, and
in the order in which it finds it.

* `RunState.Keeps`: some of what was found has been recorded.
* `keeps_walk`, `Course.keeps_run`: a walk, and a whole course.
-/

import DesignRules.Proofs.Check.Whole

namespace DesignRules

variable {K : Type}

/-- Whether a run has recorded, since an earlier state, some of the violations that were found, in
their order. -/
def RunState.Keeps (before : RunState K) (found : List (Violation K)) (after : RunState K) : Prop :=
  ∃ kept : List (Violation K), kept.Sublist found ∧
    after.findings.violations = before.findings.violations ++ kept

namespace RunState.Keeps

variable {first second third : RunState K} {found others : List (Violation K)}

theorem of_eq (same : second.findings.violations = first.findings.violations) :
    first.Keeps found second :=
  ⟨[], List.nil_sublist found, same.trans (List.append_nil _).symm⟩

theorem trans (before : first.Keeps found second) (after : second.Keeps others third) :
    first.Keeps (found ++ others) third := by
  obtain ⟨kept, sooner, recorded⟩ := before
  obtain ⟨more, later, recorded'⟩ := after
  refine ⟨kept ++ more, sooner.append later, ?_⟩
  rw [recorded', recorded, List.append_assoc]

/-- Messages and progress change nothing. -/
theorem of_tally (keeps : first.Keeps found second)
    (tally : third.findings.tally = second.findings.tally) : first.Keeps found third := by
  obtain ⟨kept, some, recorded⟩ := keeps
  obtain ⟨-, rest⟩ := Prod.mk.inj tally
  exact ⟨kept, some, (Prod.mk.inj rest).1.trans recorded⟩

end RunState.Keeps

/-- A violation is recorded, or it is ignored or dropped. -/
theorem keeps_record (state : RunState K) (violation : Violation K) :
    state.Keeps [violation] (state.record violation).1 := by
  by_cases ignored : violation.severity = .ignore
  · refine .of_eq ?_
    show (state.findings.record violation).1.violations = _
    rw [Findings.record, if_pos ignored]
  by_cases full : state.findings.isFull = true
  · refine .of_eq ?_
    show (state.findings.record violation).1.violations = _
    rw [Findings.record, if_neg ignored, if_pos full]
  · refine ⟨[violation], .refl _, ?_⟩
    show (state.findings.record violation).1.violations = _
    rw [Findings.record, if_neg ignored, if_neg full]
    rfl

theorem keeps_recordAll (state : RunState K) (violations : List (Violation K)) :
    state.Keeps violations (state.recordAll violations) := by
  induction violations generalizing state with
  | nil => exact .of_eq rfl
  | cons violation violations ih => exact (keeps_record state violation).trans (ih _)

/-- **A walk** records some of what it would find if nothing stopped it. -/
theorem keeps_walk (site : Site K) (inspect : Nat → Item K → Except RunError (Inspection K))
    (index : Nat) (items : List (Item K)) (examined : Nat) (state : RunState K) :
    state.Keeps (foundFrom inspect index items)
      (walk site inspect index items examined state).1 := by
  induction items generalizing index examined state with
  | nil => exact .of_eq rfl
  | cons item rest ih =>
    have asked : (site.checkpoint index site.design.items.length state).2.findings.violations =
        state.findings.violations := by
      obtain ⟨-, rest⟩ := Prod.mk.inj (tally_checkpoint site index site.design.items.length state)
      exact (Prod.mk.inj rest).1
    rw [walk_cons]
    split
    · rw [walkOn, foundFrom]
      cases inspect index item with
      | error error => exact .of_eq asked
      | ok found =>
        have began : state.Keeps [] (site.checkpoint index site.design.items.length state).2 :=
          .of_eq asked
        exact began.trans ((keeps_recordAll _ found.violations).trans (ih _ _ _))
    · exact .of_eq asked

/-- **A course** records some of what is found on it. -/
theorem Course.keeps_run (course : Course K) (site : Site K) (state : RunState K) :
    state.Keeps (course.found site) (course.run site state).1 := by
  cases course with
  | givesUp error => exact .of_eq rfl
  | closes message => exact .of_eq rfl
  | walks inspect message =>
    obtain ⟨message?, ends⟩ := walkRun_eq site inspect message state
    show state.Keeps _ (walkRun site inspect message state).1
    rw [ends]
    exact (keeps_walk site inspect 0 site.design.items 0 state).of_tally (tally_closing _ _)

end DesignRules

/-
**Checks under a limit on violations.**

The same checks run twice, once with a limit and once without. As long as the limited run is not
cancelled, it has recorded the first violations of the other one, as many as the limit admits. A
full report admits nothing more, so it does not matter that a check may stop early because of it.

* `admitted`: the violations that a limit admits.
* `Findings.Cuts`: findings that are those of another run, cut at a limit.
* `cuts_record`, `cuts_record_of_isFull`: one violation, for both runs and for the other one alone.
* `RunState.Follows`, `follows_walk`, `follows_run`: a walk, and a whole check.
-/

import DesignRules.Proofs.Check.Course

namespace DesignRules

variable {K : Type}

/-- The elements that a limit on their number admits, which are the first ones. -/
def admitted {α : Type} (limit : Option Nat) (elements : List α) : List α :=
  limit.elim elements elements.take

theorem admitted_nil {α : Type} (limit : Option Nat) : admitted limit ([] : List α) = [] := by
  cases limit with
  | none => rfl
  | some most => exact List.take_nil

/-- Fewer elements than the limit are all there are. -/
theorem eq_of_admitted_of_lt {α : Type} {limit : Option Nat} {elements : List α}
    (below : ∀ most, limit = some most → (admitted limit elements).length < most) :
    admitted limit elements = elements := by
  cases limit with
  | none => rfl
  | some most =>
    have short := below most rfl
    rw [admitted, Option.elim_some, List.length_take] at short
    exact List.take_of_length_le (by omega)

/-! ### Findings -/

/-- Whether findings are those of another run, cut at a limit. Only what the limit does not admit is
reported as dropped. -/
structure Findings.Cuts (limit : Option Nat) (cut whole : Findings K) : Prop where
  limited : cut.limit = limit
  unlimited : whole.limit = none
  violations : cut.violations = admitted limit whole.violations
  truncated : cut.truncated = true → ∃ most, limit = some most ∧ most < whole.violations.length

namespace Findings

variable {limit : Option Nat} {cut whole : Findings K}

theorem isFull_eq_false_of_unlimited {findings : Findings K} (unlimited : findings.limit = none) :
    findings.isFull = false := by
  rw [isFull, unlimited, Option.any_none]

/-- The report is full where the other run has as many violations as the limit admits. -/
theorem Cuts.isFull_iff (cuts : Cuts limit cut whole) :
    cut.isFull = true ↔ ∃ most, limit = some most ∧ most ≤ whole.violations.length := by
  rw [isFull, size, cuts.limited, cuts.violations]
  cases limit with
  | none => simp
  | some most =>
    rw [Option.any_some, decide_eq_true_eq, admitted, Option.elim_some, List.length_take]
    simp only [Option.some.injEq, exists_eq_left']
    omega

/-- If something was dropped, it is missing. -/
theorem Cuts.ne_of_truncated (cuts : Cuts limit cut whole) (dropped : cut.truncated = true) :
    cut.violations ≠ whole.violations := by
  obtain ⟨most, rfl, beyond⟩ := cuts.truncated dropped
  intro equal
  have short : (whole.violations.take most).length = whole.violations.length :=
    congrArg List.length (cuts.violations.symm.trans equal)
  rw [List.length_take] at short
  omega

/-- What findings tell about violations; messages and events are no part of it. -/
def tally (findings : Findings K) : Option Nat × List (Violation K) × Bool :=
  (findings.limit, findings.violations, findings.truncated)

theorem Cuts.congr {cut' whole' : Findings K} (cuts : Cuts limit cut whole)
    (left : cut'.tally = cut.tally) (right : whole'.tally = whole.tally) :
    Cuts limit cut' whole' := by
  obtain ⟨cutLimit, cutViolations, cutTruncated⟩ := Prod.mk.inj left |>.imp_right Prod.mk.inj
  obtain ⟨wholeLimit, wholeViolations, -⟩ := Prod.mk.inj right |>.imp_right Prod.mk.inj
  refine ⟨cutLimit.trans cuts.limited, wholeLimit.trans cuts.unlimited, ?_, ?_⟩
  · rw [cutViolations, wholeViolations, cuts.violations]
  · rw [cutTruncated, wholeViolations]
    exact cuts.truncated

/-- What the other run finds once the report is full makes no difference. -/
theorem Cuts.append_of_isFull (cuts : Cuts limit cut whole) (full : cut.isFull = true)
    {found : Findings K} (unlimited : found.limit = none) {more : List (Violation K)}
    (appended : found.violations = whole.violations ++ more) : Cuts limit cut found := by
  obtain ⟨most, rfl, reached⟩ := cuts.isFull_iff.mp full
  refine ⟨cuts.limited, unlimited, ?_, fun dropped => ?_⟩
  · rw [cuts.violations, appended]
    exact (List.take_append_of_le_length reached).symm
  · obtain ⟨_, equal, beyond⟩ := cuts.truncated dropped
    refine ⟨_, equal, ?_⟩
    rw [appended, List.length_append]
    omega

theorem record_of_unlimited {findings : Findings K} (unlimited : findings.limit = none)
    (violation : Violation K) :
    (findings.record violation).1.limit = none ∧
      (findings.record violation).1.truncated = findings.truncated ∧
      (findings.record violation).1.violations =
        findings.violations ++ if violation.severity = .ignore then [] else [violation] := by
  unfold record
  by_cases ignored : violation.severity = .ignore
  · rw [if_pos ignored, if_pos ignored, List.append_nil]
    exact ⟨unlimited, rfl, rfl⟩
  · rw [if_neg ignored, if_neg ignored, isFull_eq_false_of_unlimited unlimited]
    exact ⟨unlimited, rfl, rfl⟩

/-- **A violation that only the other run comes to**, when the report is full. -/
theorem cuts_record_of_isFull (cuts : Cuts limit cut whole) (full : cut.isFull = true)
    (violation : Violation K) : Cuts limit cut (whole.record violation).1 := by
  obtain ⟨unlimited, -, appended⟩ := record_of_unlimited cuts.unlimited violation
  exact cuts.append_of_isFull full unlimited appended

/-- **A violation that both runs come to.** -/
theorem cuts_record (cuts : Cuts limit cut whole) (violation : Violation K) :
    Cuts limit (cut.record violation).1 (whole.record violation).1 := by
  obtain ⟨unlimited, -, appended⟩ := record_of_unlimited cuts.unlimited violation
  by_cases ignored : violation.severity = .ignore
  · rw [record, if_pos ignored, record, if_pos ignored]
    exact cuts
  · rw [if_neg ignored] at appended
    rw [record, if_neg ignored]
    by_cases full : cut.isFull = true
    · obtain ⟨most, rfl, reached⟩ := cuts.isFull_iff.mp full
      have kept := cuts_record_of_isFull cuts full violation
      rw [if_pos full]
      refine ⟨kept.limited, kept.unlimited, kept.violations, fun _ => ⟨most, rfl, ?_⟩⟩
      rw [appended, List.length_append, List.length_singleton]
      omega
    · rw [if_neg full]
      refine ⟨cuts.limited, unlimited, ?_, fun dropped => ?_⟩
      · show cut.violations ++ [violation] = admitted limit (whole.record violation).1.violations
        rw [cuts.violations, appended]
        cases limit with
        | none => rfl
        | some most =>
          have room : whole.violations.length < most :=
            Nat.lt_of_not_le fun reached => full (cuts.isFull_iff.mpr ⟨most, rfl, reached⟩)
          show whole.violations.take most ++ [violation] =
            (whole.violations ++ [violation]).take most
          rw [List.take_of_length_le (Nat.le_of_lt room), List.take_of_length_le]
          rw [List.length_append, List.length_singleton]
          exact room
      · obtain ⟨most, equal, beyond⟩ := cuts.truncated dropped
        exact absurd (cuts.isFull_iff.mpr ⟨most, equal, Nat.le_of_lt beyond⟩) full

end Findings

/-! ### Walks -/

/-- Whether a run is cancelled, or has found what an unlimited one has found, cut at a limit. -/
def RunState.Follows (limit : Option Nat) (cut whole : RunState K) : Prop :=
  cut.signal.isGiven = true ∨ cut.findings.Cuts limit whole.findings

section Walk

variable {limit : Option Nat} {cut whole : RunState K}

theorem cuts_recordAll (cuts : cut.findings.Cuts limit whole.findings)
    (violations : List (Violation K)) :
    (cut.recordAll violations).findings.Cuts limit (whole.recordAll violations).findings := by
  induction violations generalizing cut whole with
  | nil => exact cuts
  | cons violation violations ih => exact ih (Findings.cuts_record cuts violation)

theorem cuts_recordAll_of_isFull {findings : Findings K}
    (cuts : findings.Cuts limit whole.findings) (full : findings.isFull = true)
    (violations : List (Violation K)) :
    findings.Cuts limit (whole.recordAll violations).findings := by
  induction violations generalizing whole with
  | nil => exact cuts
  | cons violation violations ih => exact ih (Findings.cuts_record_of_isFull cuts full violation)

theorem tally_checkpoint (site : Site K) (done total : Nat) (state : RunState K) :
    (site.checkpoint done total state).2.findings.tally = state.findings.tally := by
  rcases checkpoint_eq site done total state with stays | ⟨events, asks⟩
  · rw [stays]
  · rw [asks]
    rfl

/-- **The other run goes on alone**, when the report is full. -/
theorem cuts_walk_of_isFull {findings : Findings K} (cuts : findings.Cuts limit whole.findings)
    (full : findings.isFull = true) (site : Site K)
    (inspect : Nat → Item K → Except RunError (Inspection K)) (index : Nat)
    (items : List (Item K)) (examined : Nat) :
    findings.Cuts limit (walk site inspect index items examined whole).1.findings := by
  induction items generalizing index examined whole with
  | nil => exact cuts
  | cons item rest ih =>
    have checked := cuts.congr rfl (tally_checkpoint site index site.design.items.length whole)
    rw [walk_cons]
    split
    · unfold walkOn
      cases inspect index item with
      | error error => exact checked
      | ok found => exact ih (cuts_recordAll_of_isFull checked full found.violations) _ _
    · exact checked

theorem stopped_of_checkpoint {site : Site K} {done total : Nat} {state : RunState K}
    (stops : (site.checkpoint done total state).1 ≠ true) :
    (site.checkpoint done total state).2.signal.isGiven = true ∨
      (site.checkpoint done total state).2.findings.isFull = true := by
  rcases checkpoint_eq site done total state with stays | ⟨events, asks⟩
  · rw [stays] at stops
    exact absurd rfl stops
  · rw [asks] at stops ⊢
    cases given : state.signal.isGiven with
    | true => exact .inl ((Signal.Later.asked .now).isGiven given)
    | false =>
      have full : state.findings.isFull = true := by simpa [given] using stops
      exact .inr full

/-- A run that nobody cancels and that has no limit passes every checkpoint. -/
theorem checkpoint_of_unlimited (never : whole.signal = .never)
    (unlimited : whole.findings.limit = none) (site : Site K) (done total : Nat) :
    (site.checkpoint done total whole).1 = true ∧
      (site.checkpoint done total whole).2.signal = .never := by
  rcases checkpoint_eq site done total whole with stays | ⟨events, asks⟩
  · rw [stays]
    exact ⟨rfl, never⟩
  · rw [asks, never, Findings.isFull_eq_false_of_unlimited unlimited]
    exact ⟨rfl, rfl⟩

/-- **A walk**: what the limited run finds follows what the other one finds, wherever their
checkpoints lie. -/
theorem follows_walk (never : whole.signal = .never) (follows : cut.Follows limit whole)
    (site other : Site K) (inspect : Nat → Item K → Except RunError (Inspection K)) (index : Nat)
    (items : List (Item K)) (examined examined' : Nat) :
    (walk site inspect index items examined cut).1.Follows limit
      (walk other inspect index items examined' whole).1 := by
  induction items generalizing index examined examined' cut whole with
  | nil => exact follows
  | cons item rest ih =>
    rcases follows with given | cuts
    · exact .inl ((later_walk site inspect index (item :: rest) examined cut).isGiven given)
    · have checked := cuts.congr (tally_checkpoint site index site.design.items.length cut) rfl
      rw [walk_cons site]
      by_cases proceeds : (site.checkpoint index site.design.items.length cut).1 = true
      · obtain ⟨passes, stillNever⟩ := checkpoint_of_unlimited never cuts.unlimited other index
          other.design.items.length
        have both := checked.congr rfl
          (tally_checkpoint other index other.design.items.length whole)
        rw [walk_cons other, if_pos proceeds, if_pos passes]
        unfold walkOn
        cases inspect index item with
        | error error => exact .inr both
        | ok found =>
          refine ih ?_ (.inr (cuts_recordAll both found.violations)) _ _ _
          rw [signal_recordAll, stillNever]
      · -- the limited run stops here, because it is cancelled or because its report is full
        rw [if_neg proceeds]
        rcases stopped_of_checkpoint proceeds with given | full
        · exact .inl given
        · exact .inr (cuts_walk_of_isFull checked full other inspect index _ _)

theorem tally_closing (message? : Option String) (state : RunState K) :
    (closing message? state).findings.tally = state.findings.tally := by
  cases message? <;> rfl

theorem RunState.Follows.congr {cut' whole' : RunState K} (follows : cut.Follows limit whole)
    (signal : cut'.signal = cut.signal) (left : cut'.findings.tally = cut.findings.tally)
    (right : whole'.findings.tally = whole.findings.tally) : cut'.Follows limit whole' := by
  rcases follows with given | cuts
  · exact .inl (signal ▸ given)
  · exact .inr (cuts.congr left right)

theorem RunState.Follows.tell (follows : cut.Follows limit whole) (event : Event K) :
    (cut.tell event).Follows limit (whole.tell event) := follows.congr rfl rfl rfl

/-- **A check** under two settings. -/
theorem Check.IsTour.follows_run {check : Check K} (tour : check.IsTour)
    (never : whole.signal = .never) (follows : cut.Follows limit whole) (site : Site K)
    (settings : Settings) :
    (check.run site cut).1.Follows limit (check.run { site with settings } whole).1 := by
  obtain ⟨course, same, runs⟩ := tour
  rw [runs, runs, same site settings]
  cases course site with
  | givesUp error => exact follows
  | closes message => exact follows.congr rfl rfl rfl
  | walks inspect message =>
    obtain ⟨cutMessage?, cutEnds⟩ := walkRun_eq site inspect message cut
    obtain ⟨wholeMessage?, wholeEnds⟩ :=
      walkRun_eq { site with settings } inspect message whole
    show (walkRun site inspect message cut).1.Follows limit
      (walkRun { site with settings } inspect message whole).1
    rw [cutEnds, wholeEnds]
    exact (follows_walk never follows site { site with settings } inspect 0 site.design.items
      0 0).congr (signal_closing _ _) (tally_closing _ _) (tally_closing _ _)

end Walk

end DesignRules

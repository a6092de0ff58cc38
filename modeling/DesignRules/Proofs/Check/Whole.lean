/-
**What a check finds that nothing stops.**

A run that has no limit and whose signal is never given passes every checkpoint. What a check
records in it does not depend on what was recorded before: each check adds its own violations, the
ignored ones left out, to those of the checks before it.

* `RunState.IsFree`: a run that has no limit and that nobody cancels.
* `counted`, `foundFrom`, `Course.found`: violations that are not ignored, those at the items of a
  walk, and those of a whole course.
* `Check.foundOn`: what a check records when it runs alone.
* `walk_of_isFree`, `Course.run_of_isFree`, `Check.IsTour.run_of_isFree`: a walk, a course, a check.
* `check_of_mem_foundOn`: the violations of a check that judges each item alone bear its name.
-/

import DesignRules.Proofs.Check.Limit
import DesignRules.Proofs.Check.Standard
import DesignRules.Proofs.Results

namespace DesignRules

variable {K : Type}

/-! ### Runs that nothing stops -/

/-- Whether a run has no limit and nobody cancels it. -/
structure RunState.IsFree (state : RunState K) : Prop where
  never : state.signal = .never
  unlimited : state.findings.limit = none

/-- A run that has found nothing, has no limit, and that nobody cancels. -/
def RunState.free : RunState K := { findings := { limit := none }, signal := .never }

theorem RunState.isFree_free : (free : RunState K).IsFree := ⟨rfl, rfl⟩

/-- The violations that are not ignored. -/
def counted (violations : List (Violation K)) : List (Violation K) :=
  violations.filter fun violation => violation.severity ≠ .ignore

theorem mem_counted_iff {violations : List (Violation K)} {violation : Violation K} :
    violation ∈ counted violations ↔
      violation ∈ violations ∧ violation.severity ≠ .ignore := by
  rw [counted, List.mem_filter, decide_eq_true_eq]

theorem counted_append (front back : List (Violation K)) :
    counted (front ++ back) = counted front ++ counted back := List.filter_append ..

/-- What a run has come to, from another one: it is still free, and has more violations. -/
structure RunState.Extends (before : RunState K) (found : List (Violation K))
    (after : RunState K) : Prop where
  isFree : after.IsFree
  violations : after.findings.violations = before.findings.violations ++ found

namespace RunState.Extends

variable {first second third : RunState K} {found others : List (Violation K)}

theorem refl (free : first.IsFree) : first.Extends [] first := ⟨free, (List.append_nil _).symm⟩

theorem trans (before : first.Extends found second) (after : second.Extends others third) :
    first.Extends (found ++ others) third := by
  refine ⟨after.isFree, ?_⟩
  rw [after.violations, before.violations, List.append_assoc]

/-- Messages and progress change nothing. -/
theorem of_tally {other : RunState K} (extended : first.Extends found second)
    (signal : other.signal = second.signal)
    (tally : other.findings.tally = second.findings.tally) : first.Extends found other := by
  obtain ⟨limit, rest⟩ := Prod.mk.inj tally
  obtain ⟨violations, -⟩ := Prod.mk.inj rest
  refine ⟨⟨signal.trans extended.isFree.never, limit.trans extended.isFree.unlimited⟩, ?_⟩
  exact violations.trans extended.violations

end RunState.Extends

/-! ### Walks -/

theorem recordAll_of_isFree {state : RunState K} (free : state.IsFree)
    (violations : List (Violation K)) :
    state.Extends (counted violations) (state.recordAll violations) := by
  induction violations generalizing state with
  | nil => exact .refl free
  | cons violation violations ih =>
    obtain ⟨unlimited, -, appended⟩ := Findings.record_of_unlimited free.unlimited violation
    have one : state.Extends (counted [violation]) (state.record violation).1 := by
      refine ⟨⟨free.never, unlimited⟩, ?_⟩
      refine Eq.trans appended ?_
      by_cases ignored : violation.severity = .ignore
      · simp [counted, ignored]
      · simp [counted, ignored]
    have rest := ih one.isFree
    rw [← List.singleton_append, counted_append]
    exact one.trans rest

theorem checkpoint_of_isFree {state : RunState K} (free : state.IsFree) (site : Site K)
    (done total : Nat) :
    (site.checkpoint done total state).1 = true ∧
      state.Extends [] (site.checkpoint done total state).2 := by
  obtain ⟨passes, never⟩ := checkpoint_of_unlimited free.never free.unlimited site done total
  have signal : (site.checkpoint done total state).2.signal = state.signal :=
    never.trans free.never.symm
  exact ⟨passes, (RunState.Extends.refl free).of_tally signal
    (tally_checkpoint site done total state)⟩

/-- What is found at the items of a walk, up to the first that cannot be inspected. -/
def foundFrom (inspect : Nat → Item K → Except RunError (Inspection K)) :
    Nat → List (Item K) → List (Violation K)
  | _, [] => []
  | index, item :: rest =>
    match inspect index item with
    | .error _ => []
    | .ok found => found.violations ++ foundFrom inspect (index + 1) rest

/-- **A walk that nothing stops** records what it finds at its items. -/
theorem walk_of_isFree (site : Site K) (inspect : Nat → Item K → Except RunError (Inspection K))
    (index : Nat) (items : List (Item K)) (examined : Nat) {state : RunState K}
    (free : state.IsFree) :
    state.Extends (counted (foundFrom inspect index items))
      (walk site inspect index items examined state).1 := by
  induction items generalizing index examined state with
  | nil => exact .refl free
  | cons item rest ih =>
    obtain ⟨passes, checked⟩ := checkpoint_of_isFree free site index site.design.items.length
    rw [walk_cons, if_pos passes, walkOn, foundFrom]
    cases inspect index item with
    | error error => exact checked
    | ok found =>
      have recorded := recordAll_of_isFree checked.isFree found.violations
      have walked := ih (index + 1) (examined + found.examined) recorded.isFree
      rw [counted_append]
      exact checked.trans (recorded.trans walked)

/-- A violation is found at one of the items. -/
theorem exists_of_mem_foundFrom {inspect : Nat → Item K → Except RunError (Inspection K)}
    {items : List (Item K)} {index : Nat} {violation : Violation K}
    (member : violation ∈ foundFrom inspect index items) :
    ∃ offset item found, items[offset]? = some item ∧
      inspect (index + offset) item = .ok found ∧ violation ∈ found.violations := by
  induction items generalizing index with
  | nil => cases member
  | cons item rest ih =>
    rw [foundFrom] at member
    cases inspected : inspect index item with
    | error error =>
      rw [inspected] at member
      cases member
    | ok found =>
      rw [inspected] at member
      rcases List.mem_append.mp member with here | later
      · exact ⟨0, item, found, rfl, inspected, here⟩
      · obtain ⟨offset, other, found, listed, finds, member⟩ := ih later
        refine ⟨offset + 1, other, found, listed, ?_, member⟩
        rw [← finds, Nat.add_right_comm, Nat.add_assoc]

/-- Where every item can be inspected, what is found at any of them counts. -/
theorem mem_foundFrom {inspect : Nat → Item K → Except RunError (Inspection K)}
    {items : List (Item K)} {index : Nat}
    (inspects : ∀ index item, ∃ found, inspect index item = .ok found) {offset : Nat}
    {item : Item K} {found : Inspection K} {violation : Violation K}
    (listed : items[offset]? = some item) (finds : inspect (index + offset) item = .ok found)
    (member : violation ∈ found.violations) : violation ∈ foundFrom inspect index items := by
  induction items generalizing index offset with
  | nil => cases listed
  | cons first rest ih =>
    obtain ⟨here, inspected⟩ := inspects index first
    rw [foundFrom, inspected]
    cases offset with
    | zero =>
      obtain rfl : first = item := Option.some.inj listed
      obtain rfl : here = found := Except.ok.inj (inspected.symm.trans finds)
      exact List.mem_append_left _ member
    | succ offset =>
      rw [← Nat.add_assoc, Nat.add_right_comm] at finds
      exact List.mem_append_right _ (ih listed finds)

/-! ### Courses and checks -/

/-- What is found on a course. -/
def Course.found (site : Site K) : Course K → List (Violation K)
  | .givesUp _ => []
  | .closes _ => []
  | .walks inspect _ => foundFrom inspect 0 site.design.items

/-- **A course that nothing stops** records what is found on it. -/
theorem Course.run_of_isFree (course : Course K) (site : Site K) {state : RunState K}
    (free : state.IsFree) :
    state.Extends (counted (course.found site)) (course.run site state).1 := by
  cases course with
  | givesUp error => exact .refl free
  | closes message => exact (RunState.Extends.refl free).of_tally rfl rfl
  | walks inspect message =>
    obtain ⟨message?, ends⟩ := walkRun_eq site inspect message state
    have walked := walk_of_isFree site inspect 0 site.design.items 0 free
    show state.Extends _ (walkRun site inspect message state).1
    rw [ends]
    exact walked.of_tally (signal_closing _ _) (tally_closing _ _)

/-- What a check records when it runs alone and nothing stops it. -/
def Check.foundOn (check : Check K) (site : Site K) : List (Violation K) :=
  (check.run site .free).1.findings.violations

theorem Check.foundOn_eq {check : Check K} (course : Site K → Course K)
    (follows : ∀ (site : Site K) (state : RunState K),
      check.run site state = (course site).run site state) (site : Site K) :
    check.foundOn site = counted ((course site).found site) := by
  have ran := (course site).run_of_isFree site RunState.isFree_free
  rw [foundOn, follows, ran.violations]
  rfl

/-- **A check that nothing stops** adds what it finds alone. -/
theorem Check.IsTour.run_of_isFree {check : Check K} (tour : check.IsTour) (site : Site K)
    {state : RunState K} (free : state.IsFree) :
    state.Extends (check.foundOn site) (check.run site state).1 := by
  obtain ⟨course, -, follows⟩ := tour
  rw [foundOn_eq course follows, follows]
  exact (course site).run_of_isFree site free

/-! ### Checks of single items -/

section Single

variable [Scalar K] {site : Site K} {violation : Violation K} {check : Check K}
  {inspect : Site K → Item K → Except RunError (Inspection K)} (judges : Judges check inspect)

include judges

/-- What is found at an item bears the name of the check. -/
theorem check_of_mem_inspect {item : Item K} {found : Inspection K}
    (inspected : inspect site item = .ok found) (member : violation ∈ found.violations) :
    violation.check = site.check := by
  obtain ⟨kind, needed⟩ := judges.exists_needs
  rcases judges.inspect_eq needed site item with ⟨passed, -⟩ | judged
  · rw [passed] at inspected
    obtain rfl := Except.ok.inj inspected
    cases member
  · rw [judged] at inspected
    obtain ⟨answer, -, judged⟩ := bind_eq_ok_iff.mp inspected
    obtain rfl := Except.ok.inj judged
    obtain ⟨entry, -, said⟩ := Option.bind_eq_some_iff.mp (Option.mem_toList.mp member)
    obtain ⟨message, layer, box, rfl⟩ := Site.violationOf?_eq_some said
    rfl

/-- A check that judges each item alone records what it finds at the items. -/
theorem Judges.foundOn_eq (site : Site K) :
    check.foundOn site =
      counted (foundFrom (fun _ item => inspect site item) 0 site.design.items) := by
  obtain ⟨message, follows⟩ := judges.exists_walks
  exact Check.foundOn_eq (fun site => .walks (fun _ item => inspect site item) message) follows site

/-- **The violations of a check that judges each item alone bear its name.** -/
theorem check_of_mem_foundOn (member : violation ∈ check.foundOn site) :
    violation.check = site.check := by
  rw [judges.foundOn_eq, mem_counted_iff] at member
  obtain ⟨_, item, found, -, inspected, contained⟩ := exists_of_mem_foundFrom member.1
  exact check_of_mem_inspect judges inspected contained

end Single

end DesignRules

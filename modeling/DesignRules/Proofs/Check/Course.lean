/-
**Checks on a course.**

A check on a course gives up, closes with a message, or walks over the items. Which of these it
does, and what it finds at an item, depends on the constraints and the design and not on the
settings.

* `Signal.Later`: a signal as it is after some questions.
* `checkpoint_eq`: what a checkpoint does.
* `Course`, `Check.IsTour`: the three courses, and the checks that take one of them.
* `later_run`: on its course a check only asks for the signal and never gives it.
-/

import DesignRules.Check.Walk

namespace DesignRules

variable {K : Type}

/-! ### Signals -/

/-- Whether a signal is what another one has become after some questions. -/
inductive Signal.Later (signal : Signal) : Signal → Prop where
  | now : signal.Later signal
  | asked {later : Signal} : signal.Later later → signal.Later later.asked

namespace Signal

theorem Later.trans {first second third : Signal} (before : first.Later second)
    (after : second.Later third) : first.Later third := by
  induction after with
  | now => exact before
  | asked _ ih => exact ih.asked

theorem Later.eq_never {signal : Signal} (later : never.Later signal) : signal = never := by
  induction later with
  | now => rfl
  | asked _ ih =>
    rw [ih]
    rfl

/-- A signal that is given stays given. -/
theorem Later.isGiven {signal later : Signal} (after : signal.Later later)
    (given : signal.isGiven = true) : later.isGiven = true := by
  induction after with
  | now => exact given
  | @asked later _ ih =>
    match later, ih with
    | .after 0, _ => rfl

end Signal

/-! ### Steps of a walk -/

theorem signal_recordAll (state : RunState K) (violations : List (Violation K)) :
    (state.recordAll violations).signal = state.signal := by
  induction violations generalizing state with
  | nil => rfl
  | cons violation violations ih => exact ih (state.record violation).1

/-- **What a checkpoint does**: nothing at most items. At the others the watcher is told, the signal
is asked for, and the check goes on if it is not given and the report is not full. -/
theorem checkpoint_eq (site : Site K) (done total : Nat) (state : RunState K) :
    site.checkpoint done total state = (true, state) ∨
      ∃ events, site.checkpoint done total state =
        (!state.signal.isGiven && !state.findings.isFull,
          { state with
            findings := { state.findings with events }
            signal := state.signal.asked }) := by
  unfold Site.checkpoint
  by_cases between : done % site.interval ≠ 0
  · exact .inl (if_pos between)
  · rw [if_neg between]
    by_cases some : 0 < total
    · rw [if_pos some]
      exact .inr ⟨_, rfl⟩
    · rw [if_neg some]
      exact .inr ⟨_, rfl⟩

/-- A walk that goes on with an item. -/
def walkOn (site : Site K) (inspect : Nat → Item K → Except RunError (Inspection K)) (index : Nat)
    (item : Item K) (rest : List (Item K)) (examined : Nat) (state : RunState K) :
    RunState K × Except RunError Nat :=
  match inspect index item with
  | .error error => (state, .error error)
  | .ok found =>
    walk site inspect (index + 1) rest (examined + found.examined)
      (state.recordAll found.violations)

theorem walk_cons (site : Site K) (inspect : Nat → Item K → Except RunError (Inspection K))
    (index : Nat) (item : Item K) (rest : List (Item K)) (examined : Nat) (state : RunState K) :
    walk site inspect index (item :: rest) examined state =
      if (site.checkpoint index site.design.items.length state).1 = true then
        walkOn site inspect index item rest examined
          (site.checkpoint index site.design.items.length state).2
      else ((site.checkpoint index site.design.items.length state).2, .ok examined) := by
  rw [walk]
  cases site.checkpoint index site.design.items.length state with
  | mk proceeds state => cases proceeds <;> rfl

theorem later_checkpoint (site : Site K) (done total : Nat) (state : RunState K) :
    state.signal.Later (site.checkpoint done total state).2.signal := by
  rcases checkpoint_eq site done total state with stays | ⟨events, asks⟩
  · rw [stays]
    exact .now
  · rw [asks]
    exact .asked .now

/-- **A walk only asks for the signal.** -/
theorem later_walk (site : Site K) (inspect : Nat → Item K → Except RunError (Inspection K))
    (index : Nat) (items : List (Item K)) (examined : Nat) (state : RunState K) :
    state.signal.Later (walk site inspect index items examined state).1.signal := by
  induction items generalizing index examined state with
  | nil => exact .now
  | cons item rest ih =>
    rw [walk_cons]
    have asked := later_checkpoint site index site.design.items.length state
    split
    · refine asked.trans ?_
      unfold walkOn
      cases inspect index item with
      | error error => exact .now
      | ok found =>
        rw [← signal_recordAll _ found.violations]
        exact ih _ _ _
    · exact asked

/-- The message at the end of a walk. -/
def closing (message? : Option String) (state : RunState K) : RunState K :=
  message?.elim state state.note

theorem signal_closing (message? : Option String) (state : RunState K) :
    (closing message? state).signal = state.signal := by
  cases message? <;> rfl

/-- The run of a walk ends with a message or without one. -/
theorem walkRun_eq (site : Site K) (inspect : Nat → Item K → Except RunError (Inspection K))
    (message : Nat → Option String) (state : RunState K) :
    ∃ message?, (walkRun site inspect message state).1 =
      closing message? (walk site inspect 0 site.design.items 0 state).1 := by
  unfold walkRun
  cases walk site inspect 0 site.design.items 0 state with
  | mk after result =>
    cases result with
    | error error => exact ⟨none, rfl⟩
    | ok examined => exact ⟨message examined, rfl⟩

/-! ### Courses -/

/-- What a check does: it gives up, closes with a message, or walks over the items. -/
inductive Course (K : Type) where
  | givesUp (error : RunError)
  | closes (message : String)
  | walks (inspect : Nat → Item K → Except RunError (Inspection K))
      (message : Nat → Option String)

/-- The run of a course. -/
def Course.run (site : Site K) : Course K → RunState K → RunState K × Option RunError
  | .givesUp error, state => (state, some error)
  | .closes message, state => (state.note message, none)
  | .walks inspect message, state => walkRun site inspect message state

/-- Whether a check takes a course that does not depend on the settings. -/
def Check.IsTour (check : Check K) : Prop :=
  ∃ course : Site K → Course K,
    (∀ (site : Site K) (settings : Settings), course { site with settings } = course site) ∧
      ∀ (site : Site K) (state : RunState K), check.run site state = (course site).run site state

/-- A course only asks for the signal. -/
theorem Course.later_run (course : Course K) (site : Site K) (state : RunState K) :
    state.signal.Later (course.run site state).1.signal := by
  cases course with
  | givesUp error => exact .now
  | closes message => exact .now
  | walks inspect message =>
    obtain ⟨message?, ends⟩ := walkRun_eq site inspect message state
    show state.signal.Later (walkRun site inspect message state).1.signal
    rw [ends, signal_closing]
    exact later_walk site inspect 0 site.design.items 0 state

theorem Check.IsTour.later_run {check : Check K} (tour : check.IsTour) (site : Site K)
    (state : RunState K) : state.signal.Later (check.run site state).1.signal := by
  obtain ⟨course, -, follows⟩ := tour
  rw [follows]
  exact (course site).later_run site state

end DesignRules

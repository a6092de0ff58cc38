/-
**Checks that are told to stop.**

The same run is made twice, once with a signal that is given after some questions and once with one
that is never given. As long as the questions last, both runs do the same. When they are used up,
the run stops, and what it has found begins what the other one finds.

* `RunState.heeding`: a state with a signal that is given after some questions.
* `Obeys`: what such a signal makes of a run.
* `Obeys.ask`, `Obeys.before`, `Obeys.after`, `Obeys.bind`: a question first, steps that do not ask,
  and one run after the other.
* `obeys_walk`, `Course.obeys_run`: a walk, and a whole check.
* `Course.AgreeBelow`, `Course.run_eq_of_agreeBelow`: a check does not look at an item from the
  first checkpoint on that it reaches with the signal given.
-/

import DesignRules.Proofs.Check.Course

namespace DesignRules

variable {K α β γ : Type}

/-! ### Violations in order -/

theorem prefix_record (findings : Findings K) (violation : Violation K) :
    findings.violations <+: (findings.record violation).1.violations := by
  unfold Findings.record
  split
  · exact List.prefix_rfl
  · split
    · exact List.prefix_rfl
    · exact List.prefix_append _ _

theorem prefix_recordAll (state : RunState K) (violations : List (Violation K)) :
    state.findings.violations <+: (state.recordAll violations).findings.violations := by
  induction violations generalizing state with
  | nil => exact List.prefix_rfl
  | cons violation violations ih =>
    exact (prefix_record state.findings violation).trans (ih (state.record violation).1)

theorem violations_checkpoint (site : Site K) (done total : Nat) (state : RunState K) :
    (site.checkpoint done total state).2.findings.violations = state.findings.violations := by
  rcases checkpoint_eq site done total state with stays | ⟨events, asks⟩
  · rw [stays]
  · rw [asks]

/-- **A walk only adds violations.** -/
theorem prefix_walk (site : Site K) (inspect : Nat → Item K → Except RunError (Inspection K))
    (index : Nat) (items : List (Item K)) (examined : Nat) (state : RunState K) :
    state.findings.violations <+:
      (walk site inspect index items examined state).1.findings.violations := by
  induction items generalizing index examined state with
  | nil => exact List.prefix_rfl
  | cons item rest ih =>
    have checked := violations_checkpoint site index site.design.items.length state
    rw [walk_cons, ← checked]
    split
    · unfold walkOn
      cases inspect index item with
      | error error => exact List.prefix_rfl
      | ok found => exact (prefix_recordAll _ found.violations).trans (ih _ _ _)
    · exact List.prefix_rfl

/-- A course only adds violations. -/
theorem Course.prefix_run (course : Course K) (site : Site K) (state : RunState K) :
    state.findings.violations <+: (course.run site state).1.findings.violations := by
  cases course with
  | givesUp error => exact List.prefix_rfl
  | closes message => exact List.prefix_rfl
  | walks inspect message =>
    obtain ⟨message?, ends⟩ := walkRun_eq site inspect message state
    show state.findings.violations <+:
      (walkRun site inspect message state).1.findings.violations
    have kept (last : RunState K) :
        (closing message? last).findings.violations = last.findings.violations := by
      cases message? <;> rfl
    rw [ends, kept]
    exact prefix_walk site inspect 0 site.design.items 0 state

/-! ### Runs that obey a signal -/

/-- A state with a signal that is given after some questions. -/
def RunState.heeding (state : RunState K) (left : Nat) : RunState K :=
  { state with signal := .after left }

theorem recordAll_heeding (state : RunState K) (violations : List (Violation K)) (left : Nat) :
    (state.heeding left).recordAll violations = (state.recordAll violations).heeding left := by
  induction violations generalizing state with
  | nil => rfl
  | cons violation violations ih => exact ih (state.record violation).1

/-- Whether a run obeys signals: it asks some questions, does the same with a signal that is given
after more of them, and stops with one that is given earlier, with a result that is a part of the
whole one. -/
def Obeys (part : α → α → Prop) (run : RunState K → RunState K × α) (state : RunState K) : Prop :=
  ∃ questions, ∀ left,
    (questions ≤ left →
      run (state.heeding left) = ((run state).1.heeding (left - questions), (run state).2)) ∧
    (left < questions →
      (run (state.heeding left)).1.signal.isGiven = true ∧
        (run (state.heeding left)).1.findings.violations <+: (run state).1.findings.violations ∧
        part (run (state.heeding left)).2 (run state).2)

namespace Obeys

variable {part : α → α → Prop} {run next : RunState K → RunState K × α} {state : RunState K}

/-- A run that asks no question. -/
theorem silent
    (same : ∀ left, run (state.heeding left) = ((run state).1.heeding left, (run state).2)) :
    Obeys part run state :=
  ⟨0, fun left => ⟨fun _ => same left, nofun⟩⟩

/-- Whether a run obeys signals depends on what it does from one state, with any signal. -/
theorem congr {other : RunState K → RunState K × α} (obeys : Obeys part other state)
    (same : run state = other state)
    (heeding : ∀ left, run (state.heeding left) = other (state.heeding left)) :
    Obeys part run state := by
  unfold Obeys
  simp only [same, heeding]
  exact obeys

/-- **A question first**: the run stops if the answer is yes, and goes on otherwise. -/
theorem ask {asked : RunState K} (goes : Obeys part next asked) (never : run state = next asked)
    (no : ∀ left, run (state.heeding (left + 1)) = next (asked.heeding left))
    (yes : (run (state.heeding 0)).1.signal.isGiven = true ∧
      (run (state.heeding 0)).1.findings.violations <+: (next asked).1.findings.violations ∧
      part (run (state.heeding 0)).2 (next asked).2) : Obeys part run state := by
  obtain ⟨questions, obeys⟩ := goes
  refine ⟨questions + 1, fun left => ?_⟩
  cases left with
  | zero =>
    rw [never]
    exact ⟨nofun, fun _ => yes⟩
  | succ left =>
    rw [never, no, Nat.add_sub_add_right, Nat.add_le_add_iff_right, Nat.add_lt_add_iff_right]
    exact obeys left

/-- A step before that asks no question. -/
theorem before {step : RunState K → RunState K} (obeys : Obeys part run (step state))
    (commutes : ∀ left, step (state.heeding left) = (step state).heeding left) :
    Obeys part (fun state => run (step state)) state := by
  obtain ⟨questions, obeys⟩ := obeys
  refine ⟨questions, fun left => ?_⟩
  simp only [commutes]
  exact obeys left

/-- A step after that asks no question and finds nothing. -/
theorem after {part' : β → β → Prop} (obeys : Obeys part run state)
    (step : α → RunState K → RunState K) (value : α → β)
    (commutes : ∀ result last left,
      step result (RunState.heeding last left) = (step result last).heeding left)
    (signal : ∀ result last, (step result last).signal = last.signal)
    (violations : ∀ result last,
      (step result last).findings.violations = last.findings.violations)
    (parts : ∀ result whole, part result whole → part' (value result) (value whole)) :
    Obeys part' (fun state => (step (run state).2 (run state).1, value (run state).2)) state := by
  obtain ⟨questions, obeys⟩ := obeys
  refine ⟨questions, fun left => ⟨fun enough => ?_, fun few => ?_⟩⟩
  · dsimp only
    rw [(obeys left).1 enough, commutes]
  · obtain ⟨given, begins, partly⟩ := (obeys left).2 few
    dsimp only
    rw [signal, violations, violations]
    exact ⟨given, begins, parts _ _ partly⟩

/-- **One run after the other.** Once the signal is given the second one does nothing. -/
theorem bind {part' : β → β → Prop} {part'' : γ → γ → Prop} {second : RunState K → RunState K × β}
    {join : α → β → γ} (obeys : Obeys part run state) (obeys' : Obeys part' second (run state).1)
    (grows : (run state).1.findings.violations <+:
      (second (run state).1).1.findings.violations)
    (idle : ∀ last, last.signal.isGiven = true →
      (second last).1.signal.isGiven = true ∧
        (second last).1.findings.violations = last.findings.violations)
    (early : ∀ result last, part result (run state).2 → last.signal.isGiven = true →
      part'' (join result (second last).2) (join (run state).2 (second (run state).1).2))
    (late : ∀ result, part' result (second (run state).1).2 →
      part'' (join (run state).2 result) (join (run state).2 (second (run state).1).2)) :
    Obeys part''
      (fun state => ((second (run state).1).1, join (run state).2 (second (run state).1).2))
      state := by
  obtain ⟨questions, obeys⟩ := obeys
  obtain ⟨questions', obeys'⟩ := obeys'
  refine ⟨questions + questions', fun left => ⟨fun enough => ?_, fun few => ?_⟩⟩
  · dsimp only
    rw [(obeys left).1 (by omega), (obeys' (left - questions)).1 (by omega), Nat.sub_sub]
  · dsimp only
    by_cases before : left < questions
    · obtain ⟨given, begins, partly⟩ := (obeys left).2 before
      obtain ⟨stillGiven, nothing⟩ := idle _ given
      rw [nothing]
      exact ⟨stillGiven, begins.trans grows, early _ _ partly given⟩
    · obtain ⟨given, begins, partly⟩ := (obeys' (left - questions)).2 (by omega)
      rw [(obeys left).1 (by omega)]
      exact ⟨given, begins, late _ partly⟩

end Obeys

/-! ### Checkpoints and walks -/

/-- What is found once progress is reported. -/
def Findings.reached (findings : Findings K) (done total : Nat) : Findings K :=
  if 0 < total then findings.tell (.progress done total) else findings

theorem isFull_reached (findings : Findings K) (done total : Nat) :
    (findings.reached done total).isFull = findings.isFull := by
  unfold Findings.reached
  split <;> rfl

/-- The state after a checkpoint that asks for the signal. -/
def RunState.passed (state : RunState K) (done total : Nat) : RunState K :=
  { state with
    findings := state.findings.reached done total
    signal := state.signal.asked }

variable {site : Site K} {done : Nat}

theorem checkpoint_of_between (between : done % site.interval ≠ 0) (total : Nat)
    (state : RunState K) : site.checkpoint done total state = (true, state) := if_pos between

/-- A checkpoint at an item whose position is a multiple of the interval. -/
theorem checkpoint_of_multiple (multiple : done % site.interval = 0) (total : Nat)
    (state : RunState K) :
    site.checkpoint done total state =
      (!state.signal.isGiven && !state.findings.isFull, state.passed done total) := by
  unfold Site.checkpoint
  rw [if_neg (not_not_intro multiple), ← isFull_reached state.findings done total]
  unfold RunState.passed Findings.reached
  by_cases some : 0 < total
  · rw [if_pos some, if_pos some]
    rfl
  · rw [if_neg some, if_neg some]
    rfl

/-- A walk that goes on with an item, if the report is not full. -/
def walkUnlessFull (site : Site K) (inspect : Nat → Item K → Except RunError (Inspection K))
    (index : Nat) (item : Item K) (rest : List (Item K)) (examined : Nat) (state : RunState K) :
    RunState K × Except RunError Nat :=
  if state.findings.isFull = true then (state, .ok examined)
  else walkOn site inspect index item rest examined state

/-- **A walk at a checkpoint** asks for the signal. -/
theorem walk_of_multiple {index : Nat} (multiple : index % site.interval = 0)
    (inspect : Nat → Item K → Except RunError (Inspection K)) (item : Item K)
    (rest : List (Item K)) (examined : Nat) (state : RunState K) :
    walk site inspect index (item :: rest) examined state =
      if state.signal.isGiven = true then
        (state.passed index site.design.items.length, .ok examined)
      else
        walkUnlessFull site inspect index item rest examined
          (state.passed index site.design.items.length) := by
  have full : (state.passed index site.design.items.length).findings.isFull =
      state.findings.isFull := isFull_reached ..
  rw [walk_cons, checkpoint_of_multiple multiple, walkUnlessFull, full]
  cases state.signal.isGiven with
  | true => rfl
  | false => cases state.findings.isFull <;> rfl

theorem walk_of_between {index : Nat} (between : index % site.interval ≠ 0)
    (inspect : Nat → Item K → Except RunError (Inspection K)) (item : Item K)
    (rest : List (Item K)) (examined : Nat) (state : RunState K) :
    walk site inspect index (item :: rest) examined state =
      walkOn site inspect index item rest examined state := by
  rw [walk_cons, checkpoint_of_between between]
  rfl

/-- Whether a walk ended without an error, as one that was stopped does. -/
def Undisturbed (result _whole : Except RunError Nat) : Prop := ∃ examined, result = .ok examined

theorem prefix_walkUnlessFull (site : Site K)
    (inspect : Nat → Item K → Except RunError (Inspection K)) (index : Nat) (item : Item K)
    (rest : List (Item K)) (examined : Nat) (state : RunState K) :
    state.findings.violations <+:
      (walkUnlessFull site inspect index item rest examined state).1.findings.violations := by
  unfold walkUnlessFull walkOn
  split
  · exact List.prefix_rfl
  · cases inspect index item with
    | error error => exact List.prefix_rfl
    | ok found =>
      exact (prefix_recordAll state found.violations).trans (prefix_walk site inspect _ rest _ _)

theorem obeys_walkUnlessFull {inspect : Nat → Item K → Except RunError (Inspection K)}
    {index : Nat} {item : Item K} {rest : List (Item K)} {examined : Nat} {state : RunState K}
    (goesOn : Obeys Undisturbed (walkOn site inspect index item rest examined) state) :
    Obeys Undisturbed (walkUnlessFull site inspect index item rest examined) state := by
  by_cases full : state.findings.isFull = true
  · have stops : walkUnlessFull site inspect index item rest examined state =
        (state, .ok examined) := if_pos full
    refine .silent fun left => ?_
    rw [stops]
    exact if_pos full
  · exact goesOn.congr (if_neg full) fun left => if_neg full

/-- **A walk obeys signals.** -/
theorem obeys_walk (site : Site K) (inspect : Nat → Item K → Except RunError (Inspection K))
    (index : Nat) (items : List (Item K)) (examined : Nat) {state : RunState K}
    (never : state.signal = .never) :
    Obeys Undisturbed (walk site inspect index items examined) state := by
  induction items generalizing index examined state with
  | nil => exact .silent fun left => rfl
  | cons item rest ih =>
    have goesOn {state : RunState K} (never : state.signal = .never) :
        Obeys Undisturbed (walkOn site inspect index item rest examined) state := by
      unfold walkOn
      cases inspect index item with
      | error error => exact .silent fun left => rfl
      | ok found =>
        refine (ih _ _ ?_).before fun left => recordAll_heeding state found.violations left
        rw [signal_recordAll, never]
    by_cases multiple : index % site.interval = 0
    · -- one question, and then the item unless the report is full
      have passed : (state.passed index site.design.items.length).signal = .never := by
        show state.signal.asked = .never
        rw [never]
        rfl
      refine (obeys_walkUnlessFull (goesOn passed)).ask ?_ (fun left => ?_) ?_
      · rw [walk_of_multiple multiple, never]
        rfl
      · rw [walk_of_multiple multiple]
        rfl
      · rw [walk_of_multiple multiple]
        refine ⟨rfl, ?_, examined, rfl⟩
        exact prefix_walkUnlessFull site inspect index item rest examined
          (state.passed index site.design.items.length)
    · have same : walk site inspect index (item :: rest) examined =
          walkOn site inspect index item rest examined := by
        funext state
        exact walk_of_between multiple ..
      rw [same]
      exact goesOn never

/-! ### Courses -/

/-- Whether a check did not give up. -/
def GoesOn (error? _whole? : Option RunError) : Prop := error? = none

/-- The message at the end of a walk, if it had no error. -/
def closingOf (message : Nat → Option String) (result : Except RunError Nat) :
    RunState K → RunState K :=
  match result with
  | .error _ => id
  | .ok examined => closing (message examined)

/-- The error of a walk. -/
def faultOf : Except RunError Nat → Option RunError
  | .error error => some error
  | .ok _ => none

theorem walkRun_eq_closingOf (site : Site K)
    (inspect : Nat → Item K → Except RunError (Inspection K)) (message : Nat → Option String)
    (state : RunState K) :
    walkRun site inspect message state =
      (closingOf message (walk site inspect 0 site.design.items 0 state).2
          (walk site inspect 0 site.design.items 0 state).1,
        faultOf (walk site inspect 0 site.design.items 0 state).2) := by
  unfold walkRun
  cases walk site inspect 0 site.design.items 0 state with
  | mk after result => cases result <;> rfl

/-- **A course obeys signals.** -/
theorem Course.obeys_run (course : Course K) (site : Site K) {state : RunState K}
    (never : state.signal = .never) : Obeys GoesOn (course.run site) state := by
  cases course with
  | givesUp error => exact .silent fun left => rfl
  | closes message => exact .silent fun left => rfl
  | walks inspect message =>
    have unfolded : (Course.walks inspect message).run site = fun state =>
        (closingOf message (walk site inspect 0 site.design.items 0 state).2
            (walk site inspect 0 site.design.items 0 state).1,
          faultOf (walk site inspect 0 site.design.items 0 state).2) := by
      funext state
      exact walkRun_eq_closingOf site inspect message state
    rw [unfolded]
    refine (obeys_walk site inspect 0 site.design.items 0 never).after (closingOf message) faultOf
      (fun result last left => ?_) (fun result last => ?_) (fun result last => ?_) ?_
    · cases result with
      | error error => rfl
      | ok examined =>
        show closing (message examined) (last.heeding left) =
          (closing (message examined) last).heeding left
        cases message examined <;> rfl
    · cases result with
      | error error => rfl
      | ok examined => exact signal_closing (message examined) last
    · cases result with
      | error error => rfl
      | ok examined =>
        show (closing (message examined) last).findings.violations = last.findings.violations
        cases message examined <;> rfl
    · rintro result whole ⟨examined, rfl⟩
      rfl

/-! ### Items that are not looked at -/

/-- Whether two courses do the same at all items before a position. -/
inductive Course.AgreeBelow (position : Nat) : Course K → Course K → Prop where
  | same {course : Course K} : AgreeBelow position course course
  | walks {inspect inspect' : Nat → Item K → Except RunError (Inspection K)}
      {message : Nat → Option String} :
      (∀ index < position, ∀ item, inspect index item = inspect' index item) →
        AgreeBelow position (.walks inspect message) (.walks inspect' message)

/-- **A walk does not look at an item from where it is stopped on.** The next checkpoint lies at
`next`; each later one is an interval further, and the walk is stopped at the first one where no
question is left. -/
theorem walk_congr_of_left {inspect inspect' : Nat → Item K → Except RunError (Inspection K)}
    {index next left : Nat} (multiple : site.interval ∣ next) (ahead : index ≤ next)
    (near : next < index + site.interval)
    (agree : ∀ position < next + left * site.interval, ∀ item,
      inspect position item = inspect' position item)
    (items : List (Item K)) (examined : Nat) {state : RunState K}
    (heeds : state.signal = .after left) :
    walk site inspect index items examined state =
      walk site inspect' index items examined state := by
  induction items generalizing index next left examined state with
  | nil => rfl
  | cons item rest ih =>
    have positive : 0 < site.interval := Nat.le_max_right ..
    -- what a walk does with this item and the later ones
    have goesOn {next left : Nat} {state : RunState K} (multiple : site.interval ∣ next)
        (ahead : index + 1 ≤ next) (near : next < index + 1 + site.interval)
        (agree : ∀ position < next + left * site.interval, ∀ item,
          inspect position item = inspect' position item)
        (heeds : state.signal = .after left) :
        walkOn site inspect index item rest examined state =
          walkOn site inspect' index item rest examined state := by
      unfold walkOn
      rw [agree index (by omega) item]
      cases inspect' index item with
      | error error => rfl
      | ok found =>
        refine ih multiple ahead near agree _ ?_
        rw [signal_recordAll, heeds]
    by_cases here : index % site.interval = 0
    · -- the next checkpoint is here, since there is only one within an interval
      obtain rfl : next = index := by
        have apart : site.interval ∣ next - index :=
          Nat.dvd_sub multiple (Nat.dvd_of_mod_eq_zero here)
        have none := Nat.eq_zero_of_dvd_of_lt apart (by omega)
        omega
      rw [walk_of_multiple here, walk_of_multiple here]
      cases left with
      | zero =>
        have given : state.signal.isGiven = true := by
          rw [heeds]
          rfl
        rw [if_pos given, if_pos given]
      | succ left =>
        have passed : (state.passed next site.design.items.length).signal = .after left := by
          show state.signal.asked = .after left
          rw [heeds]
          rfl
        have further : next + (left + 1) * site.interval =
            next + site.interval + left * site.interval := by
          rw [Nat.succ_mul]
          omega
        rw [further] at agree
        have same := goesOn (Nat.dvd_add multiple (Nat.dvd_refl _)) (by omega) (by omega) agree
          passed
        unfold walkUnlessFull
        rw [same]
    · rw [walk_of_between here, walk_of_between here]
      have later : index ≠ next := by
        rintro rfl
        exact here (Nat.mod_eq_zero_of_dvd multiple)
      exact goesOn multiple (by omega) (by omega) agree heeds

/-- **A course does not look at an item from the first checkpoint on that it reaches with the signal
given.** -/
theorem Course.run_eq_of_agreeBelow {course other : Course K} {left : Nat}
    (agree : course.AgreeBelow (left * site.interval) other) {state : RunState K}
    (heeds : state.signal = .after left) : course.run site state = other.run site state := by
  cases agree with
  | same => rfl
  | walks below =>
    have near : 0 < 0 + site.interval := by
      rw [Nat.zero_add]
      exact Nat.le_max_right ..
    rw [← Nat.zero_add (left * site.interval)] at below
    have same := walk_congr_of_left (Nat.dvd_zero _) (Nat.le_refl 0) near below
      site.design.items 0 heeds
    simp only [Course.run, walkRun_eq_closingOf, same]

end DesignRules

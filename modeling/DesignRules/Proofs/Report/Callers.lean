/-
**Several callers that share what a run has found.**

Callers report violations, leave messages and ask whether the report is full, each in an order of
its own. The findings are locked while a call is served, so the calls come one at a time, in any
order. Whatever the order is, the report takes the first violations that the limit admits, and what
every caller is told depends only on how many violations were offered before its call.

* `Call`, `Reply`, `Answered`: a call, what the caller is told, and both on record.
* `offered`, `Call.due`: the violations that count, and the reply that a call has to get.
* `Crowd`, `Crowd.Step`: callers with their calls, and the next call of one of them.
* `Performs`: what one call does to the findings.
* `Keeps`, `Keeps.of_performs`, `keeps_run`: the findings after a number of calls; one call keeps
  them so, and so does every run.
* `first_violations_are_kept`: all of it for the callers.
-/

import DesignRules.Decimal.Scalar
import DesignRules.Proofs.Check.Whole
import Mathlib.Logic.Relation

namespace DesignRules.Findings

variable {K : Type}

/-! ### Calls -/

/-- What callers can do with the findings of a run. -/
inductive Call (K : Type) where
  | report (violation : Violation K)
  | leave (message : String)
  | askFull

/-- What a caller is told: whether its violation is recorded, nothing, or whether the report is
full. -/
inductive Reply where
  | recorded (answer : Bool)
  | none
  | full (answer : Bool)
  deriving DecidableEq

/-- The findings after a call, and the reply. -/
def perform (findings : Findings K) : Call K → Findings K × Reply
  | .report violation =>
    let (after, recorded) := findings.record violation
    (after, .recorded recorded)
  | .leave message => (findings.note message, .none)
  | .askFull => (findings, .full findings.isFull)

/-- The violation that a call reports. -/
def Call.violation? : Call K → Option (Violation K)
  | .report violation => some violation
  | _ => .none

/-- A call with the number of its caller and the reply to it. -/
structure Answered (K : Type) where
  caller : Nat
  call : Call K
  reply : Reply

theorem filterMap_singleton {α β : Type} (f : α → Option β) (element : α) :
    [element].filterMap f = (f element).toList := by
  rw [List.filterMap_cons]
  cases f element <;> rfl

namespace Answered

/-- The violation of a call that was told that it is recorded. -/
def recorded? (answered : Answered K) : Option (Violation K) :=
  if answered.reply = .recorded true then answered.call.violation? else none

/-- The message that a call leaves. -/
def message? (answered : Answered K) : Option String :=
  match answered.call with
  | .leave message => some message
  | _ => none

/-- What the watcher is told about a call: a violation that is recorded, or a message. -/
def event? (answered : Answered K) : Option (Event K) :=
  (answered.recorded?.map Event.violation).or (answered.message?.map Event.note)

end Answered

/-- The violations that some calls report and that are not ignored, in the order of the calls. -/
def offered (log : List (Answered K)) : List (Violation K) :=
  counted (log.filterMap fun answered => answered.call.violation?)

theorem offered_concat (log : List (Answered K)) (answered : Answered K) :
    offered (log ++ [answered]) = offered log ++ counted answered.call.violation?.toList := by
  rw [offered, List.filterMap_append, counted_append, filterMap_singleton]
  rfl

/-- Whether a limit is reached by a number of violations. -/
def isReached (limit : Option Nat) (count : Nat) : Bool := limit.any fun most => most ≤ count

namespace Call

/-- The reply that a call has to get from a report that is full or not. -/
def due (full : Bool) : Call K → Reply
  | .report violation => .recorded (violation.severity ≠ .ignore && !full)
  | .leave _ => .none
  | .askFull => .full full

/-- Whether a call reports a violation that is dropped by a report that is full or not. -/
def isDropped (full : Bool) : Call K → Bool
  | .report violation => violation.severity ≠ .ignore && full
  | _ => false

theorem isDropped_iff {full : Bool} {call : Call K} :
    call.isDropped full = true ↔
      ∃ violation, call = .report violation ∧ violation.severity ≠ .ignore ∧ full = true := by
  cases call with
  | report violation => simp [isDropped]
  | leave message => simp [isDropped]
  | askFull => simp [isDropped]

end Call

/-! ### Elements with what stands before them -/

section Before

variable {α : Type}

/-- Whether every element of a list has a property together with what stands before it. -/
def EachAfter (property : List α → α → Prop) (list : List α) : Prop :=
  ∀ front element back, list = front ++ element :: back → property front element

theorem eachAfter_nil (property : List α → α → Prop) : EachAfter property [] := by
  intro front element back split
  cases front <;> cases split

theorem eachAfter_concat {property : List α → α → Prop} {list : List α} {last : α} :
    EachAfter property (list ++ [last]) ↔ EachAfter property list ∧ property list last := by
  constructor
  · intro each
    refine ⟨fun front element back split => ?_, each list last [] rfl⟩
    refine each front element (back ++ [last]) ?_
    rw [split, List.append_assoc, List.cons_append]
  · rintro ⟨each, ends⟩ front element back split
    rcases List.eq_nil_or_concat back with rfl | ⟨inner, other, rfl⟩
    · obtain ⟨rfl, same⟩ := List.append_inj' split rfl
      obtain ⟨rfl, -⟩ := List.cons.inj same
      exact ends
    · rw [List.concat_eq_append, ← List.cons_append, ← List.append_assoc] at split
      obtain ⟨same, -⟩ := List.append_inj' split rfl
      exact each front element inner same

end Before

/-! ### What a limit admits -/

section Limit

variable {α : Type} {limit : Option Nat} {elements : List α}

/-- What a limit admits reaches it just if there is enough. -/
theorem isReached_length_admitted :
    isReached limit (admitted limit elements).length = isReached limit elements.length := by
  cases limit with
  | none => rfl
  | some most =>
    show decide (most ≤ (elements.take most).length) = decide (most ≤ elements.length)
    rw [List.length_take, decide_eq_decide]
    omega

theorem admitted_concat_of_isReached (reached : isReached limit elements.length = true)
    (element : α) : admitted limit (elements ++ [element]) = admitted limit elements := by
  cases limit with
  | none => cases reached
  | some most => exact List.take_append_of_le_length (of_decide_eq_true reached)

theorem admitted_concat_of_not_isReached (room : isReached limit elements.length = false)
    (element : α) :
    admitted limit (elements ++ [element]) = admitted limit elements ++ [element] := by
  cases limit with
  | none => rfl
  | some most =>
    have below : elements.length < most := Nat.lt_of_not_le (of_decide_eq_false room)
    show (elements ++ [element]).take most = elements.take most ++ [element]
    rw [List.take_of_length_le (Nat.le_of_lt below), List.take_of_length_le]
    rw [List.length_append, List.length_singleton]
    exact below

end Limit

/-! ### One call -/

/-- **What one call does** to the findings. -/
structure Performs (findings : Findings K) (answered : Answered K) (after : Findings K) : Prop where
  limit : after.limit = findings.limit
  violations : after.violations = findings.violations ++ answered.recorded?.toList
  events : after.events = findings.events ++ answered.event?.toList
  notes : after.notes = findings.notes ++ answered.message?.toList
  truncated : after.truncated = (findings.truncated || answered.call.isDropped findings.isFull)
  reply : answered.reply = answered.call.due findings.isFull

theorem performs (findings : Findings K) (caller : Nat) (call : Call K) :
    Performs findings ⟨caller, call, (perform findings call).2⟩ (perform findings call).1 := by
  cases call with
  | leave message => exact ⟨rfl, (List.append_nil _).symm, rfl, rfl, (Bool.or_false _).symm, rfl⟩
  | askFull =>
    have unchanged {α : Type} (list : List α) : list = list ++ [] := (List.append_nil list).symm
    exact ⟨rfl, unchanged _, unchanged _, unchanged _, (Bool.or_false _).symm, rfl⟩
  | report violation =>
    by_cases ignored : violation.severity = .ignore
    · have same : findings.record violation = (findings, false) := if_pos ignored
      constructor <;> simp [perform, same, Answered.recorded?, Answered.event?, Answered.message?,
        Call.isDropped, Call.due, ignored]
    cases full : findings.isFull with
    | true =>
      have dropped : findings.record violation = ({ findings with truncated := true }, false) := by
        rw [Findings.record, if_neg ignored, if_pos full]
      constructor <;> simp [perform, dropped, Answered.recorded?, Answered.event?,
        Answered.message?, Call.isDropped, Call.due, ignored, full]
    | false =>
      have taken : findings.record violation =
          ({ findings with violations := findings.violations ++ [violation] }.tell
            (.violation violation), true) := by
        rw [Findings.record, if_neg ignored, if_neg (full ▸ Bool.false_ne_true)]
      constructor <;> simp [perform, taken, tell, Answered.recorded?, Answered.event?,
        Answered.message?, Call.violation?, Call.isDropped, Call.due, ignored, full]

/-! ### Any number of calls -/

/-- **Findings after a number of calls**, in terms of what was called and replied. -/
structure Keeps (limit : Option Nat) (log : List (Answered K)) (findings : Findings K) :
    Prop where
  limited : findings.limit = limit
  /-- The first violations are recorded that are not ignored. -/
  violations : findings.violations = admitted limit (offered log)
  /-- They are those whose callers were told so. -/
  recorded : findings.violations = log.filterMap Answered.recorded?
  /-- The watcher was told of them and of the messages. -/
  events : findings.events = log.filterMap Answered.event?
  notes : findings.notes = log.filterMap Answered.message?
  /-- Nothing was dropped unless a violation came to a full report. -/
  complete : findings.truncated = false ↔ EachAfter (fun before answered =>
    answered.call.isDropped (isReached limit (offered before).length) = false) log
  replies : EachAfter (fun before answered =>
    answered.reply = answered.call.due (isReached limit (offered before).length)) log

theorem keeps_start (limit : Option Nat) : Keeps limit [] ({ limit } : Findings K) where
  limited := rfl
  violations := (admitted_nil limit).symm
  recorded := rfl
  events := rfl
  notes := rfl
  complete := ⟨fun _ => eachAfter_nil _, fun _ => rfl⟩
  replies := eachAfter_nil _

section Call

variable {limit : Option Nat} {log : List (Answered K)} {findings : Findings K}

/-- The report is full where enough was offered. -/
theorem Keeps.isFull_eq (keeps : Keeps limit log findings) :
    findings.isFull = isReached limit (offered log).length := by
  rw [← isReached_length_admitted, ← keeps.violations, ← keeps.limited]
  rfl

/-- A violation is admitted just if its caller is told that it is recorded. -/
theorem admitted_offered_concat {answered : Answered K}
    (reply : answered.reply = answered.call.due (isReached limit (offered log).length)) :
    admitted limit (offered (log ++ [answered])) =
      admitted limit (offered log) ++ answered.recorded?.toList := by
  obtain ⟨caller, call, reply'⟩ := answered
  obtain rfl : reply' = call.due (isReached limit (offered log).length) := reply
  rw [offered_concat]
  cases call with
  | leave message => simp [Call.violation?, counted, Answered.recorded?, Call.due]
  | askFull => simp [Call.violation?, counted, Answered.recorded?, Call.due]
  | report violation =>
    by_cases ignored : violation.severity = .ignore
    · simp [Call.violation?, counted, Answered.recorded?, Call.due, ignored]
    have counts : counted (Call.report violation).violation?.toList = [violation] := by
      simp [Call.violation?, counted, ignored]
    rw [counts]
    cases full : isReached limit (offered log).length with
    | true =>
      rw [admitted_concat_of_isReached full]
      simp [Answered.recorded?, Call.due]
    | false =>
      rw [admitted_concat_of_not_isReached full]
      simp [Answered.recorded?, Call.violation?, Call.due, ignored]

/-- **One call** keeps the findings so. -/
theorem Keeps.of_performs (keeps : Keeps limit log findings) {answered : Answered K}
    {after : Findings K} (performs : Performs findings answered after) :
    Keeps limit (log ++ [answered]) after := by
  have full := keeps.isFull_eq
  have reply := performs.reply
  rw [full] at reply
  constructor
  case limited => exact performs.limit.trans keeps.limited
  case violations =>
    rw [performs.violations, keeps.violations, admitted_offered_concat reply]
  case recorded =>
    rw [performs.violations, keeps.recorded, List.filterMap_append, filterMap_singleton]
  case events =>
    rw [performs.events, keeps.events, List.filterMap_append, filterMap_singleton]
  case notes =>
    rw [performs.notes, keeps.notes, List.filterMap_append, filterMap_singleton]
  case complete =>
    rw [performs.truncated, full, Bool.or_eq_false_iff, keeps.complete, eachAfter_concat]
  case replies => exact eachAfter_concat.mpr ⟨keeps.replies, reply⟩

end Call

/-! ### Callers -/

/-- The findings of a run, the calls that each caller has yet to make, and those that were made. -/
structure Crowd (K : Type) where
  findings : Findings K
  waiting : List (List (Call K))
  log : List (Answered K) := []

namespace Crowd

/-- Callers before the first call. -/
def start (limit : Option Nat) (callers : List (List (Call K))) : Crowd K :=
  { findings := { limit }, waiting := callers }

/-- Performs a call of a caller, which has other calls left. -/
def serve (crowd : Crowd K) (caller : Nat) (call : Call K) (rest : List (Call K)) : Crowd K :=
  let (after, reply) := perform crowd.findings call
  { findings := after
    waiting := crowd.waiting.set caller rest
    log := crowd.log ++ [⟨caller, call, reply⟩] }

/-- Any of the callers makes its next call. -/
inductive Step : Crowd K → Crowd K → Prop
  | serve {crowd : Crowd K} {caller : Nat} {call : Call K} {rest : List (Call K)}
      (next : crowd.waiting[caller]? = some (call :: rest)) :
      Step crowd (crowd.serve caller call rest)

/-- Some of the callers' calls, one at a time. -/
def Runs : Crowd K → Crowd K → Prop := Relation.ReflTransGen Step

/-- The turn of a caller, which makes its next call if it has one. -/
def turn (crowd : Crowd K) (caller : Nat) : Crowd K :=
  match crowd.waiting[caller]? with
  | some (call :: rest) => crowd.serve caller call rest
  | _ => crowd

/-- The callers can take turns in any order. -/
theorem runs_turns (crowd : Crowd K) (order : List Nat) : crowd.Runs (order.foldl turn crowd) := by
  induction order generalizing crowd with
  | nil => exact .refl
  | cons caller order ih =>
    have first : crowd.Runs (crowd.turn caller) := by
      rw [turn]
      split
      case h_1 call rest next => exact .single (.serve next)
      case h_2 => exact .refl
    exact first.trans (ih (crowd.turn caller))

end Crowd

/-- The calls that a caller has made. -/
def madeBy (caller : Nat) (log : List (Answered K)) : List (Call K) :=
  log.filterMap fun answered => if answered.caller = caller then some answered.call else none

theorem madeBy_concat (caller : Nat) (log : List (Answered K)) (answered : Answered K) :
    madeBy caller (log ++ [answered]) = madeBy caller log ++
      (if answered.caller = caller then some answered.call else none).toList := by
  rw [madeBy, List.filterMap_append, filterMap_singleton]
  rfl

section Run

variable {limit : Option Nat} {callers : List (List (Call K))} {crowd after : Crowd K}

theorem keeps_step (step : Crowd.Step crowd after) (keeps : Keeps limit crowd.log crowd.findings) :
    Keeps limit after.log after.findings := by
  obtain ⟨next⟩ := step
  exact keeps.of_performs (performs crowd.findings _ _)

theorem keeps_run (run : (Crowd.start limit callers).Runs crowd) :
    Keeps limit crowd.log crowd.findings := by
  induction run with
  | refl => exact keeps_start limit
  | tail _ step ih => exact keeps_step step ih

/-- A caller's next call moves from those that wait to those that were made. -/
theorem calls_step (step : Crowd.Step crowd after) (caller : Nat) :
    madeBy caller after.log ++ after.waiting.getD caller [] =
      madeBy caller crowd.log ++ crowd.waiting.getD caller [] := by
  obtain @⟨other, call, rest, next⟩ := step
  show madeBy caller (crowd.log ++ [_]) ++ (crowd.waiting.set other rest).getD caller [] = _
  rw [madeBy_concat, List.getD_eq_getElem?_getD, List.getD_eq_getElem?_getD, List.getElem?_set]
  by_cases same : other = caller
  · subst same
    have present : other < crowd.waiting.length := (List.getElem?_eq_some_iff.mp next).1
    rw [if_pos rfl, if_pos rfl, if_pos present, next]
    simp
  · rw [if_neg same, if_neg same]
    simp

/-- **Every caller** makes its calls in their order. -/
theorem calls_run (run : (Crowd.start limit callers).Runs crowd) (caller : Nat) :
    madeBy caller crowd.log ++ crowd.waiting.getD caller [] = callers.getD caller [] := by
  induction run with
  | refl => rfl
  | tail _ step ih => exact (calls_step step caller).trans ih

/-- The report is full when it has just as many violations as the limit says. -/
theorem Keeps.isFull_iff {log : List (Answered K)} {findings : Findings K}
    (keeps : Keeps limit log findings) :
    findings.isFull = true ↔ limit = some findings.violations.length := by
  have full : findings.isFull = isReached limit findings.violations.length := by
    rw [← keeps.limited]
    rfl
  rw [full, keeps.violations]
  cases limit with
  | none => exact ⟨nofun, nofun⟩
  | some most =>
    have most_le : (admitted (some most) (offered log)).length ≤ most := by
      exact List.length_take_le most (offered log)
    rw [isReached, Option.any_some, decide_eq_true_eq, Option.some.injEq]
    omega

/-- **The first violations that the limit admits are kept**, whatever the order is in which several
callers' calls come: those that are not ignored are recorded in the order of their calls until the
limit is reached. The callers of just these are told so, and the watcher is told of them. The report
says that it is truncated just if a violation came that is not ignored when as many as the limit had
come before it. Messages are all kept. -/
theorem first_violations_are_kept (limit : Option Nat) (callers : List (List (Call K)))
    {crowd : Crowd K} (run : (Crowd.start limit callers).Runs crowd) :
    (∀ caller, madeBy caller crowd.log ++ crowd.waiting.getD caller [] = callers.getD caller []) ∧
      crowd.findings.violations = admitted limit (offered crowd.log) ∧
      crowd.findings.violations = crowd.log.filterMap Answered.recorded? ∧
      crowd.findings.events = crowd.log.filterMap Answered.event? ∧
      crowd.findings.notes = crowd.log.filterMap Answered.message? ∧
      (crowd.findings.truncated = true ↔
        ∃ before caller violation reply after,
          crowd.log = before ++ ⟨caller, .report violation, reply⟩ :: after ∧
            violation.severity ≠ .ignore ∧ isReached limit (offered before).length = true) ∧
      (crowd.findings.isFull = true ↔ limit = some crowd.findings.violations.length) ∧
      ∀ before answered after, crowd.log = before ++ answered :: after →
        answered.reply = answered.call.due (isReached limit (offered before).length) := by
  have keeps := keeps_run run
  refine ⟨calls_run run, keeps.violations, keeps.recorded, keeps.events, keeps.notes, ?_,
    keeps.isFull_iff, keeps.replies⟩
  rw [← not_iff_not, Bool.not_eq_true, keeps.complete]
  constructor
  · rintro each ⟨before, caller, violation, reply, after, split, counts, full⟩
    have dropped : (Call.report violation).isDropped (isReached limit (offered before).length) :=
      Call.isDropped_iff.mpr ⟨violation, rfl, counts, full⟩
    exact Bool.false_ne_true ((each _ _ _ split).symm.trans dropped)
  · intro absent before answered after split
    refine eq_false_of_ne_true fun dropped => absent ?_
    obtain ⟨caller, call, reply⟩ := answered
    obtain ⟨violation, rfl, counts, full⟩ := Call.isDropped_iff.mp dropped
    exact ⟨before, caller, violation, reply, after, split, counts, full⟩

end Run

/-- A violation of a clearance with a severity and a message. -/
def tooClose (severity : Severity) (message : String) : Violation Float :=
  { id := Identity.numbered 1, check := "clearance", kind := .clearance, severity
    ruleName := "gap", message, layer := none, box := Violation.nowhere, items := [] }

/-- Two callers with three calls each. -/
def twoCallers : List (List (Call Float)) :=
  [[.report (tooClose .error "first"), .askFull, .report (tooClose .info "never made")],
    [.report (tooClose .ignore "ignored"), .leave "half done",
      .report (tooClose .warning "dropped")]]

/-- The callers' first five calls, in turns. -/
def fiveTurns : Crowd Float :=
  [1, 0, 1, 0, 1].foldl Crowd.turn (Crowd.start (some 1) twoCallers)

/-- With a limit of one, the first violation is kept and the one that comes after it is dropped. -/
theorem first_violations_are_kept_of_two_callers :
    fiveTurns.log.map Answered.reply =
        [.recorded false, .recorded true, .none, .full true, .recorded false] ∧
      fiveTurns.findings.violations = [tooClose .error "first"] ∧
      fiveTurns.findings.truncated = true ∧ fiveTurns.findings.isFull = true ∧
      fiveTurns.findings.notes = ["half done"] ∧
      madeBy 0 fiveTurns.log ++ [.report (tooClose .info "never made")] =
        twoCallers.getD 0 [] := by
  obtain ⟨calls, first, -, -, messages, dropped, full, -⟩ :=
    first_violations_are_kept (some 1) twoCallers (Crowd.runs_turns _ [1, 0, 1, 0, 1])
  have kept : fiveTurns.findings.violations = [tooClose .error "first"] := first.trans rfl
  refine ⟨rfl, kept, dropped.mpr ?_, full.mpr ?_, messages.trans rfl, calls 0⟩
  · exact ⟨fiveTurns.log.dropLast, 1, tooClose .warning "dropped", .recorded false, [], rfl,
      nofun, rfl⟩
  · exact congrArg (some ·.length) kept.symm

end DesignRules.Findings

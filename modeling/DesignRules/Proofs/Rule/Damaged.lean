/-
**Damaged rules never apply, and nothing of them is lost.**

A rule is damaged by a missing name, by a clause that no rule can have, or by a first condition that
cannot be used. Where the damage stands among the clauses makes no difference.

* `Malformed`: the forms of damaged rules.
* `Reads`, `reads_foldl`: what the clauses of a rule leave together.
* `constraints_ofForm`, `condition_of_malformed`, `condition_of_not_malformed`,
  `warned_of_malformed`: what the rule of a form is.
* `ofForms_append`: the rules of a document one part after the other.
* `malformed_rule_fails_closed`: the rule of a form in a document.
-/

import DesignRules.Decimal.Scalar
import DesignRules.Proofs.Catalog.FirstMatch
import DesignRules.Proofs.Rule.Clauses
import Mathlib.Data.List.Induction

namespace DesignRules

open RuleText (Form Forms)
open Condition (Code Context SlotTable)

/-- No object meets the condition of a damaged rule. -/
theorem Condition.holds_never (source : String) (context : Context Float) :
    (Code.never source : Code Float).holds context = false := rfl

/-- What a search finds belongs to no rule whose condition never holds. -/
theorem Catalog.rule_ne_of_resolve {catalog : Catalog Float} {kind : ConstraintKind}
    {context : Context Float} {entry : Entry Float}
    (found : catalog.resolve kind context = .ok (some entry)) {rule : Rule Float} {source : String}
    (never : rule.condition = some (.never source)) : entry.rule ≠ rule := by
  rintro rfl
  obtain ⟨entries, -, first⟩ := map_eq_ok_iff.mp found
  have applies := List.find?_some (p := fun entry => Entry.applies entry context) first
  have holds := (applies_iff.mp applies).2 _ never
  rw [Condition.holds_never] at holds
  cases holds

/-! ### All clauses of a rule -/

namespace RuleDraft

open Rule

variable {K : Type} [Scalar K]

/-- What some clauses leave on a draft that had no condition before them. -/
structure Reads (slots : SlotTable) (start : RuleDraft K) (clauses : List Form)
    (draft : RuleDraft K) : Prop where
  name : draft.rule.name = start.rule.name
  priority : draft.rule.priority = start.rule.priority
  constraints : draft.rule.constraints = start.rule.constraints ++
    clauses.filterMap (constraintOf? start.rule.name start.rule.priority)
  hasCondition : draft.hasCondition = (clauses.find? Form.isCondition).isSome
  broken : draft.isBroken = true ↔ start.isBroken = true ∨ (∃ clause ∈ clauses, Foreign clause) ∨
    ∃ clause, clauses.find? Form.isCondition = some clause ∧ Unusable K slots clause
  condition : draft.isBroken = false →
    draft.rule.condition = (clauses.find? Form.isCondition).bind (conditionOf slots)
  warned : draft.Warned

variable {slots : SlotTable} {start : RuleDraft K}

/-- One more clause. -/
theorem Reads.snoc {clauses : List Form} {clause : Form} {before after : RuleDraft K}
    (reads : Reads slots start clauses before) (adds : Adds slots clause before after) :
    Reads slots start (clauses ++ [clause]) after where
  name := adds.name.trans reads.name
  priority := adds.priority.trans reads.priority
  constraints := by
    rw [adds.constraints, reads.constraints, reads.name, reads.priority, List.filterMap_append,
      List.append_assoc, List.filterMap_cons]
    cases (constraintOf? start.rule.name start.rule.priority clause : Option (Constraint K)) <;> rfl
  hasCondition := by
    rw [adds.hasCondition, reads.hasCondition, List.find?_append, Option.isSome_or,
      List.find?_singleton]
    cases clause.isCondition <;> rfl
  broken := by
    rw [adds.broken, reads.broken, reads.hasCondition, List.find?_append, List.find?_singleton]
    cases clauses.find? Form.isCondition with
    | none => cases clause.isCondition <;> simp [or_and_right, exists_or, or_assoc]
    | some first => simp [or_and_right, exists_or, or_comm, or_left_comm]
  condition := by
    intro whole
    have wasWhole : before.isBroken = false := by
      by_contra broken
      have still := adds.broken.mpr (.inl (eq_true_of_ne_false broken))
      rw [whole] at still
      cases still
    rw [adds.condition whole, reads.condition wasWhole, reads.hasCondition, List.find?_append,
      List.find?_singleton]
    cases clauses.find? Form.isCondition with
    | none => cases clause.isCondition <;> simp
    | some first => simp
  warned := adds.warned reads.warned

/-- **What the clauses of a rule leave together.** -/
theorem reads_foldl (clauses : List Form) (fresh : start.hasCondition = false)
    (unset : start.rule.condition = none) (warned : start.Warned) :
    Reads slots start clauses (clauses.foldl (add slots) start) := by
  induction clauses using List.reverseRecOn with
  | nil => exact ⟨rfl, rfl, (List.append_nil _).symm, fresh, by simp, fun _ => unset, warned⟩
  | append_singleton clauses clause ih =>
    rw [List.foldl_append]
    exact ih.snoc (adds_add slots clause _)

/-! ### The end of a rule -/

/-- A damaged draft with the condition that never holds. -/
def sealed (draft : RuleDraft K) : RuleDraft K :=
  if draft.isBroken then
    let source := (draft.rule.condition.map Code.source).getD ""
    { draft with rule := { draft.rule with condition := some (.never source) } }
  else draft

theorem finish_eq (draft : RuleDraft K) :
    draft.finish =
      if draft.sealed.rule.constraints.isEmpty then
        draft.sealed.report draft.sealed.rule.line .noConstraints
      else draft.sealed := rfl

theorem rule_finish (draft : RuleDraft K) : draft.finish.rule = draft.sealed.rule := by
  rw [finish_eq]
  split <;> rfl

/-- The end of a rule leaves all but its condition. -/
theorem finish_frame (draft : RuleDraft K) :
    draft.finish.rule.name = draft.rule.name ∧ draft.finish.rule.priority = draft.rule.priority ∧
      draft.finish.rule.constraints = draft.rule.constraints := by
  rw [rule_finish]
  unfold sealed
  split <;> exact ⟨rfl, rfl, rfl⟩

theorem condition_finish_of_broken {draft : RuleDraft K} (broken : draft.isBroken = true) :
    ∃ source, draft.finish.rule.condition = some (Code.never source) := by
  rw [rule_finish, sealed, if_pos broken]
  exact ⟨_, rfl⟩

theorem condition_finish_of_whole {draft : RuleDraft K} (whole : draft.isBroken = false) :
    draft.finish.rule.condition = draft.rule.condition := by
  rw [rule_finish, sealed, if_neg (ne_true_of_eq_false whole)]

theorem diagnostics_sealed (draft : RuleDraft K) :
    draft.sealed.diagnostics = draft.diagnostics := by
  unfold sealed
  split <;> rfl

/-- What was reported stays reported. -/
theorem mem_diagnostics_finish {draft : RuleDraft K} {diagnostic : Diagnostic}
    (reported : diagnostic ∈ draft.diagnostics) : diagnostic ∈ draft.finish.diagnostics := by
  rw [← diagnostics_sealed] at reported
  rw [finish_eq]
  split
  · exact List.mem_append_left _ reported
  · exact reported

end RuleDraft

/-! ### The rule of a form -/

namespace Rule

open RuleDraft

variable {K : Type} [Scalar K]

variable (K) in
/-- Whether a form gives a damaged rule: it has no name, a clause that no rule can have, or a first
condition that cannot be used. -/
inductive Malformed (slots : SlotTable) (form : Form) : Prop where
  | unnamed : form.argument? = none → Malformed slots form
  | clause {clause : Form} : clause ∈ form.clauses → Foreign clause → Malformed slots form
  | condition {clause : Form} : form.condition? = some clause → Unusable K slots clause →
      Malformed slots form

omit [Scalar K] in
/-- The draft of a rule before its clauses. -/
def opening (priority : Nat) (form : Form) : RuleDraft K :=
  let start : RuleDraft K :=
    { rule :=
        { name := form.argument?.getD (placeholderName priority), priority, line := form.line } }
  if form.argument?.isNone then start.damage form.line .noName else start

/-- The draft of a rule after its clauses. -/
def drafted (slots : SlotTable) (priority : Nat) (form : Form) : RuleDraft K :=
  form.clauses.foldl (RuleDraft.add slots) (opening priority form)

theorem ofForm_eq (slots : SlotTable) (priority : Nat) (form : Form) :
    (ofForm slots priority form : Rule K × List Diagnostic) =
      ((drafted slots priority form : RuleDraft K).finish.rule,
        (drafted slots priority form : RuleDraft K).finish.diagnostics) := rfl

variable (slots : SlotTable) (priority : Nat) (form : Form)

theorem reads_drafted :
    Reads slots (opening priority form : RuleDraft K) form.clauses
      (drafted slots priority form) := by
  refine reads_foldl _ ?_ ?_ ?_ <;> unfold opening <;> split
  · rfl
  · rfl
  · rfl
  · rfl
  · exact warned_damage _ _ _
  · exact nofun

omit [Scalar K] in
theorem opening_frame :
    (opening priority form : RuleDraft K).rule.name =
        form.argument?.getD (placeholderName priority) ∧
      (opening priority form : RuleDraft K).rule.priority = priority ∧
      (opening priority form : RuleDraft K).rule.constraints = [] := by
  unfold opening
  split <;> exact ⟨rfl, rfl, rfl⟩

omit [Scalar K] in
theorem broken_opening :
    (opening priority form : RuleDraft K).isBroken = true ↔ form.argument? = none := by
  unfold opening
  cases form.argument? <;> simp [RuleDraft.damage]

/-- The damaged rules are those with a malformed form. -/
theorem broken_drafted :
    (drafted slots priority form : RuleDraft K).isBroken = true ↔ Malformed K slots form := by
  rw [(reads_drafted slots priority form).broken, broken_opening]
  constructor
  · rintro (unnamed | ⟨clause, member, foreign⟩ | ⟨clause, first, unusable⟩)
    · exact .unnamed unnamed
    · exact .clause member foreign
    · exact .condition first unusable
  · rintro (unnamed | ⟨member, foreign⟩ | ⟨first, unusable⟩)
    · exact .inl unnamed
    · exact .inr (.inl ⟨_, member, foreign⟩)
    · exact .inr (.inr ⟨_, first, unusable⟩)

theorem name_ofForm :
    (ofForm slots priority form : Rule K × List Diagnostic).1.name =
      form.argument?.getD (placeholderName priority) := by
  rw [ofForm_eq, (finish_frame _).1, (reads_drafted slots priority form).name]
  exact (opening_frame priority form).1

theorem priority_ofForm :
    (ofForm slots priority form : Rule K × List Diagnostic).1.priority = priority := by
  rw [ofForm_eq, (finish_frame _).2.1, (reads_drafted slots priority form).priority]
  exact (opening_frame priority form).2.1

/-- A rule keeps the well-formed constraints of its clauses, damaged or not. -/
theorem constraints_ofForm :
    (ofForm slots priority form : Rule K × List Diagnostic).1.constraints =
      form.clauses.filterMap
        (constraintOf? (form.argument?.getD (placeholderName priority)) priority) := by
  obtain ⟨name, place, empty⟩ := opening_frame (K := K) priority form
  rw [ofForm_eq, (finish_frame _).2.2, (reads_drafted slots priority form).constraints, name, place,
    empty, List.nil_append]

variable {slots form}

theorem condition_of_malformed (malformed : Malformed K slots form) :
    ∃ source, (ofForm slots priority form : Rule K × List Diagnostic).1.condition =
      some (Code.never source) :=
  condition_finish_of_broken ((broken_drafted slots priority form).mpr malformed)

theorem condition_of_not_malformed (whole : ¬ Malformed K slots form) :
    (ofForm slots priority form : Rule K × List Diagnostic).1.condition =
      form.condition?.bind (conditionOf slots) := by
  rw [← broken_drafted slots priority, Bool.not_eq_true] at whole
  rw [ofForm_eq, condition_finish_of_whole whole]
  exact (reads_drafted slots priority form).condition whole

theorem warned_of_malformed (malformed : Malformed K slots form) :
    ∃ diagnostic ∈ (ofForm slots priority form : Rule K × List Diagnostic).2,
      diagnostic.level = .warning ∧
        diagnostic.rule = some (form.argument?.getD (placeholderName priority)) := by
  have reads := reads_drafted (K := K) slots priority form
  obtain ⟨diagnostic, reported, warning, named⟩ :=
    reads.warned ((broken_drafted slots priority form).mpr malformed)
  rw [reads.name, (opening_frame priority form).1] at named
  exact ⟨diagnostic, mem_diagnostics_finish reported, warning, named⟩

end Rule

/-! ### Documents -/

namespace Rules

variable {K : Type}

/-- The rules of two parts of a document. -/
def append (front back : Rules K) : Rules K :=
  ⟨front.rules ++ back.rules, front.diagnostics ++ back.diagnostics⟩

theorem append_assoc (front middle back : Rules K) :
    (front.append middle).append back = front.append (middle.append back) := by
  simp only [append, List.append_assoc]

variable [Scalar K]

/-- A form that gives a rule. -/
theorem ofForms_of_isRule {form : Form} (isRule : form.isRule = true) (slots : SlotTable)
    (priority : Nat) (forms : List Form) :
    ofForms slots priority (form :: forms) =
      append ⟨[(Rule.ofForm slots priority form : Rule K × List Diagnostic).1],
          (Rule.ofForm slots priority form : Rule K × List Diagnostic).2⟩
        (ofForms slots (priority + 1) forms) := by
  rw [ofForms, beq_iff_eq.mp isRule]
  rfl

/-- What is reported about a form that gives no rule. -/
def noticesOf (form : Form) : List Diagnostic :=
  match form.head? with
  | some "version" =>
    if form.argument? = some supportedVersion then []
    else [.warning form.line (FormFault.version form.argument?).message]
  | word => [.warning form.line (FormFault.unknown word).message]

/-- A form that gives none. -/
theorem ofForms_of_not_isRule {form : Form} (other : form.isRule = false) (slots : SlotTable)
    (priority : Nat) (forms : List Form) :
    ofForms slots priority (form :: forms) =
      append ⟨[], noticesOf form⟩ (ofForms slots priority forms : Rules K) := by
  have noRule : form.head? ≠ some "rule" := fun head => by
    rw [Form.isRule, head] at other
    cases other
  rw [ofForms, noticesOf]
  generalize form.head? = word at noRule ⊢
  split
  next => exact absurd rfl noRule
  next =>
    dsimp only
    split <;> rfl
  next noVersion =>
    split
    next => exact absurd rfl noVersion
    next => rfl

/-- **The rules of a document, one part after the other.** -/
theorem ofForms_append (slots : SlotTable) (front back : List Form) (priority : Nat) :
    ofForms slots priority (front ++ back) =
      (ofForms slots priority front).append
        (ofForms slots (priority + front.countP Form.isRule) back : Rules K) := by
  induction front generalizing priority with
  | nil => rfl
  | cons form front ih =>
    cases isRule : form.isRule with
    | true =>
      rw [List.cons_append, ofForms_of_isRule isRule, ofForms_of_isRule isRule, ih, append_assoc,
        List.countP_cons_of_pos isRule, Nat.add_right_comm, Nat.add_assoc]
    | false =>
      rw [List.cons_append, ofForms_of_not_isRule isRule, ofForms_of_not_isRule isRule, ih,
        append_assoc, List.countP_cons_of_neg (ne_true_of_eq_false isRule)]

theorem length_rules_ofForms (slots : SlotTable) (priority : Nat) (forms : List Form) :
    (ofForms slots priority forms : Rules K).rules.length = forms.countP Form.isRule := by
  induction forms generalizing priority with
  | nil => rfl
  | cons form forms ih =>
    cases isRule : form.isRule with
    | true =>
      rw [ofForms_of_isRule isRule, List.countP_cons_of_pos isRule, append, List.length_append, ih,
        Nat.add_comm]
      rfl
    | false =>
      rw [ofForms_of_not_isRule isRule, List.countP_cons_of_neg (ne_true_of_eq_false isRule),
        append, List.nil_append, ih]

/-- Where the rule of a form stands, and where its diagnostics do. -/
theorem ofForms_middle (slots : SlotTable) (before after : List Form) {form : Form}
    (isRule : form.isRule = true) :
    (ofForms slots 0 (before ++ form :: after) : Rules K).rules[before.countP Form.isRule]? =
        some (Rule.ofForm slots (before.countP Form.isRule) form).1 ∧
      ∀ diagnostic ∈ (Rule.ofForm slots (before.countP Form.isRule) form : Rule K × _).2,
        diagnostic ∈ (ofForms slots 0 (before ++ form :: after) : Rules K).diagnostics := by
  rw [ofForms_append, ofForms_of_isRule isRule, Nat.zero_add]
  constructor
  · rw [append, List.getElem?_append_right (Nat.le_of_eq (length_rules_ofForms slots 0 before)),
      length_rules_ofForms, Nat.sub_self]
    rfl
  · intro diagnostic member
    exact List.mem_append_right _ (List.mem_append_left _ member)

/-- **A malformed rule never applies and is never lost.** The rule of a form has the form's place
and name and all its well-formed constraints. If the form is malformed, the rule's condition never
holds, no search finds the rule, and a warning names it; otherwise its condition is what the first
condition clause says. -/
theorem malformed_rule_fails_closed (slots : SlotTable) (text : String) {before after : List Form}
    {form : Form} (split : (Forms.ofText text).forms = before ++ form :: after)
    (isRule : form.isRule = true) :
    let document : Rules Float := ofText slots text
    let priority := before.countP Form.isRule
    ∃ rule, document.rules[priority]? = some rule ∧
      rule.name = form.argument?.getD (placeholderName priority) ∧
      rule.priority = priority ∧
      rule.constraints = form.clauses.filterMap (Rule.constraintOf? rule.name priority) ∧
      (Rule.Malformed Float slots form →
        (∃ code, rule.condition = some code ∧ ∀ context, code.holds context = false) ∧
        (∀ requested kind context entry,
          (Catalog.build document.rules requested).resolve kind context = .ok (some entry) →
            entry.rule ≠ rule) ∧
        ∃ diagnostic ∈ document.diagnostics,
          diagnostic.level = .warning ∧ diagnostic.rule = some rule.name) ∧
      (¬ Rule.Malformed Float slots form →
        rule.condition = form.condition?.bind (Rule.conditionOf slots)) := by
  intro document priority
  obtain ⟨placed, reported⟩ := ofForms_middle (K := Float) slots before after isRule
  rw [← split] at placed reported
  have name := Rule.name_ofForm (K := Float) slots priority form
  refine ⟨_, placed, name, Rule.priority_ofForm slots priority form, ?_, ?_,
    Rule.condition_of_not_malformed priority⟩
  · rw [name]
    exact Rule.constraints_ofForm slots priority form
  · intro malformed
    obtain ⟨source, never⟩ := Rule.condition_of_malformed priority malformed
    obtain ⟨diagnostic, member, warning, named⟩ := Rule.warned_of_malformed priority malformed
    refine ⟨⟨_, never, Condition.holds_never source⟩, ?_, diagnostic,
      List.mem_append_right _ (reported diagnostic member), warning, ?_⟩
    · intro requested kind context entry found
      exact Catalog.rule_ne_of_resolve found never
    · rw [named, name]

/-- A document whose second rule has a stray clause after its constraint. -/
def strayText : String :=
  "(version 1) (rule a (constraint disallow via))\n(rule b (constraint disallow track) stray)"

/-- The form of its first rule. -/
def soundForm : Form :=
  .list [.atom "rule" false 1, .atom "a" false 1,
    .list [.atom "constraint" false 1, .atom "disallow" false 1, .atom "via" false 1] 1] 1

/-- The form of its second rule. -/
def strayForm : Form :=
  .list [.atom "rule" false 2, .atom "b" false 2,
    .list [.atom "constraint" false 2, .atom "disallow" false 2, .atom "track" false 2] 2,
    .atom "stray" false 2] 2

theorem malformed_rule_fails_closed_of_stray :
    ∃ rule, (ofText .standard strayText : Rules Float).rules[1]? = some rule ∧ rule.name = "b" ∧
      rule.constraints = [⟨.disallow, .categories ["track"], "b", 1⟩] ∧
      (∃ code, rule.condition = some code ∧ ∀ context, code.holds context = false) ∧
      ∃ diagnostic ∈ (ofText .standard strayText : Rules Float).diagnostics,
        diagnostic.level = .warning ∧ diagnostic.rule = some "b" := by
  have listed : Form.atom "stray" false 2 ∈ strayForm.clauses :=
    List.mem_cons_of_mem _ (List.mem_singleton_self _)
  obtain ⟨rule, placed, name, -, constraints, damaged, -⟩ :=
    @malformed_rule_fails_closed .standard strayText
      [.list [.atom "version" false 1, .atom "1" false 1] 1, soundForm] [] strayForm rfl rfl
  obtain ⟨never, -, warned⟩ := damaged (.clause listed (.headless rfl))
  rw [name] at constraints warned
  exact ⟨rule, placed, name, constraints.trans (by decide +kernel), never, warned⟩

end Rules

end DesignRules

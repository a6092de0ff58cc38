/-
**Damage stays local to the rule that has it.**

What a rule says does not depend on where it stands: further down in a document, only its line, its
priority and, if it has no name, the name made from its priority are different. So rules after a
blank line are the same whatever stands before them.

* `Rule.relocated`: a rule at another place.
* `demandOf_moved`, `RuleDraft.Relocates.add`: constraints and clauses at another place.
* `Rule.ofForm_moved`, `Rules.rules_ofForms_moved`: rules at another place.
* `Rules.damage_stays_local`: the rules of two parts of a document.
-/

import DesignRules.Proofs.Rule.Damaged
import DesignRules.Proofs.RuleText.Seam

namespace DesignRules

open RuleText (Form Forms Token Located)
open Condition (Code SlotTable)

/-! ### Forms at another place -/

namespace RuleText.Form

variable (lines : Nat) (form : Form)

theorem line_moved : (form.moved lines).line = form.line + lines := by
  cases form <;> rfl

theorem atom?_moved : (form.moved lines).atom? = form.atom? := by
  cases form <;> rfl

theorem head?_moved : (form.moved lines).head? = form.head? := by
  cases form with
  | atom text quoted line => rfl
  | list items line =>
    cases items with
    | nil => rfl
    | cons first rest =>
      cases first with
      | atom text quoted line => cases quoted <;> rfl
      | list items line => rfl

theorem arguments_moved : (form.moved lines).arguments = form.arguments.map (moved lines) := by
  cases form with
  | atom text quoted line => rfl
  | list items line =>
    rw [moved, arguments, arguments, allMoved_eq_map, List.map_drop]

theorem argument?_moved : (form.moved lines).argument? = form.argument? := by
  rw [argument?, argument?, arguments_moved, List.head?_map]
  cases form.arguments.head? with
  | none => rfl
  | some first => exact atom?_moved lines first

theorem isRule_moved : (form.moved lines).isRule = form.isRule := by
  rw [isRule, isRule, head?_moved]

theorem clauses_moved : (form.moved lines).clauses = form.clauses.map (moved lines) := by
  rw [clauses, clauses, argument?_moved, arguments_moved]
  split
  · rw [List.map_drop]
  · rfl

end RuleText.Form

open RuleText.Form

/-! ### Constraints at another place -/

section Constraints

variable {K : Type} (lines : Nat)

theorem kindOf_moved (form : Form) : kindOf (form.moved lines) = kindOf form := by
  rw [kindOf, kindOf, argument?_moved]

theorem keywordOf_moved (kind : ConstraintKind) (form : Form) :
    keywordOf kind (form.moved lines) = keywordOf kind form := by
  rw [keywordOf, keywordOf, atom?_moved]

theorem categoryDemand_moved (kind : ConstraintKind) (forms : List Form) :
    categoryDemand kind (forms.map (moved lines)) =
      (categoryDemand kind forms : Except ConstraintFault (Demand K)) := by
  simp only [categoryDemand, List.mapM_map, Function.comp_def, keywordOf_moved]

variable [Scalar K]

theorem boundAdd_moved (kind : ConstraintKind) (bound : Bound K) (form : Form) :
    bound.add kind (form.moved lines) = bound.add kind form := by
  rw [Bound.add, Bound.add, head?_moved, argument?_moved]

theorem boundDemand_moved (kind : ConstraintKind) (forms : List Form) :
    boundDemand kind (forms.map (moved lines)) =
      (boundDemand kind forms : Except ConstraintFault (Demand K)) := by
  simp only [boundDemand, List.foldlM_map, boundAdd_moved]

/-- A constraint clause says the same wherever it stands. -/
theorem demandOf_moved (form : Form) :
    (demandOf (form.moved lines) : Except ConstraintFault (ConstraintKind × Demand K)) =
      demandOf form := by
  simp only [demandOf, kindOf_moved, arguments_moved, ← List.map_drop, categoryDemand_moved,
    boundDemand_moved]

end Constraints

/-! ### Rules at another place -/

section Places

variable {K : Type}

/-- A constraint of a rule that stands some places later. -/
def Constraint.relocated (places : Nat) (unnamed : Bool) (constraint : Constraint K) :
    Constraint K :=
  { constraint with
    ruleName :=
      if unnamed then placeholderName (constraint.rulePriority + places) else constraint.ruleName
    rulePriority := constraint.rulePriority + places }

/-- A rule that stands some lines and places later: its line and its priority change, and its name
if it was given none. -/
def Rule.relocated (lines places : Nat) (unnamed : Bool) (rule : Rule K) : Rule K :=
  { rule with
    name := if unnamed then placeholderName (rule.priority + places) else rule.name
    priority := rule.priority + places
    constraints := rule.constraints.map (Constraint.relocated places unnamed)
    line := rule.line + lines }

end Places

namespace RuleDraft

variable {K : Type}

/-- Drafts of one rule at two places; what was reported is left out, since it counts lines. -/
structure Relocates (lines places : Nat) (unnamed : Bool) (whole alone : RuleDraft K) : Prop where
  rule : whole.rule = alone.rule.relocated lines places unnamed
  hasCondition : whole.hasCondition = alone.hasCondition
  isBroken : whole.isBroken = alone.isBroken

variable {lines places : Nat} {unnamed : Bool} {whole alone : RuleDraft K}

namespace Relocates

theorem report (same : Relocates lines places unnamed whole alone) (line other : Nat)
    (fault another : RuleFault) :
    Relocates lines places unnamed (whole.report line fault) (alone.report other another) :=
  ⟨same.rule, same.hasCondition, same.isBroken⟩

theorem damage (same : Relocates lines places unnamed whole alone) (line other : Nat)
    (fault another : RuleFault) :
    Relocates lines places unnamed (whole.damage line fault) (alone.damage other another) :=
  ⟨same.rule, same.hasCondition, rfl⟩

theorem setLayer (same : Relocates lines places unnamed whole alone) (clause : Form) :
    Relocates lines places unnamed (whole.setLayer (clause.moved lines))
      (alone.setLayer clause) := by
  unfold RuleDraft.setLayer
  rw [argument?_moved]
  cases clause.argument? with
  | none => exact same.damage _ _ _ _
  | some pattern =>
    refine ⟨?_, same.hasCondition, same.isBroken⟩
    dsimp only
    rw [same.rule]
    rfl

theorem setSeverity (same : Relocates lines places unnamed whole alone) (clause : Form) :
    Relocates lines places unnamed (whole.setSeverity (clause.moved lines))
      (alone.setSeverity clause) := by
  unfold RuleDraft.setSeverity
  rw [argument?_moved]
  cases clause.argument? with
  | none => exact same.report _ _ _ _
  | some word =>
    dsimp only
    cases Severity.ofWord? word with
    | none => exact same.report _ _ _ _
    | some severity =>
      refine ⟨?_, same.hasCondition, same.isBroken⟩
      dsimp only
      rw [same.rule]
      rfl

theorem disable (same : Relocates lines places unnamed whole alone) :
    Relocates lines places unnamed
      { whole with rule := { whole.rule with enabled := false } }
      { alone with rule := { alone.rule with enabled := false } } := by
  refine ⟨?_, same.hasCondition, same.isBroken⟩
  dsimp only
  rw [same.rule]
  rfl

variable [Scalar K]

theorem ofForm_relocated (rule : Rule K) (clause : Form) :
    Constraint.ofForm (rule.relocated lines places unnamed) (clause.moved lines) =
      (Constraint.ofForm rule clause).map (Constraint.relocated places unnamed) := by
  rw [Constraint.ofForm, Constraint.ofForm, demandOf_moved]
  cases (demandOf clause : Except ConstraintFault (ConstraintKind × Demand K)) <;> rfl

theorem addConstraint (same : Relocates lines places unnamed whole alone) (clause : Form) :
    Relocates lines places unnamed (whole.addConstraint (clause.moved lines))
      (alone.addConstraint clause) := by
  unfold RuleDraft.addConstraint
  rw [same.rule, ofForm_relocated]
  cases Constraint.ofForm alone.rule clause with
  | error fault => exact same.report _ _ _ _
  | ok constraint =>
    refine ⟨?_, same.hasCondition, same.isBroken⟩
    simp [Except.map, Rule.relocated]

theorem setCondition (same : Relocates lines places unnamed whole alone) (slots : SlotTable)
    (line other : Nat) (text : String) :
    Relocates lines places unnamed (whole.setCondition slots line text)
      (alone.setCondition slots other text) := by
  unfold RuleDraft.setCondition
  split
  · exact same
  · cases (Code.ofText slots text : Except Condition.Fault (Code K)) with
    | ok code =>
      refine ⟨?_, same.hasCondition, same.isBroken⟩
      dsimp only
      rw [same.rule]
      rfl
    | error fault =>
      refine ⟨?_, same.hasCondition, rfl⟩
      dsimp only
      rw [(same.damage line other _ _).rule]
      rfl

theorem addCondition (same : Relocates lines places unnamed whole alone) (slots : SlotTable)
    (clause : Form) :
    Relocates lines places unnamed (whole.addCondition slots (clause.moved lines))
      (alone.addCondition slots clause) := by
  unfold RuleDraft.addCondition
  rw [same.hasCondition, argument?_moved]
  split
  · exact same.report _ _ _ _
  · have seen : Relocates lines places unnamed { whole with hasCondition := true }
        { alone with hasCondition := true } := ⟨same.rule, rfl, same.isBroken⟩
    cases clause.argument? with
    | none => exact seen.damage _ _ _ _
    | some text => exact seen.setCondition slots _ _ text

/-- One more clause. -/
theorem add (same : Relocates lines places unnamed whole alone) (slots : SlotTable)
    (clause : Form) :
    Relocates lines places unnamed (whole.add slots (clause.moved lines))
      (alone.add slots clause) := by
  unfold RuleDraft.add
  rw [head?_moved]
  split
  · exact same.addCondition slots clause
  · exact same.addConstraint clause
  · exact same.setLayer clause
  · exact same.setSeverity clause
  · exact same.disable
  · exact same.damage _ _ _ _
  · exact same.damage _ _ _ _

/-- All clauses. -/
theorem foldl (same : Relocates lines places unnamed whole alone) (slots : SlotTable)
    (clauses : List Form) :
    Relocates lines places unnamed ((clauses.map (moved lines)).foldl (RuleDraft.add slots) whole)
      (clauses.foldl (RuleDraft.add slots) alone) := by
  induction clauses generalizing whole alone with
  | nil => exact same
  | cons clause clauses ih => exact ih (same.add slots clause)

/-- The end of a rule. -/
theorem rule_finish (same : Relocates lines places unnamed whole alone) :
    whole.finish.rule = alone.finish.rule.relocated lines places unnamed := by
  rw [RuleDraft.rule_finish, RuleDraft.rule_finish, sealed, sealed, same.isBroken]
  split
  · dsimp only
    rw [same.rule]
    rfl
  · exact same.rule

end Relocates

theorem relocates_opening (lines places priority : Nat) (form : Form) :
    Relocates lines places form.argument?.isNone
      (Rule.opening (priority + places) (form.moved lines) : RuleDraft K)
      (Rule.opening priority form) := by
  unfold Rule.opening
  rw [argument?_moved, line_moved]
  cases form.argument? with
  | none =>
    simp only [Option.isNone_none, if_true]
    exact ⟨rfl, rfl, rfl⟩
  | some name =>
    simp only [Option.isNone_some, Bool.false_eq_true, if_false]
    exact ⟨rfl, rfl, rfl⟩

end RuleDraft

variable {K : Type} [Scalar K]

/-- **The rule of a form at another place.** -/
theorem Rule.ofForm_moved (slots : SlotTable) (lines places priority : Nat) (form : Form) :
    (Rule.ofForm slots (priority + places) (form.moved lines) : Rule K × List Diagnostic).1 =
      (Rule.ofForm slots priority form).1.relocated lines places form.argument?.isNone := by
  rw [ofForm_eq, ofForm_eq, drafted, drafted, clauses_moved]
  have opened := RuleDraft.relocates_opening (K := K) lines places priority form
  exact (opened.foldl slots form.clauses).rule_finish

namespace Rules

theorem rules_ofForms_moved (slots : SlotTable) (lines places priority : Nat) (forms : List Form) :
    (ofForms slots (priority + places) (forms.map (moved lines)) : Rules K).rules =
      List.zipWith
        (fun form rule => rule.relocated lines places form.argument?.isNone)
        (forms.filter Form.isRule) (ofForms slots priority forms).rules := by
  induction forms generalizing priority with
  | nil => rfl
  | cons form forms ih =>
    rw [List.map_cons]
    cases isRule : form.isRule with
    | true =>
      rw [ofForms_of_isRule isRule, ofForms_of_isRule (isRule_moved lines form ▸ isRule),
        List.filter_cons_of_pos isRule, Nat.add_right_comm, append, ih, Rule.ofForm_moved]
      rfl
    | false =>
      rw [ofForms_of_not_isRule isRule, ofForms_of_not_isRule (isRule_moved lines form ▸ isRule),
        List.filter_cons_of_neg (ne_true_of_eq_false isRule)]
      exact ih priority

/-- A rule has the name of its form, or the one made from its priority. -/
theorem names_ofForms (slots : SlotTable) (priority : Nat) (forms : List Form) :
    List.Forall₂
      (fun form rule => rule.name = form.argument?.getD (placeholderName rule.priority))
      (forms.filter Form.isRule) (ofForms slots priority forms : Rules K).rules := by
  induction forms generalizing priority with
  | nil => exact .nil
  | cons form forms ih =>
    cases isRule : form.isRule with
    | true =>
      rw [ofForms_of_isRule isRule, List.filter_cons_of_pos isRule]
      refine .cons ?_ (ih (priority + 1))
      rw [Rule.priority_ofForm, Rule.name_ofForm]
    | false =>
      rw [ofForms_of_not_isRule isRule, List.filter_cons_of_neg (ne_true_of_eq_false isRule)]
      exact ih priority

/-- **Damage stays local to the rule that has it.** After a text that ends with a blank line,
whatever else is in it, a text that begins with a rule has the rules that it has alone: its lines
are counted on, its priorities follow those of the rules before it, and so do the names that are
made from them. -/
theorem damage_stays_local (slots : SlotTable) (body : String) :
    ∃ lines, ∀ (rest : String) (first second : Nat) (tokens : List Located),
      Token.ofCharacters rest.toList = ⟨.opening, first⟩ :: ⟨.word "rule", second⟩ :: tokens →
      let before : Rules K := ofText slots (body ++ "\n\n")
      let alone : Rules K := ofText slots rest
      let forms := (Forms.ofText rest).forms.filter Form.isRule
      List.Forall₂
          (fun form rule => rule.name = form.argument?.getD (placeholderName rule.priority))
          forms alone.rules ∧
        (ofText slots (body ++ "\n\n" ++ rest)).rules =
          before.rules ++ List.zipWith
            (fun form rule => rule.relocated lines before.rules.length form.argument?.isNone)
            forms alone.rules := by
  obtain ⟨lines, parts⟩ := Forms.ofText_append body
  refine ⟨lines, fun rest first second tokens begins => ⟨names_ofForms slots 0 _, ?_⟩⟩
  have forms := parts rest first second tokens begins
  have moved := rules_ofForms_moved (K := K) slots lines
    ((Forms.ofText (body ++ "\n\n")).forms.countP Form.isRule) 0 (Forms.ofText rest).forms
  simp only [ofText]
  rw [forms, ofForms_append, length_rules_ofForms, append, moved]

/-- A damaged part, in which two lists and a text are left open. -/
def openText : String := "(rule a (constraint disallow \"via"

/-- A part with an unnamed rule. -/
def unnamedText : String := "(rule (constraint disallow track))"

/-- The form of that rule. -/
def unnamedForm : Form :=
  .list [.atom "rule" false 1,
    .list [.atom "constraint" false 1, .atom "disallow" false 1, .atom "track" false 1] 1] 1

theorem damage_stays_local_of_open_text :
    ∃ lines, (ofText .standard (openText ++ "\n\n" ++ unnamedText) : Rules Float).rules =
      (ofText .standard (openText ++ "\n\n")).rules ++
        (ofText .standard unnamedText).rules.map (Rule.relocated lines 1 true) := by
  obtain ⟨lines, seam⟩ := damage_stays_local (K := Float) .standard openText
  have parts := (seam unnamedText 1 1
    [⟨.opening, 1⟩, ⟨.word "constraint", 1⟩, ⟨.word "disallow", 1⟩, ⟨.word "track", 1⟩,
      ⟨.closing, 1⟩, ⟨.closing, 1⟩] (by decide +kernel)).2
  have forms : (Forms.ofText unnamedText).forms = [unnamedForm] := rfl
  have before : (ofText .standard (openText ++ "\n\n") : Rules Float).rules.length = 1 := by
    decide +kernel
  have alone : (ofText .standard unnamedText : Rules Float).rules =
      [(Rule.ofForm .standard 0 unnamedForm).1] := by
    rw [ofText, forms]
    rfl
  refine ⟨lines, parts.trans ?_⟩
  rw [before, forms, alone]
  rfl

end Rules

end DesignRules

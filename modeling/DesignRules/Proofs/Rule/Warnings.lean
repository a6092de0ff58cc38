/-
**What is reported about a document.**

Whatever is wrong with a document, what is reported about it is a warning: about a token, about a
form of the top level, or about a clause of a rule. A clause is reported at most once, at its own
line and in the name of its rule.

* `RuleFault.IsOfClause`, `RuleDraft.Reports`, `RuleDraft.reports_add`: what a clause reports.
* `RuleFault.IsAbout`, `Rule.exists_fault`: what is reported about a rule.
* `Rules.Notice`, `Rules.exists_notice`: what is reported about the forms of a document.
* `OnlyWarns`, `onlyWarns_ofText`: all of it are warnings.
-/

import DesignRules.Proofs.Rule.Occurrences
import DesignRules.Proofs.RuleText.Lines

namespace DesignRules

open Condition (Code Fault SlotTable)
open RuleText (Form Forms Token WarnsOfFlaw)

/-! ### Faults of clauses -/

/-- The warning about a fault of a rule. -/
def RuleFault.diagnostic (line : Nat) (name : String) (fault : RuleFault) : Diagnostic :=
  (Diagnostic.warning line fault.message).inRule name

variable {K : Type} [Scalar K]

variable (K) in
/-- Whether a clause of a rule has a fault. -/
def RuleFault.IsOfClause (slots : SlotTable) (clause : Form) : RuleFault → Prop
  | .noName => False
  | .duplicateCondition => clause.head? = some "condition"
  | .conditionWithoutText => clause.head? = some "condition" ∧ clause.argument? = none
  | .condition text fault => clause.head? = some "condition" ∧ clause.argument? = some text ∧
      (Code.ofText slots text : Except Fault (Code K)) = .error fault
  | .constraint fault => clause.head? = some "constraint" ∧
      (demandOf clause : Except ConstraintFault (ConstraintKind × Demand K)) = .error fault
  | .layerWithoutName => clause.head? = some "layer" ∧ clause.argument? = none
  | .unknownSeverity word => clause.head? = some "severity" ∧ clause.argument? = some word ∧
      Severity.ofWord? word = none
  | .severityWithoutValue => clause.head? = some "severity" ∧ clause.argument? = none
  | .unknownClause word => clause.head? = some word ∧ word ∉ Rule.clauseWords
  | .strayPart text => clause.head? = none ∧ text = clause.atom?.getD "(...)"
  | .noConstraints => False

namespace RuleDraft

variable {slots : SlotTable} {clause : Form} {draft : RuleDraft K}

/-- What a clause reports: nothing, or a fault that it has. -/
inductive Reports (slots : SlotTable) (clause : Form) (before after : RuleDraft K) : Prop where
  | nothing : after.diagnostics = before.diagnostics → Reports slots clause before after
  | fault {fault : RuleFault} : fault.IsOfClause K slots clause →
      after.diagnostics =
        before.diagnostics ++ [fault.diagnostic clause.line before.rule.name] →
      Reports slots clause before after

theorem reports_setCondition (head : clause.head? = some "condition") {text : String}
    (written : clause.argument? = some text) :
    Reports slots clause draft
      (setCondition slots { draft with hasCondition := true } clause.line text) := by
  unfold setCondition
  split
  · exact .nothing rfl
  cases compiled : (Code.ofText slots text : Except Fault (Code K)) with
  | ok code => exact .nothing rfl
  | error fault =>
    have has : (RuleFault.condition text fault).IsOfClause K slots clause :=
      ⟨head, written, compiled⟩
    exact .fault has rfl

theorem reports_addCondition (head : clause.head? = some "condition") :
    Reports slots clause draft (draft.addCondition slots clause) := by
  unfold addCondition
  split
  · have has : RuleFault.duplicateCondition.IsOfClause K slots clause := head
    exact .fault has rfl
  cases written : clause.argument? with
  | none =>
    have has : RuleFault.conditionWithoutText.IsOfClause K slots clause := ⟨head, written⟩
    exact .fault has rfl
  | some text => exact reports_setCondition head written

theorem reports_addConstraint (head : clause.head? = some "constraint") :
    Reports slots clause draft (draft.addConstraint clause) := by
  unfold addConstraint Constraint.ofForm
  cases demanded : (demandOf clause : Except ConstraintFault (ConstraintKind × Demand K)) with
  | ok demand => exact .nothing rfl
  | error fault =>
    have has : (RuleFault.constraint fault).IsOfClause K slots clause := ⟨head, demanded⟩
    exact .fault has rfl

theorem reports_setLayer (head : clause.head? = some "layer") :
    Reports slots clause draft (draft.setLayer clause) := by
  unfold setLayer
  cases written : clause.argument? with
  | some pattern => exact .nothing rfl
  | none =>
    have has : RuleFault.layerWithoutName.IsOfClause K slots clause := ⟨head, written⟩
    exact .fault has rfl

theorem reports_setSeverity (head : clause.head? = some "severity") :
    Reports slots clause draft (draft.setSeverity clause) := by
  unfold setSeverity
  cases written : clause.argument? with
  | none =>
    have has : RuleFault.severityWithoutValue.IsOfClause K slots clause := ⟨head, written⟩
    exact .fault has rfl
  | some word =>
    dsimp only
    cases named : Severity.ofWord? word with
    | some severity => exact .nothing rfl
    | none =>
      have has : (RuleFault.unknownSeverity word).IsOfClause K slots clause :=
        ⟨head, written, named⟩
      exact .fault has rfl

/-- **A clause reports at most one fault**, at its own line. -/
theorem reports_add (slots : SlotTable) (clause : Form) (draft : RuleDraft K) :
    Reports slots clause draft (draft.add slots clause) := by
  unfold add
  split
  next head => exact reports_addCondition head
  next head => exact reports_addConstraint head
  next head => exact reports_setLayer head
  next head => exact reports_setSeverity head
  next => exact .nothing rfl
  next word notCondition notConstraint notLayer notSeverity notDisabled head =>
    have has : (RuleFault.unknownClause word).IsOfClause K slots clause := by
      refine ⟨head, ?_⟩
      simp only [Rule.clauseWords, List.mem_cons, List.not_mem_nil, or_false, not_or]
      exact ⟨notCondition, notConstraint, notLayer, notSeverity, notDisabled⟩
    exact .fault has rfl
  next head =>
    have has : (RuleFault.strayPart (clause.atom?.getD "(...)")).IsOfClause K slots clause :=
      ⟨head, rfl⟩
    exact .fault has rfl

/-- **What all clauses report.** -/
theorem mem_diagnostics_foldl {clauses : List Form} {diagnostic : Diagnostic}
    (reported : diagnostic ∈ (clauses.foldl (add slots) draft).diagnostics) :
    diagnostic ∈ draft.diagnostics ∨ ∃ clause ∈ clauses, ∃ fault : RuleFault,
      fault.IsOfClause K slots clause ∧
        diagnostic = fault.diagnostic clause.line draft.rule.name := by
  induction clauses generalizing draft with
  | nil => exact .inl reported
  | cons clause clauses ih =>
    rcases ih reported with sooner | ⟨later, listed, fault, has, said⟩
    · cases reports_add slots clause draft with
      | nothing same => exact .inl (same ▸ sooner)
      | fault has grown =>
        rw [grown] at sooner
        refine (List.mem_append.mp sooner).imp_right fun last => ?_
        exact ⟨clause, List.mem_cons_self, _, has, List.mem_singleton.mp last⟩
    · rw [(adds_add slots clause draft).name] at said
      exact .inr ⟨later, List.mem_cons_of_mem _ listed, fault, has, said⟩

end RuleDraft

/-! ### Rules -/

variable (K) in
/-- Whether a part of a rule's form has a fault: the form itself, which has no name or no
well-formed constraint, or one of its clauses. -/
inductive RuleFault.IsAbout (slots : SlotTable) (form : Form) : Form → RuleFault → Prop where
  | unnamed : form.argument? = none → IsAbout slots form form .noName
  | unconstrained :
      (∀ (name : String) (priority : Nat), ∀ clause ∈ form.clauses,
        (Rule.constraintOf? name priority clause : Option (Constraint K)) = none) →
      IsAbout slots form form .noConstraints
  | clause {clause : Form} {fault : RuleFault} : clause ∈ form.clauses →
      fault.IsOfClause K slots clause → IsAbout slots form clause fault

namespace Rule

open RuleDraft

/-- Whether a clause gives a constraint does not depend on its rule. -/
theorem constraintOf?_eq_none {name other : String} {priority place : Nat} {clause : Form}
    (none : (constraintOf? name priority clause : Option (Constraint K)) = none) :
    (constraintOf? other place clause : Option (Constraint K)) = .none := by
  unfold constraintOf? at none ⊢
  split_ifs at none ⊢
  · exact Option.map_eq_none_iff.mpr (Option.map_eq_none_iff.mp none)
  · rfl

variable {slots : SlotTable} {priority : Nat} {form : Form} {diagnostic : Diagnostic}

/-- What is reported before the end of a rule: that it has no name, or a fault of a clause. -/
theorem exists_fault_of_mem_drafted
    (reported : diagnostic ∈ (drafted slots priority form : RuleDraft K).diagnostics) :
    ∃ part fault, RuleFault.IsAbout K slots form part fault ∧
      diagnostic =
        fault.diagnostic part.line (form.argument?.getD (placeholderName priority)) := by
  rcases mem_diagnostics_foldl reported with sooner | ⟨clause, listed, fault, has, said⟩
  · unfold opening at sooner
    split at sooner
    · rename_i unnamed
      exact ⟨form, .noName, .unnamed (Option.isNone_iff_eq_none.mp unnamed),
        List.mem_singleton.mp sooner⟩
    · cases sooner
  · rw [(opening_frame priority form).1] at said
    exact ⟨clause, fault, .clause listed has, said⟩

/-- **What is reported about a rule** is about its form or one of its clauses, at the line of that
part and in the name of the rule. -/
theorem exists_fault
    (reported : diagnostic ∈ (ofForm slots priority form : Rule K × List Diagnostic).2) :
    ∃ part fault, RuleFault.IsAbout K slots form part fault ∧
      diagnostic =
        fault.diagnostic part.line (form.argument?.getD (placeholderName priority)) := by
  have line := line_ofForm (K := K) slots priority form
  have name := name_ofForm (K := K) slots priority form
  have constraints := constraints_ofForm (K := K) slots priority form
  rw [ofForm_eq] at reported line name constraints
  rw [rule_finish] at line name constraints
  rw [finish_eq] at reported
  dsimp only at reported line name constraints
  split at reported
  · rename_i empty
    rcases List.mem_append.mp reported with sooner | last
    · rw [diagnostics_sealed] at sooner
      exact exists_fault_of_mem_drafted sooner
    · refine ⟨form, .noConstraints, .unconstrained fun other place clause listed => ?_, ?_⟩
      · rw [List.isEmpty_iff.mp empty] at constraints
        exact constraintOf?_eq_none (List.filterMap_eq_nil_iff.mp constraints.symm clause listed)
      · rw [List.mem_singleton.mp last, line, name]
        rfl
  · rw [diagnostics_sealed] at reported
    exact exists_fault_of_mem_drafted reported

end Rule

/-! ### Documents -/

/-- Whether a form of the top level has a fault. -/
def FormFault.IsAbout (form : Form) : FormFault → Prop
  | .version written => form.head? = some "version" ∧ written = form.argument? ∧
      written ≠ some supportedVersion
  | .unknown word => word = form.head? ∧ word ≠ some "version" ∧ word ≠ some "rule"

namespace Rules

theorem exists_of_mem_noticesOf {form : Form} (noRule : form.isRule = false)
    {diagnostic : Diagnostic} (reported : diagnostic ∈ noticesOf form) :
    ∃ fault : FormFault, fault.IsAbout form ∧ diagnostic = .warning form.line fault.message := by
  unfold noticesOf at reported
  split at reported
  · rename_i version
    split at reported
    · cases reported
    · rename_i other
      exact ⟨.version form.argument?, ⟨version, rfl, other⟩, List.mem_singleton.mp reported⟩
  · rename_i noVersion
    refine ⟨.unknown form.head?, ⟨rfl, noVersion, fun rule => ?_⟩, List.mem_singleton.mp reported⟩
    rw [Form.isRule, rule] at noRule
    cases noRule

variable (K) in
/-- What is reported about a form of the top level, and the part of it that is meant. -/
inductive Notice (slots : SlotTable) (form : Form) : Form → Diagnostic → Prop where
  | rule {part : Form} {fault : RuleFault} (priority : Nat) : form.isRule = true →
      fault.IsAbout K slots form part →
      Notice slots form part
        (fault.diagnostic part.line (form.argument?.getD (placeholderName priority)))
  | other {fault : FormFault} : form.isRule = false → fault.IsAbout form →
      Notice slots form form (.warning form.line fault.message)

/-- What is reported about a part of a form bears the line of that part. -/
theorem Notice.line {slots : SlotTable} {form part : Form} {diagnostic : Diagnostic}
    (notice : Notice K slots form part diagnostic) : diagnostic.line = some part.line := by
  cases notice <;> rfl

theorem Notice.level {slots : SlotTable} {form part : Form} {diagnostic : Diagnostic}
    (notice : Notice K slots form part diagnostic) : diagnostic.level = .warning := by
  cases notice <;> rfl

/-- What is meant is the form or one of its arguments. -/
theorem Notice.part {slots : SlotTable} {form part : Form} {diagnostic : Diagnostic}
    (notice : Notice K slots form part diagnostic) : part = form ∨ part ∈ form.arguments := by
  have given {clause : Form} (listed : clause ∈ form.clauses) : clause ∈ form.arguments := by
    unfold Form.clauses at listed
    split at listed
    · exact List.mem_of_mem_drop listed
    · exact listed
  cases notice with
  | other => exact .inl rfl
  | rule priority isRule about =>
    cases about with
    | unnamed => exact .inl rfl
    | unconstrained => exact .inl rfl
    | clause listed has => exact .inr (given listed)

/-- **What is reported about some forms** is about one of them. -/
theorem exists_notice {slots : SlotTable} {priority : Nat} {forms : List Form}
    {diagnostic : Diagnostic}
    (reported : diagnostic ∈ (ofForms slots priority forms : Rules K).diagnostics) :
    ∃ form ∈ forms, ∃ part, Notice K slots form part diagnostic := by
  induction forms generalizing priority with
  | nil => cases reported
  | cons form forms ih =>
    have later {place : Nat}
        (reported : diagnostic ∈ (ofForms slots place forms : Rules K).diagnostics) :
        ∃ other ∈ form :: forms, ∃ part, Notice K slots other part diagnostic := by
      obtain ⟨other, listed, notice⟩ := ih reported
      exact ⟨other, List.mem_cons_of_mem _ listed, notice⟩
    cases isRule : form.isRule with
    | true =>
      rw [ofForms_of_isRule isRule] at reported
      rcases List.mem_append.mp reported with here | after
      · obtain ⟨part, fault, about, rfl⟩ := Rule.exists_fault here
        exact ⟨form, List.mem_cons_self, part, .rule priority isRule about⟩
      · exact later after
    | false =>
      rw [ofForms_of_not_isRule isRule] at reported
      rcases List.mem_append.mp reported with here | after
      · obtain ⟨fault, about, rfl⟩ := exists_of_mem_noticesOf isRule here
        exact ⟨form, List.mem_cons_self, form, .other isRule about⟩
      · exact later after

/-- **What is reported about a document** is about one of its tokens, or about a form of it. -/
theorem exists_cause {slots : SlotTable} {text : String} {diagnostic : Diagnostic}
    (reported : diagnostic ∈ (ofText slots text : Rules K).diagnostics) :
    (∃ located ∈ Token.ofCharacters text.toList, WarnsOfFlaw located diagnostic) ∨
      ∃ form ∈ (Forms.ofText text).forms, ∃ part, Notice K slots form part diagnostic :=
  (List.mem_append.mp reported).imp Forms.exists_warnsOfFlaw exists_notice

end Rules

/-- Whether some diagnostics are all warnings. -/
def OnlyWarns (diagnostics : List Diagnostic) : Prop :=
  ∀ diagnostic ∈ diagnostics, diagnostic.level = .warning

variable (K) in
/-- **What is reported about a document is a warning.** -/
theorem Rules.onlyWarns_ofText (slots : SlotTable) (text : String) :
    OnlyWarns (ofText slots text : Rules K).diagnostics := by
  intro diagnostic reported
  rcases exists_cause reported with ⟨located, -, flaw, -, rfl⟩ | ⟨form, -, part, notice⟩
  · rfl
  · exact notice.level

end DesignRules

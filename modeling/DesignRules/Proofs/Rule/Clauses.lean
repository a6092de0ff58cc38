/-
**Reading the clauses of a rule.**

The clauses of a rule are taken up one after the other. Each leaves its mark on the draft of the
rule, whatever stands before and after it.

* `Form.clauses`, `Form.condition?`: the clauses of a rule's form, and the condition that counts.
* `Foreign`, `Unusable`: clauses that no rule can have, and conditions that cannot be used.
* `constraintOf?`, `conditionOf`: what a constraint clause and a condition clause declare.
* `Effect`, `effect_add`: what a clause can be, and what it does.
* `Adds`, `adds_add`: its mark on each part of the draft.
-/

import DesignRules.Rule.Reader

namespace DesignRules

open RuleText (Form Forms)
open Condition (Code Fault SlotTable)

/-! ### Clauses -/

namespace RuleText.Form

/-- Whether a form declares a rule. -/
def isRule (form : Form) : Bool := form.head? == some "rule"

/-- Whether a clause gives a condition. -/
def isCondition (clause : Form) : Bool := clause.head? == some "condition"

/-- The clauses of a rule's form: what follows its name, or its head where it has no name. -/
def clauses (form : Form) : List Form :=
  if form.argument?.isSome then form.arguments.drop 1 else form.arguments

/-- The first clause that gives a condition. -/
def condition? (form : Form) : Option Form := form.clauses.find? isCondition

end RuleText.Form

namespace Rule

variable {K : Type} [Scalar K]

/-- The words with which clauses begin. -/
def clauseWords : List String := ["condition", "constraint", "layer", "severity", "disabled"]

/-- Whether a rule cannot have a clause: a bare atom or a list without a bare head word, a clause
with an unknown head, or a layer clause without an atom. -/
inductive Foreign (clause : Form) : Prop where
  | headless : clause.head? = none → Foreign clause
  | unknown {word : String} : clause.head? = some word → word ∉ clauseWords → Foreign clause
  | layerless : clause.head? = some "layer" → clause.argument? = none → Foreign clause

variable (K) in
/-- Whether a condition clause has no atom, or a text that is not blank and does not compile. -/
inductive Unusable (slots : SlotTable) (clause : Form) : Prop where
  | textless : clause.argument? = none → Unusable slots clause
  | uncompilable {text : String} {fault : Fault} : clause.argument? = some text →
      text.toList.all Text.isBlank = false →
      (Code.ofText slots text : Except Fault (Code K)) = .error fault → Unusable slots clause

/-- The condition of a clause: the code of its text, and none for a blank one. -/
def conditionOf (slots : SlotTable) (clause : Form) : Option (Code K) :=
  clause.argument?.bind fun text =>
    if text.toList.all Text.isBlank then none else (Code.ofText slots text).toOption

/-- A condition clause with an atom cannot be used if its text is not blank and does not compile. -/
theorem unusable_iff {slots : SlotTable} {clause : Form} {text : String}
    (written : clause.argument? = some text) :
    Unusable K slots clause ↔ text.toList.all Text.isBlank = false ∧
      ∃ fault, (Code.ofText slots text : Except Fault (Code K)) = .error fault := by
  constructor
  · rintro (textless | ⟨other, solid, fails⟩)
    · rw [written] at textless
      cases textless
    · rw [written, Option.some.injEq] at other
      subst other
      exact ⟨solid, _, fails⟩
  · rintro ⟨solid, fault, fails⟩
    exact .uncompilable written solid fails

theorem conditionOf_of_written {slots : SlotTable} {clause : Form} {text : String}
    (written : clause.argument? = some text) :
    (conditionOf slots clause : Option (Code K)) =
      if text.toList.all Text.isBlank then none else (Code.ofText slots text).toOption := by
  rw [conditionOf, written]
  rfl

/-- The constraint of a clause, for a rule with a name and a priority; none if the clause is no
constraint clause or not well-formed. -/
def constraintOf? (name : String) (priority : Nat) (clause : Form) : Option (Constraint K) :=
  if clause.head? = some "constraint" then
    (demandOf clause).toOption.map fun demand => ⟨demand.1, demand.2, name, priority⟩
  else none

end Rule

namespace RuleDraft

open Rule

variable {K : Type}

/-- Whether a damaged draft has a warning that names the rule. -/
def Warned (draft : RuleDraft K) : Prop :=
  draft.isBroken = true → ∃ diagnostic ∈ draft.diagnostics,
    diagnostic.level = .warning ∧ diagnostic.rule = some draft.rule.name

theorem Warned.report {draft : RuleDraft K} (warned : draft.Warned) (line : Nat)
    (fault : RuleFault) : (draft.report line fault).Warned := by
  intro broken
  obtain ⟨diagnostic, member, named⟩ := warned broken
  exact ⟨diagnostic, List.mem_append_left _ member, named⟩

theorem warned_damage (draft : RuleDraft K) (line : Nat) (fault : RuleFault) :
    (draft.damage line fault).Warned :=
  fun _ => ⟨_, List.mem_append_right _ (List.mem_singleton_self _), rfl, rfl⟩

variable [Scalar K]

/-- What a clause can be, with the draft after it. -/
inductive Effect (slots : SlotTable) (draft : RuleDraft K) (clause : Form) :
    RuleDraft K → Prop where
  | condition : clause.head? = some "condition" →
      Effect slots draft clause (draft.addCondition slots clause)
  | constraint : clause.head? = some "constraint" →
      Effect slots draft clause (draft.addConstraint clause)
  | layer : clause.head? = some "layer" → Effect slots draft clause (draft.setLayer clause)
  | severity : clause.head? = some "severity" →
      Effect slots draft clause (draft.setSeverity clause)
  | disabled : clause.head? = some "disabled" →
      Effect slots draft clause { draft with rule := { draft.rule with enabled := false } }
  | unknown {word : String} (fault : RuleFault) : clause.head? = some word → word ∉ clauseWords →
      Effect slots draft clause (draft.damage clause.line fault)
  | headless (fault : RuleFault) : clause.head? = none →
      Effect slots draft clause (draft.damage clause.line fault)

/-- **What a clause can be, and what it does.** -/
theorem effect_add (slots : SlotTable) (draft : RuleDraft K) (clause : Form) :
    Effect slots draft clause (draft.add slots clause) := by
  unfold add
  split
  next head => exact .condition head
  next head => exact .constraint head
  next head => exact .layer head
  next head => exact .severity head
  next head => exact .disabled head
  next word notCondition notConstraint notLayer notSeverity notDisabled head =>
    refine .unknown _ head ?_
    simp only [clauseWords, List.mem_cons, List.not_mem_nil, or_false, not_or]
    exact ⟨notCondition, notConstraint, notLayer, notSeverity, notDisabled⟩
  next head => exact .headless _ head

/-! ### The mark of a clause -/

/-- What a clause leaves on a draft. -/
structure Adds (slots : SlotTable) (clause : Form) (before after : RuleDraft K) : Prop where
  name : after.rule.name = before.rule.name
  priority : after.rule.priority = before.rule.priority
  constraints : after.rule.constraints = before.rule.constraints ++
    (constraintOf? before.rule.name before.rule.priority clause).toList
  hasCondition : after.hasCondition = (before.hasCondition || clause.isCondition)
  broken : after.isBroken = true ↔ before.isBroken = true ∨ Foreign clause ∨
    (before.hasCondition = false ∧ clause.isCondition = true ∧ Unusable K slots clause)
  condition : after.isBroken = false → after.rule.condition =
    if before.hasCondition = false ∧ clause.isCondition = true then
      (conditionOf slots clause).or before.rule.condition
    else before.rule.condition
  warned : before.Warned → after.Warned

section Marks

variable {slots : SlotTable} {clause : Form} {draft : RuleDraft K}

theorem not_foreign {word : String} (head : clause.head? = some word) (known : word ∈ clauseWords)
    (noLayer : word = "layer" → clause.argument? ≠ none) : ¬ Foreign clause := by
  intro foreign
  cases foreign with
  | headless none =>
    rw [head] at none
    cases none
  | unknown other unknown =>
    rw [head, Option.some.injEq] at other
    exact unknown (other ▸ known)
  | layerless layer textless =>
    rw [head, Option.some.injEq] at layer
    exact noLayer layer textless

omit [Scalar K] in
theorem isCondition_eq_false (noCondition : clause.head? ≠ some "condition") :
    clause.isCondition = false := by
  rw [RuleText.Form.isCondition]
  exact beq_eq_false_iff_ne.mpr noCondition

/-- A clause that touches neither constraints nor conditions. -/
theorem Adds.of_unchanged {after : RuleDraft K} (noCondition : clause.head? ≠ some "condition")
    (noConstraint : clause.head? ≠ some "constraint") (fit : ¬ Foreign clause)
    (name : after.rule.name = draft.rule.name)
    (priority : after.rule.priority = draft.rule.priority)
    (constraints : after.rule.constraints = draft.rule.constraints)
    (condition : after.rule.condition = draft.rule.condition)
    (hasCondition : after.hasCondition = draft.hasCondition)
    (isBroken : after.isBroken = draft.isBroken) (warned : draft.Warned → after.Warned) :
    Adds slots clause draft after where
  name := name
  priority := priority
  constraints := by
    rw [constraints, constraintOf?, if_neg noConstraint]
    exact (List.append_nil _).symm
  hasCondition := by rw [hasCondition, isCondition_eq_false noCondition, Bool.or_false]
  broken := by simp [isBroken, fit, isCondition_eq_false noCondition]
  condition := fun _ => by simp [condition, isCondition_eq_false noCondition]
  warned := warned

/-- A clause that no rule can have. -/
theorem Adds.of_damage (noCondition : clause.head? ≠ some "condition")
    (noConstraint : clause.head? ≠ some "constraint") (foreign : Foreign clause) (line : Nat)
    (fault : RuleFault) : Adds slots clause draft (draft.damage line fault) where
  name := rfl
  priority := rfl
  constraints := by
    rw [constraintOf?, if_neg noConstraint]
    exact (List.append_nil _).symm
  hasCondition := by
    rw [isCondition_eq_false noCondition, Bool.or_false]
    rfl
  broken := ⟨fun _ => .inr (.inl foreign), fun _ => rfl⟩
  condition := nofun
  warned := fun _ => warned_damage draft line fault

theorem adds_setLayer (head : clause.head? = some "layer") :
    Adds slots clause draft (draft.setLayer clause) := by
  have noCondition : clause.head? ≠ some "condition" := by simp [head]
  have noConstraint : clause.head? ≠ some "constraint" := by simp [head]
  unfold setLayer
  cases written : clause.argument? with
  | none => exact .of_damage noCondition noConstraint (.layerless head written) _ _
  | some pattern =>
    have fit : ¬ Foreign clause := not_foreign head (by decide) fun _ => by simp [written]
    exact .of_unchanged noCondition noConstraint fit rfl rfl rfl rfl rfl rfl id

theorem adds_setSeverity (head : clause.head? = some "severity") :
    Adds slots clause draft (draft.setSeverity clause) := by
  have noCondition : clause.head? ≠ some "condition" := by simp [head]
  have noConstraint : clause.head? ≠ some "constraint" := by simp [head]
  have fit : ¬ Foreign clause := not_foreign head (by decide) fun layer => absurd layer (by decide)
  unfold setSeverity
  cases clause.argument? with
  | none =>
    exact .of_unchanged noCondition noConstraint fit rfl rfl rfl rfl rfl rfl
      fun warned => warned.report _ _
  | some word =>
    dsimp only
    cases Severity.ofWord? word with
    | none =>
      exact .of_unchanged noCondition noConstraint fit rfl rfl rfl rfl rfl rfl
        fun warned => warned.report _ _
    | some severity =>
      exact .of_unchanged noCondition noConstraint fit rfl rfl rfl rfl rfl rfl id

theorem adds_disabled (head : clause.head? = some "disabled") :
    Adds slots clause draft { draft with rule := { draft.rule with enabled := false } } := by
  have fit : ¬ Foreign clause := not_foreign head (by decide) fun layer => absurd layer (by decide)
  exact .of_unchanged (by simp [head]) (by simp [head]) fit rfl rfl rfl rfl rfl rfl id

/-- A constraint clause adds its constraint, or a warning and nothing else. -/
theorem adds_addConstraint (head : clause.head? = some "constraint") :
    Adds slots clause draft (draft.addConstraint clause) := by
  have noCondition : clause.isCondition = false := isCondition_eq_false (by simp [head])
  have fit : ¬ Foreign clause := not_foreign head (by decide) fun layer => absurd layer (by decide)
  have declared : constraintOf? draft.rule.name draft.rule.priority clause =
      (Constraint.ofForm draft.rule clause).toOption := by
    rw [constraintOf?, if_pos head, Constraint.ofForm]
    cases (demandOf clause : Except ConstraintFault (ConstraintKind × Demand K)) <;> rfl
  unfold addConstraint
  cases read : Constraint.ofForm draft.rule clause with
  | ok constraint =>
    refine ⟨rfl, rfl, ?_, ?_, ?_, fun _ => ?_, id⟩
    · rw [declared, read]
      rfl
    · simp [noCondition]
    · simp [fit, noCondition]
    · simp [noCondition]
  | error fault =>
    refine ⟨rfl, rfl, ?_, ?_, ?_, fun _ => ?_, fun warned => warned.report _ _⟩
    · rw [declared, read]
      exact (List.append_nil _).symm
    · simp [noCondition, report]
    · simp [fit, noCondition, report]
    · simp [noCondition, report]

/-- A condition clause that is the first one. -/
theorem Adds.of_first {after : RuleDraft K} (head : clause.head? = some "condition")
    (first : draft.hasCondition = false) (name : after.rule.name = draft.rule.name)
    (priority : after.rule.priority = draft.rule.priority)
    (constraints : after.rule.constraints = draft.rule.constraints)
    (hasCondition : after.hasCondition = true)
    (broken : after.isBroken = true ↔ draft.isBroken = true ∨ Unusable K slots clause)
    (condition : after.isBroken = false →
      after.rule.condition = (conditionOf slots clause).or draft.rule.condition)
    (warned : draft.Warned → after.Warned) : Adds slots clause draft after := by
  have isCondition : clause.isCondition = true := beq_iff_eq.mpr head
  have fit : ¬ Foreign clause := not_foreign head (by decide) fun layer => absurd layer (by decide)
  refine ⟨name, priority, ?_, ?_, ?_, fun whole => ?_, warned⟩
  · rw [constraints, constraintOf?, if_neg (by simp [head])]
    exact (List.append_nil _).symm
  · rw [hasCondition, isCondition, Bool.or_true]
  · simp [broken, fit, first, isCondition]
  · rw [condition whole, if_pos ⟨first, isCondition⟩]

/-- The text of the first condition clause sets the condition, or damages the rule. -/
theorem adds_setCondition (head : clause.head? = some "condition")
    (first : draft.hasCondition = false) {text : String} (written : clause.argument? = some text) :
    Adds slots clause draft
      (setCondition slots { draft with hasCondition := true } clause.line text) := by
  unfold setCondition
  by_cases blank : text.toList.all Text.isBlank = true
  · have usable : ¬ Unusable K slots clause := by simp [unusable_iff written, blank]
    have none : conditionOf slots clause = (none : Option (Code K)) := by
      rw [conditionOf_of_written written, if_pos blank]
    rw [if_pos blank]
    exact .of_first head first rfl rfl rfl rfl (by simp [usable]) (fun _ => by simp [none]) id
  · rw [if_neg blank]
    cases compiled : (Code.ofText slots text : Except Fault (Code K)) with
    | error fault =>
      have unusable : Unusable K slots clause :=
        .uncompilable written (eq_false_of_ne_true blank) compiled
      exact .of_first head first rfl rfl rfl rfl ⟨fun _ => .inr unusable, fun _ => rfl⟩ nofun
        fun _ => warned_damage { draft with hasCondition := true } _ _
    | ok code =>
      have usable : ¬ Unusable K slots clause := by simp [unusable_iff written, compiled]
      have some : conditionOf slots clause = some code := by
        rw [conditionOf_of_written written, if_neg blank, compiled]
        rfl
      exact .of_first head first rfl rfl rfl rfl (by simp [usable]) (fun _ => by simp [some]) id

/-- The first condition clause sets the condition or damages the rule; any later one is ignored. -/
theorem adds_addCondition (head : clause.head? = some "condition") :
    Adds slots clause draft (draft.addCondition slots clause) := by
  unfold addCondition
  cases seen : draft.hasCondition with
  | true =>
    have fit : ¬ Foreign clause :=
      not_foreign head (by decide) fun layer => absurd layer (by decide)
    rw [if_pos rfl]
    refine ⟨rfl, rfl, ?_, ?_, ?_, fun _ => ?_, fun warned => warned.report _ _⟩
    · rw [constraintOf?, if_neg (by simp [head])]
      exact (List.append_nil _).symm
    · simp [seen, report]
    · simp [fit, seen, report]
    · simp [seen, report]
  | false =>
    cases written : clause.argument? with
    | none =>
      exact .of_first head seen rfl rfl rfl rfl
        ⟨fun _ => .inr (.textless written), fun _ => rfl⟩ nofun fun _ => warned_damage _ _ _
    | some text => exact adds_setCondition head seen written

/-- **The mark of a clause.** -/
theorem adds_add (slots : SlotTable) (clause : Form) (draft : RuleDraft K) :
    Adds slots clause draft (draft.add slots clause) := by
  have effect := effect_add slots draft clause
  generalize draft.add slots clause = after at effect ⊢
  cases effect with
  | condition head => exact adds_addCondition head
  | constraint head => exact adds_addConstraint head
  | layer head => exact adds_setLayer head
  | severity head => exact adds_setSeverity head
  | disabled head => exact adds_disabled head
  | unknown fault head unknown =>
    refine .of_damage (fun other => unknown ?_) (fun other => unknown ?_)
      (.unknown head unknown) _ fault
    · rw [head, Option.some.injEq] at other
      simp [clauseWords, other]
    · rw [head, Option.some.injEq] at other
      simp [clauseWords, other]
  | headless fault head =>
    exact .of_damage (by simp [head]) (by simp [head]) (.headless head) _ fault

end Marks

end RuleDraft

end DesignRules

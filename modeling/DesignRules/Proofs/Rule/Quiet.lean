/-
**Documents about which nothing is reported.**

A document is read in silence just if its structure is whole and each of its rules has a name, sound
clauses, at most one condition and a constraint. What such a rule is made of stands in its clauses:
the last layer and the last severity, whether one disables it, and all of its constraints.

* `Rule.argumentOf?`: what clauses of which one argument is read give.
* `Rule.Sound`: clauses that have nothing wrong with them.
* `RuleDraft.declare`: what sound clauses declare, all at once.
* `add_of_sound`, `silent_add_iff`: a clause about which nothing is reported.
* `Rule.IsSilent`, `Rule.ofForm_of_isSilent`: the rule of a form about which nothing is reported.
* `Rules.silent_ofText_iff`: the documents about which nothing is reported.
-/

import DesignRules.Proofs.Rule.Warnings

namespace DesignRules

open Condition (Code Fault SlotTable)
open RuleText (Form Forms)

/-! ### Clauses -/

namespace RuleText.Form

/-- Whether a clause disables the rule. -/
def isDisabled (clause : Form) : Bool := clause.head? == some "disabled"

end RuleText.Form

namespace Rule

/-- The value of the clauses with a word, which is read from their argument. -/
def argumentOf? {α : Type} (word : String) (read : String → Option α) (clause : Form) : Option α :=
  if clause.head? = some word then clause.argument?.bind read else none

/-- The filter that a layer clause gives. -/
def layerOf? (clause : Form) : Option Pattern :=
  if clause.head? = some "layer" then clause.argument?.map Pattern.mk else none

/-- The severity that a severity clause gives. -/
def severityOf? (clause : Form) : Option Severity :=
  if clause.head? = some "severity" then clause.argument?.bind Severity.ofWord? else none

variable {K : Type} [Scalar K]

/-- The code that a condition clause gives. -/
def codeOf? (slots : SlotTable) (clause : Form) : Option (Code K) :=
  if clause.head? = some "condition" then conditionOf slots clause else none

theorem layerOf?_eq : layerOf? = argumentOf? "layer" fun pattern => some ⟨pattern⟩ := by
  funext clause
  rw [layerOf?, argumentOf?, Option.map_eq_bind]
  rfl

theorem severityOf?_eq : severityOf? = argumentOf? "severity" Severity.ofWord? := rfl

theorem codeOf?_eq (slots : SlotTable) :
    (codeOf? slots : Form → Option (Code K)) = argumentOf? "condition" fun text =>
      if text.toList.all Text.isBlank then none else (Code.ofText slots text).toOption := rfl

variable (K) in
/-- Whether nothing is wrong with a clause. -/
inductive Sound (slots : SlotTable) (clause : Form) : Prop where
  | condition : clause.head? = some "condition" → ¬ Unusable K slots clause → Sound slots clause
  | constraint {kind : ConstraintKind} {demand : Demand K} :
      clause.head? = some "constraint" → demandOf clause = .ok (kind, demand) → Sound slots clause
  | layer {pattern : String} : clause.head? = some "layer" → clause.argument? = some pattern →
      Sound slots clause
  | severity {word : String} {severity : Severity} : clause.head? = some "severity" →
      clause.argument? = some word → Severity.ofWord? word = some severity → Sound slots clause
  | disabled : clause.head? = some "disabled" → Sound slots clause

section Sound

variable {slots : SlotTable} {clause : Form} (sound : Sound K slots clause)

include sound

theorem Sound.exists_demand (head : clause.head? = some "constraint") :
    ∃ kind, ∃ demand : Demand K, demandOf clause = .ok (kind, demand) := by
  cases sound with
  | constraint _ demanded => exact ⟨_, _, demanded⟩
  | _ => simp_all

theorem Sound.exists_layerOf? (head : clause.head? = some "layer") :
    ∃ pattern, layerOf? clause = some pattern := by
  cases sound with
  | @layer pattern _ written => exact ⟨⟨pattern⟩, by rw [layerOf?, if_pos head, written]; rfl⟩
  | _ => simp_all

theorem Sound.exists_severityOf? (head : clause.head? = some "severity") :
    ∃ severity, severityOf? clause = some severity := by
  cases sound with
  | severity _ written known =>
    exact ⟨_, by rw [severityOf?, if_pos head, written, Option.bind_some, known]⟩
  | _ => simp_all

end Sound

end Rule

namespace RuleDraft

open Rule

variable {K : Type} [Scalar K]

/-- What sound clauses declare, put into a draft. -/
def declare (slots : SlotTable) (draft : RuleDraft K) (clauses : List Form) : RuleDraft K :=
  { draft with
    hasCondition := draft.hasCondition || clauses.any Form.isCondition
    rule :=
      { draft.rule with
        enabled := draft.rule.enabled && !clauses.any Form.isDisabled
        condition := (clauses.filterMap (codeOf? slots)).getLast?.or draft.rule.condition
        layer := (clauses.filterMap layerOf?).getLast?.or draft.rule.layer
        severity := (clauses.filterMap severityOf?).getLast?.getD draft.rule.severity
        constraints := draft.rule.constraints ++
          clauses.filterMap (constraintOf? draft.rule.name draft.rule.priority) } }

variable {slots : SlotTable} {draft : RuleDraft K}

theorem declare_nil : draft.declare slots [] = draft := by
  simp [declare]

theorem declare_append (front back : List Form) :
    (draft.declare slots front).declare slots back = draft.declare slots (front ++ back) := by
  simp only [declare, List.any_append, List.filterMap_append, List.getLast?_append,
    List.append_assoc, Bool.not_or, Bool.and_assoc, Bool.or_assoc, Option.or_assoc]
  congr 2
  cases (back.filterMap severityOf?).getLast? <;> simp

/-! ### A clause about which nothing is reported -/

/-- A condition clause that can be used sets the condition, unless its text is blank. -/
theorem addCondition_of_usable {clause : Form} (head : clause.head? = some "condition")
    (usable : ¬ Unusable K slots clause) (first : draft.hasCondition = false) :
    draft.addCondition slots clause = draft.declare slots [clause] := by
  cases written : clause.argument? with
  | none => exact absurd (.textless written) usable
  | some text =>
    rw [unusable_iff written] at usable
    have given : codeOf? slots clause = (conditionOf slots clause : Option (Code K)) := if_pos head
    rw [conditionOf_of_written written] at given
    by_cases blank : text.toList.all Text.isBlank = true
    · rw [if_pos blank] at given
      simp [addCondition, setCondition, first, written, blank, declare, Form.isCondition,
        Form.isDisabled, head, given, layerOf?, severityOf?, constraintOf?]
    · rw [if_neg blank] at given
      cases compiled : (Code.ofText slots text : Except Fault (Code K)) with
      | error fault => exact absurd ⟨eq_false_of_ne_true blank, fault, compiled⟩ usable
      | ok code =>
        have given : codeOf? slots clause = some code := by
          rw [given, compiled]
          rfl
        simp [addCondition, setCondition, first, written, blank, declare, Form.isCondition,
          Form.isDisabled, head, given, layerOf?, severityOf?, constraintOf?, compiled]

/-- A sound clause, but for a second condition, just declares something. -/
theorem add_of_sound {clause : Form} (sound : Sound K slots clause)
    (fresh : draft.hasCondition = true → clause.isCondition = false) :
    draft.add slots clause = draft.declare slots [clause] := by
  cases sound with
  | condition head usable =>
    have first : draft.hasCondition = false := by
      refine eq_false_of_ne_true fun seen => ?_
      have other := fresh seen
      rw [Form.isCondition, head] at other
      cases other
    rw [add, head]
    exact addCondition_of_usable head usable first
  | @constraint kind demand head demanded =>
    have read : Constraint.ofForm draft.rule clause =
        .ok ⟨kind, demand, draft.rule.name, draft.rule.priority⟩ := by
      rw [Constraint.ofForm, demanded]
      rfl
    have given : constraintOf? draft.rule.name draft.rule.priority clause =
        some ⟨kind, demand, draft.rule.name, draft.rule.priority⟩ := by
      rw [constraintOf?, if_pos head, demanded]
      rfl
    simp [add, head, addConstraint, read, given, declare, Form.isCondition, Form.isDisabled,
      codeOf?, layerOf?, severityOf?]
  | layer head written =>
    simp [add, head, setLayer, written, declare, Form.isCondition, Form.isDisabled, codeOf?,
      layerOf?, severityOf?, constraintOf?]
  | severity head written known =>
    simp [add, head, setSeverity, written, known, declare, Form.isCondition, Form.isDisabled,
      codeOf?, layerOf?, severityOf?, constraintOf?]
  | disabled head =>
    simp [add, head, declare, Form.isCondition, Form.isDisabled, codeOf?, layerOf?, severityOf?,
      constraintOf?]

omit [Scalar K] in
theorem diagnostics_report_ne_nil (line : Nat) (fault : RuleFault) :
    (draft.report line fault).diagnostics ≠ [] :=
  List.append_ne_nil_of_right_ne_nil _ (List.cons_ne_nil _ _)

/-- A condition clause about which nothing is reported is the first one and can be used. -/
theorem usable_of_silent {clause : Form}
    (silent : (draft.addCondition slots clause).diagnostics = []) :
    draft.hasCondition = false ∧ ¬ Unusable K slots clause := by
  unfold addCondition at silent
  split at silent
  · exact absurd silent (diagnostics_report_ne_nil _ _)
  rename_i first
  refine ⟨eq_false_of_ne_true first, ?_⟩
  split at silent
  · exact absurd silent (diagnostics_report_ne_nil _ _)
  rename_i text written
  rw [unusable_iff written]
  rintro ⟨solid, fault, fails⟩
  unfold setCondition at silent
  rw [solid, if_neg Bool.false_ne_true, fails] at silent
  exact diagnostics_report_ne_nil _ _ silent

/-- A clause with something wrong about it is reported. -/
theorem sound_of_silent {clause : Form} (silent : (draft.add slots clause).diagnostics = []) :
    Sound K slots clause ∧ (draft.hasCondition = true → clause.isCondition = false) := by
  have effect := effect_add slots draft clause
  generalize draft.add slots clause = after at effect silent
  have other {word : String} (head : clause.head? = some word) (different : word ≠ "condition") :
      draft.hasCondition = true → clause.isCondition = false := by
    intro _
    rw [Form.isCondition, head]
    exact beq_eq_false_iff_ne.mpr fun same => different (Option.some.inj same)
  cases effect with
  | condition head =>
    obtain ⟨first, usable⟩ := usable_of_silent silent
    exact ⟨.condition head usable, fun seen => by simp [first] at seen⟩
  | constraint head =>
    refine ⟨?_, other head (by decide)⟩
    unfold addConstraint at silent
    split at silent
    · rename_i constraint read
      obtain ⟨demand, demanded, -⟩ := map_eq_ok_iff.mp read
      exact .constraint head demanded
    · exact absurd silent (diagnostics_report_ne_nil _ _)
  | layer head =>
    refine ⟨?_, other head (by decide)⟩
    unfold setLayer at silent
    split at silent
    · rename_i pattern written
      exact .layer head written
    · exact absurd silent (diagnostics_report_ne_nil _ _)
  | severity head =>
    refine ⟨?_, other head (by decide)⟩
    unfold setSeverity at silent
    split at silent
    · exact absurd silent (diagnostics_report_ne_nil _ _)
    rename_i word written
    split at silent
    · rename_i severity known
      exact .severity head written known
    · exact absurd silent (diagnostics_report_ne_nil _ _)
  | disabled head => exact ⟨.disabled head, other head (by decide)⟩
  | unknown fault => exact absurd silent (diagnostics_report_ne_nil _ _)
  | headless fault => exact absurd silent (diagnostics_report_ne_nil _ _)

/-- **A clause is taken up in silence** if it is sound and no second condition. -/
theorem silent_add_iff {clause : Form} :
    (draft.add slots clause).diagnostics = [] ↔ draft.diagnostics = [] ∧ Sound K slots clause ∧
      (draft.hasCondition = true → clause.isCondition = false) := by
  constructor
  · intro silent
    refine ⟨?_, ?_⟩
    · cases reports_add slots clause draft with
      | nothing same => exact same ▸ silent
      | fault has grown =>
        rw [grown] at silent
        exact absurd silent (List.append_ne_nil_of_right_ne_nil _ (List.cons_ne_nil _ _))
    · exact sound_of_silent silent
  · rintro ⟨empty, sound, fresh⟩
    rw [add_of_sound sound fresh]
    exact empty

/-- **All clauses** are taken up in silence if they are sound and at most one is a condition. -/
theorem silent_foldl_iff {clauses : List Form} :
    (clauses.foldl (add slots) draft).diagnostics = [] ↔
      draft.diagnostics = [] ∧ (∀ clause ∈ clauses, Sound K slots clause) ∧
        (draft.hasCondition = true → ∀ clause ∈ clauses, clause.isCondition = false) ∧
        clauses.Pairwise fun earlier later =>
          earlier.isCondition = true → later.isCondition = false := by
  induction clauses generalizing draft with
  | nil => simp
  | cons clause clauses ih =>
    rw [List.foldl_cons, ih, silent_add_iff, (adds_add slots clause draft).hasCondition,
      List.forall_mem_cons, List.forall_mem_cons, List.pairwise_cons]
    cases draft.hasCondition <;> cases clause.isCondition <;> simp <;> tauto

theorem foldl_add_of_sound {clauses : List Form} (sound : ∀ clause ∈ clauses, Sound K slots clause)
    (fresh : draft.hasCondition = true → ∀ clause ∈ clauses, clause.isCondition = false)
    (single : clauses.Pairwise fun earlier later =>
      earlier.isCondition = true → later.isCondition = false) :
    clauses.foldl (add slots) draft = draft.declare slots clauses := by
  induction clauses generalizing draft with
  | nil => exact declare_nil.symm
  | cons clause clauses ih =>
    obtain ⟨here, later⟩ := List.forall_mem_cons.mp sound
    obtain ⟨alone, single⟩ := List.pairwise_cons.mp single
    have same : draft.add slots clause = draft.declare slots [clause] :=
      add_of_sound here fun seen => fresh seen clause List.mem_cons_self
    rw [List.foldl_cons, ih later _ single, same, declare_append, List.singleton_append]
    intro seen other listed
    rw [(adds_add slots clause draft).hasCondition, Bool.or_eq_true] at seen
    rcases seen with before | isCondition
    · exact fresh before other (List.mem_cons_of_mem _ listed)
    · exact alone other listed isCondition

end RuleDraft

/-! ### Rules -/

namespace Rule

open RuleDraft

variable {K : Type} [Scalar K]

variable (K) in
/-- **Whether nothing is reported about a rule**: it has a name, sound clauses, at most one
condition and a constraint. -/
structure IsSilent (slots : SlotTable) (form : Form) : Prop where
  named : ∃ name, form.argument? = some name
  sound : ∀ clause ∈ form.clauses, Sound K slots clause
  single : form.clauses.Pairwise fun earlier later =>
    earlier.isCondition = true → later.isCondition = false
  constrained : ∃ clause ∈ form.clauses, clause.head? = some "constraint"

variable {slots : SlotTable} {form : Form}

/-- A sound clause declares a constraint if it is a constraint clause. -/
theorem exists_constraintOf?_iff {name : String} {priority : Nat} {clause : Form}
    (sound : Sound K slots clause) :
    (∃ constraint : Constraint K, constraintOf? name priority clause = some constraint) ↔
      clause.head? = some "constraint" := by
  constructor
  · rintro ⟨constraint, given⟩
    by_contra other
    rw [constraintOf?, if_neg other] at given
    cases given
  · intro head
    obtain ⟨kind, demand, demanded⟩ := sound.exists_demand head
    refine ⟨⟨kind, demand, name, priority⟩, ?_⟩
    rw [constraintOf?, if_pos head, demanded]
    rfl

/-- What clauses declare, as a rule. -/
def declared (slots : SlotTable) (name : String) (priority line : Nat) (clauses : List Form) :
    Rule K :=
  (RuleDraft.declare slots { rule := { name, priority, line } } clauses).rule

theorem constraints_declared_ne_nil_iff {clauses : List Form} {name : String}
    {priority line : Nat} (sound : ∀ clause ∈ clauses, Sound K slots clause) :
    (declared slots name priority line clauses : Rule K).constraints ≠ [] ↔
      ∃ clause ∈ clauses, clause.head? = some "constraint" := by
  have all : (declared slots name priority line clauses : Rule K).constraints =
      clauses.filterMap (constraintOf? name priority) := List.nil_append _
  rw [all]
  constructor
  · intro some
    obtain ⟨constraint, member⟩ := List.exists_mem_of_ne_nil _ some
    obtain ⟨clause, listed, given⟩ := List.mem_filterMap.mp member
    exact ⟨clause, listed, (exists_constraintOf?_iff (sound clause listed)).mp ⟨constraint, given⟩⟩
  · rintro ⟨clause, listed, head⟩
    obtain ⟨constraint, given⟩ := (exists_constraintOf?_iff (sound clause listed)).mpr head
    exact List.ne_nil_of_mem (List.mem_filterMap.mpr ⟨clause, listed, given⟩)

omit [Scalar K] in
/-- The draft of a rule before its clauses, where the rule has a name. -/
theorem opening_of_named {name : String} (named : form.argument? = some name) (priority : Nat) :
    (opening priority form : RuleDraft K) = { rule := { name, priority, line := form.line } } := by
  rw [opening, named]
  rfl

omit [Scalar K] in
theorem silent_opening_iff (priority : Nat) :
    (opening priority form : RuleDraft K).diagnostics = [] ↔
      ∃ name, form.argument? = some name := by
  cases named : form.argument? with
  | none =>
    rw [opening, named]
    exact ⟨fun silent => absurd silent (List.cons_ne_nil _ _), nofun⟩
  | some name =>
    rw [opening_of_named named]
    exact ⟨fun _ => ⟨name, rfl⟩, fun _ => rfl⟩

/-- At the end it is reported if there is no constraint. -/
theorem silent_finish_iff (draft : RuleDraft K) :
    draft.finish.diagnostics = [] ↔ draft.diagnostics = [] ∧ draft.rule.constraints ≠ [] := by
  have constraints : draft.sealed.rule.constraints = draft.rule.constraints := by
    rw [← rule_finish]
    exact (finish_frame draft).2.2
  rw [finish_eq, constraints]
  split
  · rename_i empty
    refine ⟨fun silent => absurd silent (diagnostics_report_ne_nil _ _), fun some => ?_⟩
    exact absurd (List.isEmpty_iff.mp empty) some.2
  · rename_i some
    rw [diagnostics_sealed]
    exact (and_iff_left fun empty => some (List.isEmpty_iff.mpr empty)).symm

/-- The draft of a rule with sound clauses. -/
theorem drafted_of_sound {name : String} (named : form.argument? = some name)
    (sound : ∀ clause ∈ form.clauses, Sound K slots clause)
    (single : form.clauses.Pairwise fun earlier later =>
      earlier.isCondition = true → later.isCondition = false) (priority : Nat) :
    (drafted slots priority form : RuleDraft K) =
      RuleDraft.declare slots { rule := { name, priority, line := form.line } } form.clauses := by
  rw [drafted, opening_of_named named]
  exact foldl_add_of_sound sound (fun seen => absurd seen Bool.false_ne_true) single

/-- **Nothing is reported about a rule** just if nothing is wrong with it. -/
theorem silent_ofForm_iff (slots : SlotTable) (priority : Nat) (form : Form) :
    (ofForm slots priority form : Rule K × List Diagnostic).2 = [] ↔ IsSilent K slots form := by
  rw [ofForm_eq, silent_finish_iff]
  constructor
  · rintro ⟨silent, constrained⟩
    obtain ⟨quiet, sound, -, single⟩ := silent_foldl_iff.mp silent
    obtain ⟨name, named⟩ := (silent_opening_iff priority).mp quiet
    rw [drafted_of_sound named sound single] at constrained
    exact ⟨⟨name, named⟩, sound, single, (constraints_declared_ne_nil_iff sound).mp constrained⟩
  · rintro ⟨⟨name, named⟩, sound, single, constrained⟩
    rw [drafted_of_sound named sound single]
    exact ⟨rfl, (constraints_declared_ne_nil_iff sound).mpr constrained⟩

/-- **The rule about which nothing is reported** is what its clauses declare. -/
theorem ofForm_of_isSilent {name : String} (named : form.argument? = some name)
    (silent : IsSilent K slots form) (priority : Nat) :
    (ofForm slots priority form : Rule K × List Diagnostic) =
      (declared slots name priority form.line form.clauses, []) := by
  have nothing := (silent_ofForm_iff slots priority form).mpr silent
  refine Prod.ext ?_ nothing
  rw [ofForm_eq, rule_finish, drafted_of_sound named silent.sound silent.single]
  rfl

end Rule

/-! ### Documents -/

namespace Rules

variable {K : Type} [Scalar K]

variable (K) in
/-- Whether nothing is reported about a form of the top level: it is a rule with nothing wrong, or
names the version that is supported. -/
def FormIsSilent (slots : SlotTable) (form : Form) : Prop :=
  (form.isRule = true ∧ Rule.IsSilent K slots form) ∨
    (form.head? = some "version" ∧ form.argument? = some supportedVersion)

theorem noticesOf_eq_nil_iff {form : Form} :
    noticesOf form = [] ↔ form.head? = some "version" ∧ form.argument? = some supportedVersion := by
  unfold noticesOf
  split
  · rename_i version
    simp [version]
  · rename_i other
    refine ⟨fun silent => absurd silent (List.cons_ne_nil _ _), fun version => ?_⟩
    exact absurd version.1 other

theorem silent_ofForms_iff (slots : SlotTable) (priority : Nat) (forms : List Form) :
    (ofForms slots priority forms : Rules K).diagnostics = [] ↔
      ∀ form ∈ forms, FormIsSilent K slots form := by
  induction forms generalizing priority with
  | nil => exact ⟨fun _ _ => nofun, fun _ => rfl⟩
  | cons form forms ih =>
    rw [List.forall_mem_cons]
    cases isRule : form.isRule with
    | true =>
      have noVersion : ¬ form.head? = some "version" := by
        rw [beq_iff_eq.mp isRule]
        decide
      rw [ofForms_of_isRule isRule, append, List.append_eq_nil_iff, ih, Rule.silent_ofForm_iff,
        FormIsSilent, isRule]
      simp [noVersion]
    | false =>
      rw [ofForms_of_not_isRule isRule, append, List.append_eq_nil_iff, ih, noticesOf_eq_nil_iff,
        FormIsSilent, isRule]
      simp

/-- **Nothing is reported about a document** just if nothing is wrong with its structure and with
any of its forms. -/
theorem silent_ofText_iff (slots : SlotTable) (text : String) :
    (ofText slots text : Rules K).diagnostics = [] ↔
      (Forms.ofText text).diagnostics = [] ∧
        ∀ form ∈ (Forms.ofText text).forms, FormIsSilent K slots form := by
  rw [ofText, List.append_eq_nil_iff, silent_ofForms_iff]

end Rules

end DesignRules

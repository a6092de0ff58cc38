/-
**What rules are silent about.**

Nothing is reported about the surplus of a rule. A document that is read in silence says what it
says without its surplus; with it, it is not used in full.

* `Rule.getLast?_argumentOf?_condensed`: the last value that clauses give.
* `Rule.declared_condensed`, `Rule.ofForm_condensed`: what is left out declares nothing.
* `Rule.isUsedInFull_condensed`, `Rule.isUsedInFull_iff`: which rules are used in full.
* `Rules.silent_document_is_condensed`: the documents about which nothing is reported.
* `Rules.surplus_is_not_reported`: a condition of which one word is read.
-/

import DesignRules.Decimal.Scalar
import DesignRules.Proofs.Rule.Limits
import DesignRules.Proofs.Rule.Quiet

namespace DesignRules

open Condition (Code SlotTable)
open RuleText (Form Forms)
open RuleText.Form

namespace Rule

/-! ### Clauses of which one argument is read -/

section Argument

variable {α : Type} {word : String} {read : String → Option α} {clauses : List Form}
  (noConstraint : word ≠ "constraint") (notDisabled : word ≠ "disabled")

include noConstraint notDisabled

theorem argument?_condensedClause {clause : Form} (head : clause.head? = some word) :
    clause.condensedClause.argument? = clause.argument? := by
  rw [condensedClause_of_other head noConstraint notDisabled, argument?_trimmed head]

theorem argumentOf?_condensedClause (clause : Form) :
    argumentOf? word read clause.condensedClause = argumentOf? word read clause := by
  unfold argumentOf?
  rw [head?_condensedClause]
  split
  next head => rw [argument?_condensedClause noConstraint notDisabled head]
  next => rfl

/-- **The last value stays** if each clause with the word that follows another one has a value. -/
theorem getLast?_argumentOf?_condensed (kept : clauses.Pairwise fun earlier later =>
      earlier.head? = some word → later.head? = some word →
        (argumentOf? word read later).isSome) :
    ((current (clauses.map condensedClause)).filterMap (argumentOf? word read)).getLast? =
      (clauses.filterMap (argumentOf? word read)).getLast? := by
  refine getLast?_current_map word head?_condensedClause
    (argumentOf?_condensedClause noConstraint notDisabled) (fun clause given => ?_) kept
  by_contra other
  rw [argumentOf?, if_neg other] at given
  cases given

/-- So it does if all clauses with the word have a value. -/
theorem getLast?_argumentOf?_condensed_of_given
    (given : ∀ clause ∈ clauses, clause.head? = some word →
      ∃ found, argumentOf? word read clause = some found) :
    ((current (clauses.map condensedClause)).filterMap (argumentOf? word read)).getLast? =
      (clauses.filterMap (argumentOf? word read)).getLast? :=
  getLast?_argumentOf?_condensed noConstraint notDisabled <|
    List.pairwise_of_forall_mem_list fun _ _ later listed _ head =>
      Option.isSome_iff_exists.mpr (given later listed head)

end Argument

/-! ### All clauses -/

variable {K : Type} [Scalar K] {slots : SlotTable} {clause : Form} {clauses : List Form}

omit [Scalar K] in
theorem isDisabled_condensedClause (clause : Form) :
    clause.condensedClause.isDisabled = clause.isDisabled := by
  rw [Form.isDisabled, Form.isDisabled, head?_condensedClause]

omit [Scalar K] in
theorem isCondition_condensedClause (clause : Form) :
    clause.condensedClause.isCondition = clause.isCondition := by
  rw [Form.isCondition, Form.isCondition, head?_condensedClause]

theorem constraintOf?_condensedClause (sound : Sound K slots clause) (name : String)
    (priority : Nat) :
    (constraintOf? name priority clause.condensedClause : Option (Constraint K)) =
      constraintOf? name priority clause := by
  unfold constraintOf?
  rw [head?_condensedClause]
  split
  · rename_i head
    obtain ⟨kind, demand, demanded⟩ := sound.exists_demand head
    rw [demanded, demandOf_condensedClause head demanded]
  · rfl

/-- A sound clause stays sound without its surplus. -/
theorem sound_condensedClause (sound : Sound K slots clause) :
    Sound K slots clause.condensedClause := by
  have head := head?_condensedClause clause
  cases sound with
  | condition begins usable =>
    have argument := argument?_condensedClause (by decide) (by decide) begins
    refine .condition (head.trans begins) fun unusable => usable ?_
    cases unusable with
    | textless none => exact .textless (argument.symm.trans none)
    | uncompilable written solid fails =>
      exact .uncompilable (argument.symm.trans written) solid fails
  | constraint begins demanded =>
    exact .constraint (head.trans begins) (demandOf_condensedClause begins demanded)
  | layer begins written =>
    have argument := argument?_condensedClause (by decide) (by decide) begins
    exact .layer (head.trans begins) (argument.trans written)
  | severity begins written known =>
    have argument := argument?_condensedClause (by decide) (by decide) begins
    exact .severity (head.trans begins) (argument.trans written) known
  | disabled begins => exact .disabled (head.trans begins)

/-- A condition is not replaced, because there is only one. -/
theorem getLast?_codes_condensed (single : clauses.Pairwise fun earlier later =>
      earlier.isCondition = true → later.isCondition = false) :
    ((current (clauses.map condensedClause)).filterMap
        (codeOf? slots : Form → Option (Code K))).getLast? =
      (clauses.filterMap (codeOf? slots)).getLast? := by
  rw [codeOf?_eq]
  refine getLast?_argumentOf?_condensed (by decide) (by decide)
    (single.imp fun {earlier later} other head headLater => ?_)
  have none := other (beq_iff_eq.mpr head)
  rw [Form.isCondition, headLater] at none
  cases none

theorem constraints_condensed (sound : ∀ clause ∈ clauses, Sound K slots clause) (name : String)
    (priority : Nat) :
    (current (clauses.map condensedClause)).filterMap
        (constraintOf? name priority : Form → Option (Constraint K)) =
      clauses.filterMap (constraintOf? name priority) := by
  rw [filterMap_current_map head?_condensedClause fun clause listed =>
    constraintOf?_condensedClause (sound clause listed) name priority]
  refine filterMap_current (List.pairwise_of_forall_mem_list fun earlier _ later _ replaced => ?_)
  obtain ⟨word, noConstraint, begins, -⟩ := isReplacedBy_iff.mp replaced
  exact if_neg fun head => noConstraint (Option.some.inj (begins.symm.trans head))

omit [Scalar K] in
theorem any_isDisabled_condensed (clauses : List Form) :
    (current (clauses.map condensedClause)).any Form.isDisabled =
      clauses.any Form.isDisabled := by
  rw [current_map head?_condensedClause, List.any_map]
  have same : Form.isDisabled ∘ condensedClause = Form.isDisabled :=
    funext isDisabled_condensedClause
  rw [same]
  refine any_current (List.pairwise_of_forall_mem_list fun earlier _ later _ replaced has => ?_)
  obtain ⟨word, -, begins, beginsLater⟩ := isReplacedBy_iff.mp replaced
  exact beq_iff_eq.mpr (beginsLater.trans (begins.symm.trans (beq_iff_eq.mp has)))

/-- **What sound clauses declare** stays if their surplus is left out. -/
theorem declared_condensed (sound : ∀ clause ∈ clauses, Sound K slots clause)
    (single : clauses.Pairwise fun earlier later =>
      earlier.isCondition = true → later.isCondition = false) (name : String)
    (priority line : Nat) :
    (declared slots name priority line (current (clauses.map condensedClause)) : Rule K) =
      declared slots name priority line clauses := by
  have layers := getLast?_argumentOf?_condensed_of_given (by decide) (by decide)
    fun clause listed head => layerOf?_eq ▸ (sound clause listed).exists_layerOf? head
  have severities := getLast?_argumentOf?_condensed_of_given (by decide) (by decide)
    fun clause listed head => severityOf?_eq ▸ (sound clause listed).exists_severityOf? head
  rw [← layerOf?_eq] at layers
  rw [← severityOf?_eq] at severities
  simp only [declared, RuleDraft.declare, any_isDisabled_condensed, getLast?_codes_condensed single,
    layers, severities, constraints_condensed sound]

/-! ### The rule of a form without surplus -/

variable {form : Form}

omit [Scalar K] in
theorem isRule_condensed (form : Form) : form.condensed.isRule = form.isRule := by
  unfold condensed
  split
  · rw [Form.isRule, Form.isRule, head?_withArguments]
  · rfl

omit [Scalar K] in
theorem line_condensed (form : Form) : form.condensed.line = form.line := by
  unfold condensed
  split
  · exact line_withArguments _ _
  · rfl

section Named

variable {name : String} (isRule : form.isRule = true) (named : form.argument? = some name)

include isRule named

omit [Scalar K] in
theorem condensed_of_named :
    ∃ quoted line, form.arguments = .atom name quoted line :: form.clauses ∧
      form.condensed = form.withArguments
        (.atom name quoted line :: current (form.clauses.map condensedClause)) := by
  obtain ⟨quoted, line, rest, arguments⟩ := exists_first named
  have clauses : form.clauses = rest := by
    rw [Form.clauses, named, arguments]
    rfl
  refine ⟨quoted, line, arguments.trans (by rw [clauses]), ?_⟩
  rw [condensed, if_pos isRule, clauses, arguments]
  rfl

omit [Scalar K] in
theorem argument?_condensed : form.condensed.argument? = some name := by
  obtain ⟨quoted, line, -, left⟩ := condensed_of_named isRule named
  rw [Form.argument?, left, arguments_withArguments (beq_iff_eq.mp isRule)]
  rfl

omit [Scalar K] in
theorem clauses_condensed :
    form.condensed.clauses = current (form.clauses.map condensedClause) := by
  obtain ⟨quoted, line, -, left⟩ := condensed_of_named isRule named
  rw [Form.clauses, argument?_condensed isRule named, left,
    arguments_withArguments (beq_iff_eq.mp isRule)]
  rfl

end Named

/-- Nothing is reported about a rule without its surplus, if nothing is reported about it. -/
theorem isSilent_condensed (isRule : form.isRule = true) (silent : IsSilent K slots form) :
    IsSilent K slots form.condensed := by
  obtain ⟨name, named⟩ := silent.named
  have clauses := clauses_condensed isRule named
  have sound : ∀ clause ∈ form.condensed.clauses, Sound K slots clause := by
    intro clause left
    rw [clauses] at left
    obtain ⟨other, listed, rfl⟩ := List.mem_map.mp ((current_sublist _).subset left)
    exact sound_condensedClause (silent.sound other listed)
  refine ⟨⟨name, argument?_condensed isRule named⟩, sound, ?_, ?_⟩
  · rw [clauses]
    refine List.Pairwise.sublist (current_sublist _) (List.pairwise_map.mpr ?_)
    simpa only [isCondition_condensedClause] using silent.single
  · have some : (declared slots name 0 0 form.condensed.clauses : Rule K).constraints ≠ [] := by
      rw [clauses, declared_condensed silent.sound silent.single]
      exact (constraints_declared_ne_nil_iff silent.sound).mpr silent.constrained
    exact (constraints_declared_ne_nil_iff sound).mp some

/-- **A rule about which nothing is reported** is read as it is without its surplus. -/
theorem ofForm_condensed (isRule : form.isRule = true) (silent : IsSilent K slots form)
    (priority : Nat) :
    (ofForm slots priority form.condensed : Rule K × List Diagnostic) =
      ofForm slots priority form := by
  obtain ⟨name, named⟩ := silent.named
  rw [ofForm_of_isSilent named silent,
    ofForm_of_isSilent (argument?_condensed isRule named) (isSilent_condensed isRule silent),
    clauses_condensed isRule named, line_condensed, declared_condensed silent.sound silent.single]

/-! ### Rules that are used in full -/

omit [Scalar K] in
/-- A clause of which one argument is read. -/
theorem isUsedInFull_of_argument {word text : String} (head : clause.head? = some word)
    (noConstraint : word ≠ "constraint") (notDisabled : word ≠ "disabled")
    (written : clause.argument? = some text) : clause.condensedClause.ClauseIsUsedInFull := by
  rw [condensedClause_of_other head noConstraint notDisabled]
  have kept : clause.trimmed.head? = some word := (head?_trimmed clause).trans head
  refine ⟨fun _ _ _ => hasOneAtom_trimmed head written, fun constraint => ?_, fun disabled => ?_⟩
  · exact absurd (Option.some.inj (kept.symm.trans constraint)) noConstraint
  · exact absurd (Option.some.inj (kept.symm.trans disabled)) notDisabled

/-- A constraint clause of which the surplus of the parts is left out. -/
theorem isUsedInFull_of_demand {kind : ConstraintKind} {demand : Demand K}
    (head : clause.head? = some "constraint") (demanded : demandOf clause = .ok (kind, demand)) :
    clause.condensedClause.ClauseIsUsedInFull := by
  obtain ⟨word, quoted, line, parts, arguments, -, given⟩ := exists_parts demanded
  have left := arguments_condensedClause head arguments
  have kept : clause.condensedClause.head? = some "constraint" :=
    (head?_condensedClause clause).trans head
  refine ⟨fun word listed other => ?_, fun _ => ⟨fun part member word _ begins => ?_, ?_⟩,
    fun disabled => ?_⟩
  · rw [Option.some.inj (kept.symm.trans other).symm] at listed
    exact absurd listed (by decide)
  · rw [left] at member
    rcases List.mem_cons.mp member with rfl | member
    · cases begins
    obtain ⟨other, listed, rfl⟩ := List.mem_map.mp ((current_sublist _).subset member)
    rw [head?_trimmed] at begins
    rcases atom_or_isLimit given other listed with ⟨text, written⟩ | ⟨_, _, limit, gives⟩
    · rw [head?_of_atom written] at begins
      cases begins
    · obtain ⟨-, text, written, -⟩ := limitOf?_eq_some_iff.mp gives
      exact hasOneAtom_trimmed begins written
  · rw [left]
    exact List.pairwise_cons.mpr ⟨fun _ _ => rfl, pairwise_current _⟩
  · exact absurd (Option.some.inj (kept.symm.trans disabled)) (by decide)

/-- **Without its surplus a sound clause is used in full.** -/
theorem isUsedInFull_condensedClause (sound : Sound K slots clause) :
    clause.condensedClause.ClauseIsUsedInFull := by
  cases sound with
  | condition head usable =>
    cases written : clause.argument? with
    | none => exact absurd (.textless written) usable
    | some text => exact isUsedInFull_of_argument head (by decide) (by decide) written
  | constraint head demanded => exact isUsedInFull_of_demand head demanded
  | layer head written => exact isUsedInFull_of_argument head (by decide) (by decide) written
  | severity head written => exact isUsedInFull_of_argument head (by decide) (by decide) written
  | disabled head =>
    have kept : clause.condensedClause.head? = some "disabled" :=
      (head?_condensedClause clause).trans head
    refine ⟨fun word listed other => ?_, fun constraint => ?_, fun _ => ?_⟩
    · rw [Option.some.inj (kept.symm.trans other).symm] at listed
      exact absurd listed (by decide)
    · exact absurd (Option.some.inj (kept.symm.trans constraint)) (by decide)
    · rw [condensedClause_of_disabled head, arguments_withArguments head]

/-- The parts of a constraint that are used in full have no surplus. -/
theorem map_trimmed_of_isUsedInFull {kind : ConstraintKind} {demand : Demand K}
    {parts : List Form} (demanded : demandOfParts kind parts = .ok demand)
    (used : ∀ part ∈ parts, ∀ word ∈ limitWords, part.head? = some word → part.HasOneAtom) :
    parts.map trimmed = parts := by
  refine (List.map_congr_left fun part listed => ?_).trans (List.map_id _)
  rcases atom_or_isLimit demanded part listed with ⟨text, written⟩ | ⟨word, known, limit, gives⟩
  · exact trimmed_of_atom written
  · exact trimmed_of_hasOneAtom (used part listed word known (limitOf?_eq_some_iff.mp gives).1)

/-- A sound clause that is used in full has no surplus. -/
theorem condensedClause_of_isUsedInFull (sound : Sound K slots clause)
    (used : clause.ClauseIsUsedInFull) : clause.condensedClause = clause := by
  cases sound with
  | condition head =>
    rw [condensedClause_of_other head (by decide) (by decide)]
    exact trimmed_of_hasOneAtom (used.single _ (by decide) head)
  | layer head =>
    rw [condensedClause_of_other head (by decide) (by decide)]
    exact trimmed_of_hasOneAtom (used.single _ (by decide) head)
  | severity head =>
    rw [condensedClause_of_other head (by decide) (by decide)]
    exact trimmed_of_hasOneAtom (used.single _ (by decide) head)
  | disabled head =>
    rw [condensedClause_of_disabled head, ← used.bare head, withArguments_arguments]
  | constraint head demanded =>
    obtain ⟨word, quoted, line, parts, arguments, -, given⟩ := exists_parts demanded
    obtain ⟨single, once⟩ := used.parts head
    rw [arguments] at single once
    have parted : parts.map trimmed = parts :=
      map_trimmed_of_isUsedInFull given (List.forall_mem_cons.mp single).2
    have all : clause.arguments.take 1 ++ current ((clause.arguments.drop 1).map trimmed) =
        clause.arguments := by
      rw [arguments, List.drop_one, List.tail_cons, parted,
        current_of_pairwise (List.pairwise_cons.mp once).2]
      rfl
    rw [condensedClause_of_constraint head, all, withArguments_arguments]

/-- **Without its surplus a rule is used in full**, if nothing is reported about it. -/
theorem isUsedInFull_condensed (isRule : form.isRule = true) (silent : IsSilent K slots form) :
    form.condensed.IsUsedInFull := by
  obtain ⟨name, named⟩ := silent.named
  have clauses := clauses_condensed isRule named
  constructor
  · intro clause left
    rw [clauses] at left
    obtain ⟨other, listed, rfl⟩ := List.mem_map.mp ((current_sublist _).subset left)
    exact isUsedInFull_condensedClause (silent.sound other listed)
  · rw [clauses]
    exact pairwise_current _

/-- **A rule about which nothing is reported is used in full** just if it has no surplus. -/
theorem isUsedInFull_iff (isRule : form.isRule = true) (silent : IsSilent K slots form) :
    form.IsUsedInFull ↔ form.condensed = form := by
  constructor
  · intro used
    obtain ⟨name, named⟩ := silent.named
    obtain ⟨quoted, line, arguments, left⟩ := condensed_of_named isRule named
    have same : form.clauses.map condensedClause = form.clauses := by
      refine (List.map_congr_left fun clause listed => ?_).trans (List.map_id _)
      exact condensedClause_of_isUsedInFull (silent.sound clause listed)
        (used.clauses clause listed)
    rw [left, same, current_of_pairwise used.once, ← arguments, withArguments_arguments]
  · intro same
    rw [← same]
    exact isUsedInFull_condensed isRule silent

end Rule

/-! ### Documents -/

namespace Rules

variable {K : Type} [Scalar K]

/-- Forms about which nothing is reported are read as they are without their surplus. -/
theorem ofForms_condensed {slots : SlotTable} {forms : List Form}
    (silent : ∀ form ∈ forms, FormIsSilent K slots form) (priority : Nat) :
    (ofForms slots priority (forms.map condensed) : Rules K) = ofForms slots priority forms := by
  induction forms generalizing priority with
  | nil => rfl
  | cons form forms ih =>
    obtain ⟨here, later⟩ := List.forall_mem_cons.mp silent
    rw [List.map_cons]
    rcases here with ⟨isRule, silent⟩ | ⟨version, -⟩
    · rw [ofForms_of_isRule ((Rule.isRule_condensed form).trans isRule), ofForms_of_isRule isRule,
        Rule.ofForm_condensed isRule silent, ih later]
    · have noRule : form.isRule = false := by
        rw [Form.isRule, version]
        decide
      have same : form.condensed = form := by rw [condensed, noRule, if_neg Bool.false_ne_true]
      rw [same, ofForms_of_not_isRule noRule, ofForms_of_not_isRule noRule, ih later]

/-- **Silence about surplus.** Nothing is reported about a document just if its structure is whole
and each form names the supported version or is a rule with a name, sound clauses, at most one
condition and a constraint. Such a document is read as it is without its surplus. Then each rule is
used in full, and so it is with its surplus only if it has none. -/
theorem silent_document_is_condensed (slots : SlotTable) (text : String) :
    let document : Rules K := ofText slots text
    let forms := (Forms.ofText text).forms
    (document.diagnostics = [] ↔
        (Forms.ofText text).diagnostics = [] ∧ ∀ form ∈ forms, FormIsSilent K slots form) ∧
      (document.diagnostics = [] →
        ofForms slots 0 (forms.map condensed) = document ∧
          ∀ form ∈ forms, form.isRule = true →
            form.condensed.IsUsedInFull ∧ (form.IsUsedInFull ↔ form.condensed = form)) := by
  intro document forms
  refine ⟨silent_ofText_iff slots text, fun nothing => ?_⟩
  obtain ⟨whole, silent⟩ := (silent_ofText_iff slots text).mp nothing
  refine ⟨?_, fun form listed isRule => ?_⟩
  · show _ = ofText slots text
    rw [ofForms_condensed silent, ofText, whole, List.nil_append]
  · rcases silent form listed with ⟨-, sound⟩ | ⟨version, -⟩
    · exact ⟨Rule.isUsedInFull_condensed isRule sound, Rule.isUsedInFull_iff isRule sound⟩
    · rw [Form.isRule, version] at isRule
      exact absurd isRule (by decide)

/-- A document whose rule has a condition that is not quoted. -/
def spreadText : String :=
  "(rule wide (condition A.Width > 1mm) (constraint track_width (min 0.2mm)))"

/-- Its condition clause. -/
def spreadCondition : Form :=
  .list [.atom "condition" false 1, .atom "A.Width" false 1, .atom ">" false 1,
    .atom "1mm" false 1] 1

/-- The form of its rule. -/
def spreadForm : Form :=
  .list [.atom "rule" false 1, .atom "wide" false 1, spreadCondition,
    .list [.atom "constraint" false 1, .atom "track_width" false 1,
      .list [.atom "min" false 1, .atom "0.2mm" false 1] 1] 1] 1

theorem forms_spreadText : (Forms.ofText spreadText).forms = [spreadForm] := rfl

theorem silent_spreadText : (ofText .standard spreadText : Rules Float).diagnostics = [] := by
  decide +kernel

theorem not_isUsedInFull_spreadForm : ¬ spreadForm.IsUsedInFull := by
  intro used
  have listed : spreadCondition ∈ spreadForm.clauses := List.mem_cons_self
  obtain ⟨text, quoted, line, arguments⟩ :=
    (used.clauses spreadCondition listed).single "condition" (by decide) rfl
  cases arguments

theorem silent_document_is_condensed_of_spread_condition :
    (ofForms .standard 0 [spreadForm.condensed] : Rules Float) = ofText .standard spreadText ∧
      spreadForm.condensed.IsUsedInFull ∧ spreadForm.condensed ≠ spreadForm := by
  obtain ⟨same, rules⟩ :=
    (silent_document_is_condensed (K := Float) .standard spreadText).2 silent_spreadText
  rw [forms_spreadText] at same rules
  obtain ⟨condensed, full⟩ := rules spreadForm List.mem_cons_self rfl
  exact ⟨same, condensed, fun none => not_isUsedInFull_spreadForm (full.mpr none)⟩

/-- **Surplus is not reported.** Of the condition only its first word is read, and nothing is
reported about the rest. -/
theorem surplus_is_not_reported :
    ¬ ∀ text : String, (ofText .standard text : Rules Float).diagnostics = [] →
        ∀ form ∈ (Forms.ofText text).forms, form.isRule = true → form.IsUsedInFull := by
  intro reported
  have member : spreadForm ∈ (Forms.ofText spreadText).forms := by
    rw [forms_spreadText]
    exact List.mem_cons_self
  exact not_isUsedInFull_spreadForm (reported spreadText silent_spreadText spreadForm member rfl)

end Rules

end DesignRules

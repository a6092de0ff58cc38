/-
**Rules that are read fit together.**

Whatever is wrong with a document, what the catalog and the checks rely on holds of each rule that is
kept: it stands at its priority, and each of its constraints bears its name and demands something
that fits the kind of the constraint. What is reported is about the document or about one of its
rules.

* `Demand.Fits`: the demands that constraints of a kind can have.
* `fits_of_demandOf`: the demand of a constraint clause fits its kind.
* `Constraint.Belongs`, `Rule.belongs_of_mem_constraints`: the constraints of a rule.
* `Rules.rule_of_mem_diagnostics`: what is reported in the name of a rule.
* `Rules.parsed_rules_are_consistent`: all rules and diagnostics of a document.
-/

import DesignRules.Proofs.Catalog.Entries
import DesignRules.Proofs.Length.Grammar
import DesignRules.Proofs.Results
import DesignRules.Proofs.Rule.Areas
import DesignRules.Proofs.Rule.Warnings

namespace DesignRules

open Condition (SlotTable)
open RuleText (Form Forms WarnsOfFlaw)

/-! ### Demands -/

/-- The limits of a bound. -/
def Bound.limits {K : Type} (bound : Bound K) : List K :=
  bound.min.toList ++ bound.opt.toList ++ bound.max.toList

/-- The demands that constraints of a kind can have: those that forbid list words for kinds of
objects, and all others have limits, which are numbers. -/
inductive Demand.Fits (kind : ConstraintKind) : Demand Float → Prop where
  | categories {words : List String} : kind = .disallow → words ≠ [] →
      (∀ word ∈ words, ∃ object : Kind, object.keyword = word) → Fits kind (.categories words)
  | bound {bound : Bound Float} : kind ≠ .disallow → bound.limits ≠ [] →
      (∀ limit ∈ bound.limits, Scalar.isNaN limit = false) → Fits kind (.bound bound)

/-- A word that forbids a kind of objects is the word of that kind. -/
theorem exists_object_of_keywordOf {kind : ConstraintKind} {form : Form} {word : String}
    (read : keywordOf kind form = .ok word) : ∃ object : Kind, object.keyword = word := by
  unfold keywordOf at read
  split at read
  · cases read
  split at read
  · rename_i known
    obtain rfl := Except.ok.inj read
    obtain ⟨object, -, same⟩ := List.mem_map.mp (List.contains_iff_mem.mp known)
    exact ⟨object, same⟩
  · cases read

/-- The words of a constraint that forbids. -/
theorem fits_of_categoryDemand {forms : List Form} {demand : Demand Float}
    (read : categoryDemand .disallow forms = .ok demand) : demand.Fits .disallow := by
  obtain ⟨words, spelled, read⟩ := bind_eq_ok_iff.mp read
  split at read
  · cases read
  · rename_i some
    obtain rfl := Except.ok.inj read
    refine .categories rfl (fun none => some (List.isEmpty_iff.mpr none)) fun word listed => ?_
    obtain ⟨form, -, named⟩ := (mem_mapM_iff spelled).mp listed
    exact exists_object_of_keywordOf named

theorem Quantity.number_length (quantity : Quantity) (bare : LengthUnit) :
    Scalar.isNaN (quantity.length bare : Float) = false :=
  LengthUnit.number_scaled quantity.number.isSigned_value.nearest.number _

/-- **The value of a limit** is a number, however large its digits make it. -/
theorem number_limitValue {kind : ConstraintKind} {text : String} {value : Float}
    (read : limitValue kind text = .ok value) : Scalar.isNaN value = false := by
  cases quantified : Quantity.ofCharacters? text.toList with
  | none =>
    rw [limitValue_of_not_read quantified] at read
    cases read
  | some quantity =>
    rw [limitValue_of_read quantified] at read
    obtain rfl := Except.ok.inj read
    have number := quantity.number_length bareUnit
    split
    · exact LengthUnit.number_scaled number _
    · exact number

/-- One more part of a bound is one more limit. -/
theorem mem_limits_set {K : Type} [Scalar K] {kind : ConstraintKind} {before after : Bound K}
    {part : String} {value limit : K} (set : before.set kind part value = .ok after)
    (listed : limit ∈ after.limits) : limit = value ∨ limit ∈ before.limits := by
  simp only [Bound.limits, List.mem_append, Option.mem_toList] at listed ⊢
  unfold Bound.set at set
  split at set
  · obtain rfl := Except.ok.inj set
    rcases listed with (new | opt) | max
    · exact .inl (Option.some.inj new).symm
    · exact .inr (.inl (.inr opt))
    · exact .inr (.inr max)
  · obtain rfl := Except.ok.inj set
    rcases listed with (min | new) | max
    · exact .inr (.inl (.inl min))
    · exact .inl (Option.some.inj new).symm
    · exact .inr (.inr max)
  · obtain rfl := Except.ok.inj set
    rcases listed with (min | opt) | new
    · exact .inr (.inl (.inl min))
    · exact .inr (.inl (.inr opt))
    · exact .inl (Option.some.inj new).symm
  · cases set

/-- **The limits of a bound** are numbers. -/
theorem numbers_of_foldlM {kind : ConstraintKind} {forms : List Form} {before after : Bound Float}
    (numbers : ∀ limit ∈ before.limits, Scalar.isNaN limit = false)
    (read : forms.foldlM (Bound.add kind) before = .ok after) :
    ∀ limit ∈ after.limits, Scalar.isNaN limit = false := by
  induction forms generalizing before with
  | nil =>
    obtain rfl := Except.ok.inj read
    exact numbers
  | cons form forms ih =>
    rw [List.foldlM_cons] at read
    obtain ⟨middle, added, rest⟩ := bind_eq_ok_iff.mp read
    refine ih (fun limit listed => ?_) rest
    unfold Bound.add at added
    split at added
    · cases added
    split at added
    · cases added
    obtain ⟨value, valued, set⟩ := bind_eq_ok_iff.mp added
    rcases mem_limits_set set listed with rfl | old
    · exact number_limitValue valued
    · exact numbers limit old

theorem limits_eq_nil_iff {K : Type} (bound : Bound K) :
    bound.limits = [] ↔ bound.isEmpty = true := by
  obtain ⟨min, opt, max⟩ := bound
  cases min <;> cases opt <;> cases max <;> simp [Bound.limits, Bound.isEmpty]

theorem fits_of_boundDemand {kind : ConstraintKind} {forms : List Form} {demand : Demand Float}
    (other : kind ≠ .disallow) (read : boundDemand kind forms = .ok demand) : demand.Fits kind := by
  obtain ⟨bound, folded, returned⟩ := bind_eq_ok_iff.mp read
  split at returned
  · cases returned
  · rename_i some
    obtain rfl := Except.ok.inj returned
    exact .bound other (some ∘ (limits_eq_nil_iff bound).mp)
      (numbers_of_foldlM (List.forall_mem_nil _) folded)

/-- **The demand of a constraint clause** fits the kind that the clause names. -/
theorem fits_of_demandOf {form : Form} {kind : ConstraintKind} {demand : Demand Float}
    (read : demandOf form = .ok (kind, demand)) : demand.Fits kind := by
  obtain ⟨named, -, rest⟩ := bind_eq_ok_iff.mp read
  dsimp only at rest
  split at rest
  · rename_i categorical
    obtain rfl : named = .disallow := beq_iff_eq.mp categorical
    obtain ⟨listed, demanded, returned⟩ := bind_eq_ok_iff.mp rest
    obtain ⟨rfl, rfl⟩ := Prod.mk.inj (Except.ok.inj returned)
    exact fits_of_categoryDemand demanded
  · rename_i other
    obtain ⟨bounded, demanded, returned⟩ := bind_eq_ok_iff.mp rest
    obtain ⟨rfl, rfl⟩ := Prod.mk.inj (Except.ok.inj returned)
    exact fits_of_boundDemand (fun same => other (beq_iff_eq.mpr same)) demanded

/-! ### Rules -/

/-- Whether a constraint is one that a rule can have: it bears the name and the priority of the rule,
and its demand fits its kind. -/
structure Constraint.Belongs (constraint : Constraint Float) (rule : Rule Float) : Prop where
  ruleName : constraint.ruleName = rule.name
  rulePriority : constraint.rulePriority = rule.priority
  demand : constraint.demand.Fits constraint.kind

/-- The minimum of a constraint is a number. -/
theorem Constraint.Belongs.number_min {constraint : Constraint Float} {rule : Rule Float}
    (belongs : constraint.Belongs rule) {least : Float} (minimum : constraint.min? = some least) :
    Scalar.isNaN least = false := by
  obtain ⟨bound, bounded, limit⟩ := Option.bind_eq_some_iff.mp minimum
  have demand := belongs.demand
  unfold Constraint.bound? at bounded
  split at bounded
  · rename_i same
    obtain rfl := Option.some.inj bounded
    rw [same] at demand
    cases demand with
    | bound _ _ numbers =>
      refine numbers least ?_
      rw [Bound.limits, limit]
      exact List.mem_cons_self
  · cases bounded

/-- **The constraints of a rule** belong to it. -/
theorem Rule.belongs_of_mem_constraints {slots : SlotTable} {priority : Nat} {form : Form}
    {constraint : Constraint Float}
    (listed : constraint ∈
      (ofForm slots priority form : Rule Float × List Diagnostic).1.constraints) :
    constraint.Belongs (ofForm slots priority form : Rule Float × List Diagnostic).1 := by
  rw [constraints_ofForm] at listed
  obtain ⟨clause, -, declared⟩ := List.mem_filterMap.mp listed
  unfold constraintOf? at declared
  split at declared
  · obtain ⟨⟨kind, demand⟩, demanded, rfl⟩ := Option.map_eq_some_iff.mp declared
    exact ⟨(name_ofForm slots priority form).symm, (priority_ofForm slots priority form).symm,
      fits_of_demandOf (toOption_eq_some_iff.mp demanded)⟩
  · cases declared

namespace Rules

section Documents

variable {K : Type} [Scalar K]

/-- **What is reported in the name of a rule** is reported in that of one of the rules. -/
theorem rule_of_mem_diagnostics {slots : SlotTable} {priority : Nat} {forms : List Form}
    {diagnostic : Diagnostic}
    (reported : diagnostic ∈ (ofForms slots priority forms : Rules K).diagnostics) {name : String}
    (named : diagnostic.rule = some name) :
    ∃ rule ∈ (ofForms slots priority forms : Rules K).rules, rule.name = name := by
  induction forms generalizing priority with
  | nil => cases reported
  | cons form forms ih =>
    cases isRule : form.isRule with
    | true =>
      rw [ofForms_of_isRule isRule] at reported ⊢
      rcases List.mem_append.mp reported with here | after
      · obtain ⟨part, fault, -, rfl⟩ := Rule.exists_fault here
        refine ⟨_, List.mem_cons_self, ?_⟩
        rw [Rule.name_ofForm]
        exact Option.some.inj named
      · obtain ⟨rule, listed, same⟩ := ih after
        exact ⟨rule, List.mem_cons_of_mem _ listed, same⟩
    | false =>
      rw [ofForms_of_not_isRule isRule] at reported ⊢
      rcases List.mem_append.mp reported with here | after
      · obtain ⟨fault, -, rfl⟩ := exists_of_mem_noticesOf isRule here
        cases named
      · exact ih after

theorem isSome_line_of_mem_diagnostics {slots : SlotTable} {text : String} {diagnostic : Diagnostic}
    (reported : diagnostic ∈ (ofText slots text : Rules K).diagnostics) :
    diagnostic.line.isSome = true := by
  rcases exists_cause reported with ⟨located, -, flaw, -, rfl⟩ | ⟨form, -, part, notice⟩
  · rfl
  · rw [notice.line]
    rfl

/-- The rule at a place is that of a form, read at that place. -/
theorem exists_form_of_getElem? {slots : SlotTable} {text : String} {place : Nat} {rule : Rule K}
    (listed : (ofText slots text : Rules K).rules[place]? = some rule) :
    ∃ form, (Rule.ofForm slots place form : Rule K × List Diagnostic).1 = rule := by
  have rules : (ofText slots text : Rules K).rules = _ :=
    rules_ofForms slots 0 (Forms.ofText text).forms
  rw [rules, List.getElem?_mapIdx, Nat.zero_add] at listed
  obtain ⟨form, -, made⟩ := Option.map_eq_some_iff.mp listed
  exact ⟨form, made⟩

end Documents

/-- **The constraints of a document's rules** belong to them. -/
theorem belongs_of_mem {slots : SlotTable} {text : String} {rule : Rule Float}
    (placed : rule ∈ (ofText slots text : Rules Float).rules) {constraint : Constraint Float}
    (listed : constraint ∈ rule.constraints) : constraint.Belongs rule := by
  obtain ⟨place, there⟩ := List.mem_iff_getElem?.mp placed
  obtain ⟨form, rfl⟩ := exists_form_of_getElem? there
  exact Rule.belongs_of_mem_constraints listed

/-- The minima of a document's rules are numbers. -/
theorem number_of_mem_entriesOf {slots : SlotTable} {text : String} {kind : ConstraintKind}
    {entry : Entry Float}
    (counted : entry ∈ Catalog.entriesOf (ofText slots text : Rules Float).rules kind)
    {least : Float} (minimum : entry.constraint.min? = some least) :
    Scalar.isNaN least = false := by
  obtain ⟨placed, -, declared, -⟩ := Catalog.mem_entriesOf_iff.mp counted
  exact (belongs_of_mem placed declared).number_min minimum

/-- **Rules that are read fit together.** On any document and with any slots:

* A rule stands at the place of its priority.
* Its constraints bear its name and its priority, and what they demand fits their kinds.
* Whatever is reported is a warning with a line, and if it is reported in the name of a rule, one of
  the rules has that name. -/
theorem parsed_rules_are_consistent (slots : SlotTable) (text : String) :
    let document : Rules Float := ofText slots text
    (∀ (place : Nat) (rule : Rule Float), document.rules[place]? = some rule →
      rule.priority = place ∧ ∀ constraint ∈ rule.constraints, constraint.Belongs rule) ∧
    ∀ diagnostic ∈ document.diagnostics,
      diagnostic.level = .warning ∧ diagnostic.line.isSome = true ∧
        ∀ name, diagnostic.rule = some name → ∃ rule ∈ document.rules, rule.name = name := by
  intro document
  refine ⟨fun place rule listed => ?_, fun diagnostic reported => ?_⟩
  · obtain ⟨form, rfl⟩ := exists_form_of_getElem? listed
    exact ⟨Rule.priority_ofForm slots place form, fun _ => Rule.belongs_of_mem_constraints⟩
  · refine ⟨onlyWarns_ofText Float slots text diagnostic reported,
      isSome_line_of_mem_diagnostics reported, fun name named => ?_⟩
    rcases List.mem_append.mp reported with flawed | faulty
    · obtain ⟨located, -, flaw, -, rfl⟩ := Forms.exists_warnsOfFlaw flawed
      cases named
    · exact rule_of_mem_diagnostics faulty named

end Rules

end DesignRules

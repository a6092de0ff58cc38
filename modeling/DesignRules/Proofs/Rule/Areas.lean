/-
**The values of limits.**

A limit is a length as the text of its value denotes it. A limit of areas is scaled once more, by the
unit that is written after the number; this unit is found in the text a second time, and it is the
one by which the length was read. So a value is refused only if it denotes no length.

* `areaUnit_of_read`: the unit that is found the second time.
* `limitValue_of_read`, `limitValue_of_not_read`: the value of a limit in terms of what is read.
* `NamesUnits`, `namesUnits_demandOf`: no constraint clause is refused for an unknown unit.
* `limitValue_scaled_by_own_suffix`: the values of limits of all kinds.
-/

import DesignRules.Proofs.Length.Spelling
import DesignRules.Proofs.Results
import DesignRules.Rule.Reader

namespace DesignRules

open Length (Spelling)
open RuleText (Form)

variable {K : Type} [Scalar K]

/-! ### One value -/

section Value

variable {text : String} {quantity : Quantity}

/-- **The unit that is found the second time** is the one that was read, or that of bare numbers. -/
theorem areaUnit_of_read (read : Quantity.ofCharacters? text.toList = some quantity) :
    areaUnit text = .ok (quantity.unit?.getD bareUnit) := by
  obtain ⟨number, -, read⟩ := Option.bind_eq_some_iff.mp read
  obtain ⟨unit?, named, read⟩ := Option.bind_eq_some_iff.mp read
  obtain rfl := Option.some.inj read
  -- the same characters are looked up both times
  unfold Quantity.unitOf? Quantity.suffixOf at named
  unfold areaUnit
  dsimp only
  split at named
  next empty =>
    obtain rfl := Option.some.inj named
    exact if_pos empty
  next written =>
    obtain ⟨unit, found, rfl⟩ := Option.map_eq_some_iff.mp named
    rw [if_neg written, found]
    rfl

/-- **The value of a limit** whose text is read. -/
theorem limitValue_of_read (read : Quantity.ofCharacters? text.toList = some quantity)
    (kind : ConstraintKind) :
    (limitValue kind text : Except ConstraintFault K) =
      .ok (if kind.isArea then quantity.length bareUnit * (quantity.unit?.getD bareUnit).scale
        else quantity.length bareUnit) := by
  rw [limitValue, Length.ofText?_some, read]
  show (if kind.isArea then (areaUnit text).map _ else _) = _
  rw [areaUnit_of_read read]
  split <;> rfl

/-- A text that is not read is no value of a limit. -/
theorem limitValue_of_not_read (unread : Quantity.ofCharacters? text.toList = none)
    (kind : ConstraintKind) :
    (limitValue kind text : Except ConstraintFault K) = .error (.invalidValue text) := by
  rw [limitValue, Length.ofText?_some, unread]
  rfl

/-- A limit that is no area is the length of its text. -/
theorem limitValue_of_length {kind : ConstraintKind} (other : kind.isArea = false) {length : K}
    (denoted : Length.ofText? text (some bareUnit) = some length) :
    limitValue kind text = .ok length := by
  rw [limitValue, denoted]
  exact if_neg (ne_true_of_eq_false other)

end Value

/-! ### Units that are unknown -/

/-- Whether a result is not refused for an unknown unit. -/
def NamesUnits {α : Type} (result : Except ConstraintFault α) : Prop :=
  ∀ suffix, result ≠ .error (.unknownUnit suffix)

namespace NamesUnits

variable {α β : Type}

theorem ok (value : α) : NamesUnits (.ok value) := fun _ => nofun

theorem bind {first : Except ConstraintFault α} {next : α → Except ConstraintFault β}
    (names : NamesUnits first) (later : ∀ value, NamesUnits (next value)) :
    NamesUnits (first >>= next) := by
  cases first with
  | ok value => exact later value
  | error fault => exact fun suffix same => names suffix (congrArg _ (Except.error.inj same))

/-- Steps over a list, each with what came before. -/
theorem foldlM {step : α → Form → Except ConstraintFault α}
    (each : ∀ value form, NamesUnits (step value form)) (forms : List Form) (value : α) :
    NamesUnits (forms.foldlM step value) := by
  induction forms generalizing value with
  | nil => exact .ok value
  | cons form forms ih =>
    rw [List.foldlM_cons]
    exact (each value form).bind ih

/-- Steps over a list, each on its own. -/
theorem mapM {step : Form → Except ConstraintFault α} (each : ∀ form, NamesUnits (step form))
    (forms : List Form) : NamesUnits (forms.mapM step) := by
  induction forms with
  | nil => exact .ok []
  | cons form forms ih =>
    rw [List.mapM_cons]
    exact (each form).bind fun value => ih.bind fun values => .ok (value :: values)

end NamesUnits

theorem namesUnits_limitValue (kind : ConstraintKind) (text : String) :
    NamesUnits (limitValue kind text : Except ConstraintFault K) := by
  cases read : Quantity.ofCharacters? text.toList with
  | none =>
    rw [limitValue_of_not_read read]
    exact fun _ => nofun
  | some quantity =>
    rw [limitValue_of_read read]
    exact .ok _

theorem namesUnits_add (kind : ConstraintKind) (bound : Bound K) (form : Form) :
    NamesUnits (bound.add kind form) := by
  unfold Bound.add
  split
  · exact fun _ => nofun
  split
  · exact fun _ => nofun
  refine (namesUnits_limitValue kind _).bind fun value => ?_
  unfold Bound.set
  split
  · exact .ok _
  · exact .ok _
  · exact .ok _
  · exact fun _ => nofun

theorem namesUnits_boundDemand (kind : ConstraintKind) (forms : List Form) :
    NamesUnits (boundDemand kind forms : Except ConstraintFault (Demand K)) := by
  refine (NamesUnits.foldlM (namesUnits_add kind) forms _).bind fun bound => ?_
  split
  · exact fun _ => nofun
  · exact .ok _

theorem namesUnits_keywordOf (kind : ConstraintKind) (form : Form) :
    NamesUnits (keywordOf kind form) := by
  unfold keywordOf
  split
  · exact fun _ => nofun
  split
  · exact .ok _
  · exact fun _ => nofun

omit [Scalar K] in
theorem namesUnits_categoryDemand (kind : ConstraintKind) (forms : List Form) :
    NamesUnits (categoryDemand kind forms : Except ConstraintFault (Demand K)) := by
  refine (NamesUnits.mapM (namesUnits_keywordOf kind) forms).bind fun words => ?_
  split
  · exact fun _ => nofun
  · exact .ok _

theorem namesUnits_kindOf (form : Form) : NamesUnits (kindOf form) := by
  unfold kindOf
  split
  · exact fun _ => nofun
  split
  · exact .ok _
  · exact fun _ => nofun

variable (K) in
/-- **No constraint clause is refused for an unknown unit**: its values are refused before. -/
theorem namesUnits_demandOf (clause : Form) :
    NamesUnits (demandOf clause : Except ConstraintFault (ConstraintKind × Demand K)) := by
  refine (namesUnits_kindOf clause).bind fun kind => ?_
  dsimp only
  split
  · exact (namesUnits_categoryDemand kind _).bind fun demand => .ok (kind, demand)
  · exact (namesUnits_boundDemand kind _).bind fun demand => .ok (kind, demand)

/-! ### All limits -/

/-- **Areas are scaled once more by the unit that is written.** Of the text of a limit,

* it is an area exactly if it is a length in millimetres;
* no limit of any kind is refused for an unknown unit;
* if it spells a length, it is a number times the size of the unit of its suffix, or of the
  millimetre without one; an area is this length times the size of the same unit, and a limit of any
  other kind is this length;
* if it spells none, it is refused as no value. -/
theorem limitValue_scaled_by_own_suffix (text : String) :
    ((∃ area : K, limitValue .minArea text = .ok area) ↔
      ∃ length : K, Length.ofText? text (some .millimetre) = some length) ∧
    (∀ kind suffix,
      (limitValue kind text : Except ConstraintFault K) ≠ .error (.unknownUnit suffix)) ∧
    (∀ spelling : Spelling, spelling.text = text → ∃ length : K,
      length = spelling.numeral.literal.value * (spelling.unit?.getD .millimetre).scale ∧
      Length.ofText? text (some .millimetre) = some length ∧
      limitValue .minArea text = .ok (length * (spelling.unit?.getD .millimetre).scale) ∧
      ∀ kind, kind ≠ .minArea → limitValue kind text = .ok length) ∧
    ((∀ spelling : Spelling, spelling.text ≠ text) → ∀ kind,
      (limitValue kind text : Except ConstraintFault K) = .error (.invalidValue text)) := by
  have denoted : (Length.ofText? text (some .millimetre) : Option K) =
      (Quantity.ofCharacters? text.toList).map (Quantity.length · .millimetre) :=
    Length.ofText?_some text .millimetre
  refine ⟨?_, fun kind => namesUnits_limitValue kind text, ?_, fun unspelled kind => ?_⟩
  · cases read : Quantity.ofCharacters? text.toList with
    | none =>
      rw [limitValue_of_not_read read, denoted, read]
      simp
    | some quantity =>
      rw [limitValue_of_read read, denoted, read]
      simp
  · rintro spelling rfl
    have read := spelling.ofCharacters?_text
    rw [read] at denoted
    refine ⟨_, rfl, denoted, limitValue_of_read read .minArea, fun kind other => ?_⟩
    exact limitValue_of_length (beq_eq_false_iff_ne.mpr other) denoted
  · cases read : Quantity.ofCharacters? text.toList with
    | none => exact limitValue_of_not_read read kind
    | some quantity =>
      obtain ⟨spelling, spelled⟩ := Length.exists_spelling read
      exact absurd spelled (unspelled spelling)

end DesignRules

/-
**The texts of lengths.**

A length is a decimal number and the suffix of a unit right after it, or none. Nothing else is one:
no exponent, no name of what is infinite or no number, no blank and no letter of another script.

* `LengthUnit.scale_finite`, `LengthUnit.number_scaled`: the sizes of units.
* `IsForeign`, `not_isForeign`: the characters that no length has.
* `ofText?_grammar`: the lengths that texts denote.
-/

import DesignRules.Proofs.Decimal.Literals
import DesignRules.Proofs.Length.Spelling

namespace DesignRules

open Decimal (IsSigned Numeral)

/-- The size of a unit is finite and positive. -/
theorem LengthUnit.scale_finite (unit : LengthUnit) :
    (unit.scale : Float).toModel.unpack.isFinite = true ∧
      Decimal.side (unit.scale : Float) ≠ 0 := by
  cases unit <;> decide +kernel

/-- What is scaled by a unit is still a number. -/
theorem LengthUnit.number_scaled {value : Float} (number : Scalar.isNaN value = false)
    (unit : LengthUnit) : Scalar.isNaN (value * unit.scale) = false :=
  Decimal.number_mul_of_finite number unit.scale_finite.1 unit.scale_finite.2

namespace Length

/-! ### Foreign characters -/

/-- Whether a character is a blank, not ASCII, or a letter of exponents (`e`) or of the names of
what is infinite (`f`) or no number (`a`). -/
def IsForeign (c : Char) : Prop := c ≤ ' ' ∨ 127 < c.toNat ∨ c ∈ ['e', 'E', 'f', 'F', 'a', 'A']

instance : DecidablePred IsForeign := fun c =>
  inferInstanceAs (Decidable (c ≤ ' ' ∨ 127 < c.toNat ∨ c ∈ ['e', 'E', 'f', 'F', 'a', 'A']))

theorem not_isForeign_of_mem_suffixText (unit? : Option LengthUnit) :
    ∀ c ∈ suffixText unit?, ¬ IsForeign c := by
  have all : (suffixText unit?).all (fun c => !decide (IsForeign c)) = true := by
    cases unit? with
    | none => rfl
    | some unit => cases unit <;> decide
  intro c member
  have own := List.all_eq_true.mp all c member
  rw [Bool.not_eq_true', decide_eq_false_iff_not] at own
  exact own

theorem not_isForeign (spelling : Spelling) : ∀ c ∈ spelling.text.toList, ¬ IsForeign c := by
  intro c member
  rw [Spelling.text, String.toList_ofList] at member
  rcases List.mem_append.mp member with number | suffix
  · exact Numeral.forall_mem_text (¬ IsForeign ·) (by decide) (by decide) _ c number
  · exact not_isForeign_of_mem_suffixText spelling.unit? c suffix

/-! ### Lengths -/

/-- **A text that spells a length** denotes the nearest number times the size of its unit. -/
theorem Spelling.exists_ofText?_eq (spelling : Spelling) (bare : LengthUnit) :
    ∃ number : Float,
      IsSigned spelling.numeral.sign.isMinus spelling.numeral.size number ∧
        Length.ofText? spelling.text (some bare) =
          some (number * (spelling.unit?.getD bare).scale) := by
  refine ⟨spelling.numeral.literal.value, spelling.numeral.literal.isSigned_value, ?_⟩
  rw [ofText?_some, spelling.ofCharacters?_text]
  rfl

theorem exists_spelling_of_ofText? {text : String} {bare : Option LengthUnit} {length : Float}
    (read : Length.ofText? text bare = some length) :
    ∃ spelling : Spelling, spelling.text = text := by
  obtain ⟨quantity, quantified, -⟩ := Option.bind_eq_some_iff.mp read
  exact exists_spelling quantified

/-- **Lengths have one grammar.** In whichever unit a bare number is,

* the texts that denote a length are those that spell one: a sign or none, digits with at most one
  point, and the suffix of a unit or none;
* the length is the number nearest to what is spelled, with its sign, times the size of the unit;
* no text with a blank, an exponent, the name of what is infinite or no number, or a character that
  is not ASCII denotes one;
* what is denoted is a number. -/
theorem ofText?_grammar (text : String) (bare : LengthUnit) :
    ((Length.ofText? text (some bare) : Option Float).isSome = true ↔
      ∃ spelling : Spelling, spelling.text = text) ∧
    (∀ spelling : Spelling, spelling.text = text →
      ∃ number : Float, IsSigned spelling.numeral.sign.isMinus spelling.numeral.size number ∧
        Length.ofText? text (some bare) = some (number * (spelling.unit?.getD bare).scale)) ∧
    (∀ c ∈ text.toList, IsForeign c → (Length.ofText? text (some bare) : Option Float) = none) ∧
    ∀ length : Float, Length.ofText? text (some bare) = some length →
      Scalar.isNaN length = false := by
  refine ⟨⟨fun read => ?_, ?_⟩, ?_, fun c member foreign => ?_, fun length read => ?_⟩
  · obtain ⟨length, read⟩ := Option.isSome_iff_exists.mp read
    exact exists_spelling_of_ofText? read
  · rintro ⟨spelling, rfl⟩
    obtain ⟨number, -, read⟩ := spelling.exists_ofText?_eq bare
    rw [read]
    rfl
  · rintro spelling rfl
    exact spelling.exists_ofText?_eq bare
  · by_contra accepted
    obtain ⟨length, read⟩ := Option.ne_none_iff_exists'.mp accepted
    obtain ⟨spelling, rfl⟩ := exists_spelling_of_ofText? read
    exact not_isForeign spelling c member foreign
  · obtain ⟨spelling, rfl⟩ := exists_spelling_of_ofText? read
    obtain ⟨number, signed, named⟩ := spelling.exists_ofText?_eq bare
    obtain rfl := Option.some.inj (named.symm.trans read)
    exact LengthUnit.number_scaled signed.nearest.number _

end Length

end DesignRules

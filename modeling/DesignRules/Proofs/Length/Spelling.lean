/-
**Lengths as texts spell them.**

A length is a decimal number and the suffix of a unit right after it, or none. The number ends at the
first letter, and the suffix is all that follows.

* `Spelling`: a length as a text spells it.
* `ofCharacters?_text_append`: a number with letters after it.
* `Spelling.ofCharacters?_text`, `exists_spelling`: the texts that are read.
* `ofText?_some`, `ofText?_of_unit`: what a text that is read denotes.
-/

import DesignRules.Length
import DesignRules.Proofs.Decimal.Numerals

namespace DesignRules

open Decimal (Numeral)

/-! ### Units -/

namespace LengthUnit

/-- The text of a unit. -/
def suffix : LengthUnit → String
  | .nanometre => "nm"
  | .micrometre => "um"
  | .millimetre => "mm"
  | .mil => "mil"
  | .inch => "in"

/-- What names a unit is its text. -/
theorem eq_suffix_of_ofSuffix? {text : String} {unit : LengthUnit}
    (named : ofSuffix? text = some unit) : text = unit.suffix := by
  have listed : ∀ entry ∈ suffixes, entry.1 = entry.2.suffix := by decide
  obtain ⟨before, after, parts, -⟩ := List.lookup_eq_some_iff.mp named
  refine listed (text, unit) ?_
  rw [parts]
  exact List.mem_append_right _ List.mem_cons_self

end LengthUnit

namespace Length

/-! ### Spellings -/

/-- A length as a text spells it. -/
structure Spelling where
  numeral : Numeral
  unit? : Option LengthUnit

/-- The text of a unit, if there is one. -/
def suffixText : Option LengthUnit → List Char
  | none => []
  | some unit => unit.suffix.toList

/-- The text that spells a length. -/
def Spelling.text (spelling : Spelling) : String :=
  String.ofList (spelling.numeral.text ++ suffixText spelling.unit?)

theorem not_isUnitLetter_of_mem_text (numeral : Numeral) :
    ∀ c ∈ numeral.text, (!isUnitLetter c) = true :=
  Numeral.forall_mem_text (fun c => (!isUnitLetter c) = true) (by decide) (by decide) numeral

theorem isUnitLetter_head_suffixText (unit? : Option LengthUnit) :
    ∀ c ∈ (suffixText unit?).head?, isUnitLetter c = true := by
  have all : (suffixText unit?).head?.all isUnitLetter = true := by
    cases unit? with
    | none => rfl
    | some unit => cases unit <;> decide
  exact fun c first => (Option.all_eq_true _ _).mp all c first

section Suffix

variable (numeral : Numeral) {suffix : List Char}
  (starts : ∀ c ∈ suffix.head?, isUnitLetter c = true)

include starts

/-- The number ends where the suffix starts. -/
theorem numberOf_suffixOf :
    Quantity.numberOf (numeral.text ++ suffix) = numeral.text ∧
      Quantity.suffixOf (numeral.text ++ suffix) = suffix := by
  have kept : suffix.takeWhile (fun c => !isUnitLetter c) = [] ∧
      suffix.dropWhile (fun c => !isUnitLetter c) = suffix := by
    cases suffix with
    | nil => exact ⟨rfl, rfl⟩
    | cons c others =>
      have letter : ¬ (!isUnitLetter c) = true := by
        rw [starts c rfl]
        exact Bool.false_ne_true
      exact ⟨List.takeWhile_cons_of_neg letter, List.dropWhile_cons_of_neg letter⟩
  unfold Quantity.numberOf Quantity.suffixOf
  rw [List.takeWhile_append_of_pos (not_isUnitLetter_of_mem_text numeral),
    List.dropWhile_append_of_pos (not_isUnitLetter_of_mem_text numeral), kept.1, kept.2,
    List.append_nil]
  exact ⟨rfl, rfl⟩

/-- **A number with letters after it** is read if the letters name a unit or are none. -/
theorem ofCharacters?_text_append :
    Quantity.ofCharacters? (numeral.text ++ suffix) =
      (Quantity.unitOf? suffix).map (Quantity.mk numeral.literal) := by
  obtain ⟨number, rest⟩ := numberOf_suffixOf numeral starts
  unfold Quantity.ofCharacters?
  rw [number, rest, Numeral.ofCharacters?_text]
  cases Quantity.unitOf? suffix <;> rfl

end Suffix

theorem unitOf?_suffixText (unit? : Option LengthUnit) :
    Quantity.unitOf? (suffixText unit?) = some unit? := by
  cases unit? with
  | none => rfl
  | some unit => cases unit <;> decide

theorem eq_suffixText_of_unitOf? {suffix : List Char} {unit? : Option LengthUnit}
    (named : Quantity.unitOf? suffix = some unit?) : suffix = suffixText unit? := by
  unfold Quantity.unitOf? at named
  split at named
  · rename_i empty
    rw [← Option.some.inj named, List.isEmpty_iff.mp empty]
    rfl
  · obtain ⟨unit, found, rfl⟩ := Option.map_eq_some_iff.mp named
    show suffix = unit.suffix.toList
    rw [← LengthUnit.eq_suffix_of_ofSuffix? found, String.toList_ofList]

/-- **A text that spells a length** is read as its number and its unit. -/
theorem Spelling.ofCharacters?_text (spelling : Spelling) :
    Quantity.ofCharacters? spelling.text.toList =
      some ⟨spelling.numeral.literal, spelling.unit?⟩ := by
  rw [Spelling.text, String.toList_ofList,
    ofCharacters?_text_append _ (isUnitLetter_head_suffixText _), unitOf?_suffixText]
  rfl

/-- **A text that is read** spells a length. -/
theorem exists_spelling {text : String} {quantity : Quantity}
    (read : Quantity.ofCharacters? text.toList = some quantity) :
    ∃ spelling : Spelling, spelling.text = text := by
  unfold Quantity.ofCharacters? at read
  obtain ⟨number, numbered, read⟩ := Option.bind_eq_some_iff.mp read
  obtain ⟨unit?, named, -⟩ := Option.bind_eq_some_iff.mp read
  obtain ⟨numeral, spelled⟩ := Decimal.exists_numeral numbered
  refine ⟨⟨numeral, unit?⟩, ?_⟩
  have parts : Quantity.numberOf text.toList ++ Quantity.suffixOf text.toList = text.toList :=
    List.takeWhile_append_dropWhile
  rw [Spelling.text, spelled, ← eq_suffixText_of_unitOf? named, parts, String.ofList_toList]

/-! ### What is denoted -/

/-- **What a text denotes** is the length of what is read. -/
theorem ofText?_some {K : Type} [Scalar K] (text : String) (bare : LengthUnit) :
    (Length.ofText? text (some bare) : Option K) =
      (Quantity.ofCharacters? text.toList).map (Quantity.length · bare) := by
  unfold Length.ofText?
  cases Quantity.ofCharacters? text.toList with
  | none => rfl
  | some quantity =>
    obtain ⟨number, unit?⟩ := quantity
    cases unit? <;> rfl

/-- A text that names a unit denotes one length, in whichever unit a bare number is. -/
theorem ofText?_of_unit {K : Type} [Scalar K] {text : String} {quantity : Quantity}
    (read : Quantity.ofCharacters? text.toList = some quantity) {unit : LengthUnit}
    (named : quantity.unit? = some unit) (bare : Option LengthUnit) (other : LengthUnit) :
    Length.ofText? text bare = some (quantity.length other : K) := by
  obtain ⟨number, unit?⟩ := quantity
  obtain rfl : unit? = some unit := named
  unfold Length.ofText?
  rw [read]
  rfl

end Length

end DesignRules

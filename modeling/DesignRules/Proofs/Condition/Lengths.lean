/-
**The numbers of a condition are lengths.**

A number of a condition and a length of a rule are read from the same text in two ways, and they are
the same. So a number has the value of its text wherever it stands, and it is refused only if its
letters name no unit.

* `exists_alone_of_scan`, `isNumber_iff_of_scan`: the tokens that are numbers.
* `ComesUpon`, `unknownUnit_iff`: the numbers that are refused.
* `numbers_are_lengths`: the numbers of a text.
-/

import DesignRules.Proofs.Condition.Lossless
import DesignRules.Proofs.Rule.Areas

namespace DesignRules.Condition

open Decimal (Numeral exists_digit)
open Text (isBlank width)

/-! ### One number -/

section Scanned

variable {offset count : Nat} {c : Char} {rest : List Char}

/-- A number starts with no blank and no quote. -/
theorem solid_of_startsNumber (starts : startsNumber (c :: rest) = true) :
    isBlank c = false ∧ ¬ (c = '\'' ∨ c = '"') := by
  rw [startsNumber_cons] at starts
  split at starts
  next point =>
    subst point
    decide
  next =>
    obtain ⟨digit, rfl⟩ := exists_digit starts
    revert digit
    decide

/-- Where a number starts, the token is a number. -/
theorem scan_of_startsNumber (starts : startsNumber (c :: rest) = true) :
    scan offset c rest = scanNumber offset (c :: rest) := by
  rw [scan, if_neg (solid_of_startsNumber starts).2, if_pos starts]

/-- **A number is the length that its own text denotes.** -/
theorem exists_alone_of_scan {quantity : Quantity}
    (scanned : scan offset c rest = .ok (.number quantity, count)) :
    ∃ numeral letters, c :: rest.take count = numeral.text ++ (letters ++ []) ∧
      StandsBefore numeral letters [] ∧
      Quantity.ofCharacters? (c :: rest.take count) = some quantity := by
  rcases scan_eq_ok scanned with ⟨_, -, other⟩ | ⟨numeral, letters, after, read, whole, stands,
    known, same, counted⟩ | ⟨-, other, -⟩ | marked
  · cases other
  · obtain rfl := Token.number.inj same
    rw [take_count_eq whole counted]
    exact ⟨numeral, letters, by rw [List.append_nil], stands.alone, known⟩
  · cases other
  · unfold mark? at marked
    split at marked <;> cases marked

/-- **The tokens that are numbers** are those that start like one. -/
theorem isNumber_iff_of_scan {token : Token} (scanned : scan offset c rest = .ok (token, count)) :
    startsNumber (c :: rest.take count) = true ↔ ∃ quantity, token = .number quantity := by
  constructor
  · intro starts
    have own := scan_own scanned
    rw [scan_of_startsNumber starts] at own
    obtain ⟨-, -, -, quantity, -, -, -, number, -⟩ := exists_standsBefore_of_scanNumber starts own
    exact ⟨quantity, number⟩
  · rintro ⟨quantity, rfl⟩
    obtain ⟨numeral, letters, covered, alone, -⟩ := exists_alone_of_scan scanned
    rw [covered]
    exact alone.starts_append

end Scanned

/-! ### All numbers of a text -/

/-- Whether the tokens of a text lead to a number with its letters at a byte. -/
def ComesUpon (text : String) (place : Nat) (numeral : Numeral) (letters : List Char) : Prop :=
  ∃ before rest,
    LexedUpTo 0 text.toList before place (numeral.text ++ (letters ++ rest)) ∧
      StandsBefore numeral letters rest

/-- **A number whose own text denotes no length** is the fault of the text. -/
theorem unknownUnit_iff {text : String} {fault : Fault} :
    lexemes text = .error fault ∧ fault.cause = .unknownUnit ↔
      ∃ place numeral letters, ComesUpon text place numeral letters ∧
        Quantity.ofCharacters? (numeral.text ++ letters) = none ∧
        fault = ⟨.unknownUnit, place + width numeral.text, String.ofList letters⟩ := by
  constructor
  · rintro ⟨failed, unknown⟩
    obtain ⟨before, place, c, rest, read, -, scanned⟩ := lexemesFrom_eq_error_iff.mp failed
    rcases scan_eq_error scanned with rfl | ⟨numeral, letters, after, whole, stands, none⟩ | rfl
    · cases unknown
    · exact ⟨place, numeral, letters, ⟨before, after, whole ▸ read, stands⟩, none⟩
    · cases unknown
  · rintro ⟨place, numeral, letters, ⟨before, rest, read, stands⟩, none, rfl⟩
    refine ⟨lexemesFrom_eq_error_iff.mpr ?_, rfl⟩
    -- the text of a number has a first character, from which the token is read
    have starts := stands.starts_append
    have scanned := stands.scanNumber_eq place
    rw [none] at scanned
    generalize numeral.text ++ (letters ++ rest) = characters at read starts scanned
    cases characters with
    | nil => cases starts
    | cons c after =>
      exact ⟨before, place, c, after, read, (solid_of_startsNumber starts).1,
        (scan_of_startsNumber starts).trans scanned⟩

variable {K : Type} [Scalar K]

/-- **The numbers of a condition are the lengths that their texts denote.** Of any text,

* it is not refused for a number that cannot be read: wherever its tokens lead to the start of a
  number, what is taken for one has no sign, and digits after its point if it has one;
* if it has tokens, the numbers among them are those that start like one. The code of a number
  pushes the length that its own text denotes in nanometres; if the text names a unit, this is the
  length that it denotes in whichever unit, and the limit that it is in a rule, unless of areas;
* it is refused for an unknown unit exactly if its tokens lead to a number whose own text denotes no
  length. The fault is then at the letters after the digits. -/
theorem numbers_are_lengths (text : String) :
    (∀ fault, lexemes text = .error fault → fault.cause ≠ .invalidNumber) ∧
    (∀ before place rest, LexedUpTo 0 text.toList before place rest → startsNumber rest = true →
      ∃ numeral tail, EndsBefore numeral tail ∧ splitNumber rest = (numeral.text, tail)) ∧
    (∀ all, lexemes text = .ok all → ∀ lexeme ∈ all,
      (startsNumber lexeme.text.toList = true ↔ ∃ quantity, lexeme.token = .number quantity) ∧
      ∀ quantity, lexeme.token = .number quantity → ∃ length : K,
        (∀ slots, (Expression.number quantity).instructions slots = .ok [.push (.number length)]) ∧
        Length.ofText? lexeme.text (some .nanometre) = some length ∧
        ∀ unit, quantity.unit? = some unit →
          (∀ bare, Length.ofText? lexeme.text bare = some length) ∧
          ∀ kind, kind ≠ .minArea → limitValue kind lexeme.text = .ok length) ∧
    ∀ fault, lexemes text = .error fault ∧ fault.cause = .unknownUnit ↔
      ∃ place numeral letters, ComesUpon text place numeral letters ∧
        (Length.ofText? (String.ofList (numeral.text ++ letters)) (some .nanometre) : Option K) =
          none ∧
        fault = ⟨.unknownUnit, place + width numeral.text, String.ofList letters⟩ := by
  refine ⟨fun fault failed => ?_, fun _ _ rest _ starts => ?_, fun all read lexeme member => ?_,
    fun fault => ?_⟩
  · obtain ⟨before, place, c, rest, -, -, scanned⟩ := lexemesFrom_eq_error_iff.mp failed
    rcases scan_eq_error scanned with rfl | ⟨_, _, _, -, -, -, rfl⟩ | rfl
    all_goals exact nofun
  · obtain ⟨numeral, tail, rfl, ends⟩ := exists_endsBefore starts
    exact ⟨numeral, tail, ends, ends.splitNumber_eq⟩
  · obtain ⟨others, lexed, rfl⟩ := lexemesFrom_eq_ok_iff.mp read
    rcases List.mem_append.mp member with member | last
    · obtain ⟨before, c, rest, count, -, -, scanned, spelled⟩ := lexed.exists_scan member
      refine ⟨?_, fun quantity number => ?_⟩
      · rw [spelled, String.toList_ofList]
        exact isNumber_iff_of_scan scanned
      rw [number] at scanned
      have known : Quantity.ofCharacters? lexeme.text.toList = some quantity := by
        obtain ⟨-, -, -, -, known⟩ := exists_alone_of_scan scanned
        rw [spelled, String.toList_ofList, known]
      refine ⟨quantity.length .nanometre, fun _ => rfl, ?_, fun unit named => ?_⟩
      · rw [Length.ofText?_some, known]
        rfl
      · have denoted (bare : Option LengthUnit) :
            Length.ofText? lexeme.text bare = some (quantity.length .nanometre : K) :=
          Length.ofText?_of_unit known named bare .nanometre
        exact ⟨denoted, fun kind other =>
          limitValue_of_length (beq_eq_false_iff_ne.mpr other) (denoted _)⟩
    -- the end of the text has no characters and is no number
    · obtain rfl := List.mem_singleton.mp last
      exact ⟨⟨nofun, nofun⟩, nofun⟩
  · simp only [Length.ofText?_some, Option.map_eq_none_iff, String.toList_ofList]
    exact unknownUnit_iff

/-- A number may start with a point and does not end with one. -/
example : (lexemes ".5mm+1.mil").toOption.map (·.map Lexeme.spelling) =
    some [(.number ⟨⟨false, 5, 1⟩, some .millimetre⟩, ".5mm"), (.plus, "+"),
      (.number ⟨⟨false, 1, 0⟩, none⟩, "1"), (.dot, "."), (.word "mil", "mil"), (.finish, "")] := by
  decide +kernel

end DesignRules.Condition

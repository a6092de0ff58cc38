/-
**Numbers are read back as they are written.**

* `Number.WellFormed`: the numbers that the grammar allows.
* `Reader.whole?_append`, `Reader.fraction?_append`, `Reader.exponent?_append`: its parts.
* `Reader.number?_characters`: such a number is read back whole, whatever follows it that cannot be
  a part of it.
* `Number.wellFormed_ofNat`, `Number.wellFormed_ofFloat?`: the numbers that are written are such.
-/

import DesignRules.Json.Reader
import DesignRules.Proofs.Decimal.Digits
import Mathlib.Data.List.TakeDrop

namespace DesignRules.Json

open Decimal (isDigit digitsOf digitsValue)

/-! ### Numbers of the grammar -/

/-- Whether a number has digits only, at least one of them before the point, and no zero before
others. -/
structure Number.WellFormed (literal : Number) : Prop where
  whole : literal.whole = ['0'] ∨ literal.whole ≠ [] ∧ literal.whole.head? ≠ some '0'
  digits : ∀ c ∈ literal.whole, isDigit c = true
  fraction : ∀ c ∈ literal.fraction, isDigit c = true

/-- A well-formed number has a digit before the point. -/
theorem Number.WellFormed.exists_digit {literal : Number} (wellFormed : literal.WellFormed) :
    ∃ digit others, literal.whole = digit :: others ∧ isDigit digit = true := by
  have some_digit : literal.whole ≠ [] := by
    rcases wellFormed.whole with zero | ⟨some_digit, -⟩
    · rw [zero]
      exact List.cons_ne_nil _ _
    · exact some_digit
  obtain ⟨digit, others, whole⟩ := List.exists_cons_of_ne_nil some_digit
  exact ⟨digit, others, whole, wellFormed.digits digit (whole ▸ List.mem_cons_self)⟩

/-- The text of a fraction, if there is one. -/
def fractionText (fraction : List Char) : List Char :=
  if fraction.isEmpty then [] else '.' :: fraction

/-- The text of an exponent, if there is one. -/
def exponentText (exponent : Option Int) : List Char :=
  match exponent with
  | none => []
  | some exponent => Number.exponentCharacters exponent

/-- The parts of the text of a number, before any other text. -/
theorem Number.characters_append (literal : Number) (rest : List Char) :
    literal.characters ++ rest =
      (if literal.negative then ['-'] else []) ++ (literal.whole ++
        (fractionText literal.fraction ++ (exponentText literal.exponent ++ rest))) := by
  have parts : literal.characters = (if literal.negative then ['-'] else []) ++ literal.whole ++
      fractionText literal.fraction ++ exponentText literal.exponent := rfl
  rw [parts, List.append_assoc, List.append_assoc, List.append_assoc]

/-- Whether a character can be no part of a number. -/
def endsNumber (c : Char) : Bool := !isDigit c && c != '.' && c != 'e' && c != 'E'

/-- Whether a text does not go on with a number. -/
def EndsNumber (rest : List Char) : Prop := ∀ c, rest.head? = some c → endsNumber c = true

theorem endsNumber_cons {c : Char} (ends : endsNumber c = true) (rest : List Char) :
    EndsNumber (c :: rest) := by
  intro first head
  rw [← Option.some.inj head]
  exact ends

namespace Reader

/-- Digits are read up to the first character that is none. -/
theorem digits?_append {digits rest : List Char} (some_digit : digits ≠ [])
    (all : ∀ c ∈ digits, isDigit c = true) (ends : ∀ c, rest.head? = some c → isDigit c = false) :
    digits? (digits ++ rest) = some (digits, rest) := by
  have taken : rest.takeWhile isDigit = [] := by
    cases rest with
    | nil => rfl
    | cons c rest => exact List.takeWhile_cons_of_neg (ne_true_of_eq_false (ends c rfl))
  have dropped : rest.dropWhile isDigit = rest := by
    cases rest with
    | nil => rfl
    | cons c rest => exact List.dropWhile_cons_of_neg (ne_true_of_eq_false (ends c rfl))
  have parts : (digits ++ rest).span isDigit = (digits, rest) := by
    rw [List.span_eq_takeWhile_dropWhile, List.takeWhile_append_of_pos all,
      List.dropWhile_append_of_pos all, taken, dropped, List.append_nil]
  unfold digits?
  rw [parts]
  cases digits with
  | nil => exact absurd rfl some_digit
  | cons digit digits => rfl

section Parts

variable {rest : List Char}

theorem whole?_append {literal : Number} (wellFormed : literal.WellFormed)
    (ends : ∀ c, rest.head? = some c → isDigit c = false) :
    whole? (literal.whole ++ rest) = some (literal.whole, rest) := by
  rcases wellFormed.whole with zero | ⟨some_digit, noZero⟩
  · rw [zero]
    cases rest with
    | nil => rfl
    | cons next rest =>
      show (if isDigit next then none else some (['0'], next :: rest)) = _
      rw [if_neg (ne_true_of_eq_false (ends next rfl))]
  · have digits := digits?_append some_digit wellFormed.digits ends
    cases whole : literal.whole with
    | nil => exact absurd whole some_digit
    | cons first others =>
      rw [whole] at digits noZero
      unfold whole?
      split
      · rename_i same
        exact absurd (congrArg List.head? same) noZero
      · exact digits

theorem fraction?_append {literal : Number} (wellFormed : literal.WellFormed)
    (ends : ∀ c, rest.head? = some c → isDigit c = false) (noPoint : rest.head? ≠ some '.') :
    fraction? (fractionText literal.fraction ++ rest) = some (literal.fraction, rest) := by
  cases fraction : literal.fraction with
  | nil =>
    show fraction? rest = _
    unfold fraction?
    split
    · exact absurd rfl noPoint
    · rfl
  | cons first others =>
    have all := wellFormed.fraction
    rw [fraction] at all
    exact digits?_append (List.cons_ne_nil first others) all ends

theorem exponent?_append (ends : EndsNumber rest) (exponent : Option Int) :
    exponent? (exponentText exponent ++ rest) = some (exponent, rest) := by
  have after : ∀ c, rest.head? = some c → isDigit c = false := by
    intro c head
    have ended := ends c head
    simp only [endsNumber, Bool.and_eq_true, Bool.not_eq_true'] at ended
    exact ended.1.1.1
  have read (n : Nat) : digits? (digitsOf n ++ rest) = some (digitsOf n, rest) :=
    digits?_append (Decimal.digitsOf_ne_nil n) (fun _ => Decimal.isDigit_of_mem_digitsOf) after
  cases exponent with
  | none =>
    show exponent? rest = _
    cases rest with
    | nil => rfl
    | cons c rest =>
      have ended := ends c rfl
      simp only [endsNumber, Bool.and_eq_true, bne_iff_ne] at ended
      exact if_neg (not_or.mpr ⟨ended.1.2, ended.2⟩)
  | some exponent =>
    cases exponent with
    | ofNat n =>
      show (digits? (digitsOf n ++ rest)).map _ = _
      rw [read, Option.map_some]
      simp [Decimal.digitsValue_digitsOf]
    | negSucc n =>
      show (digits? (digitsOf (n + 1) ++ rest)).map _ = _
      rw [read, Option.map_some]
      simp only [Decimal.digitsValue_digitsOf, if_true]
      rfl

end Parts

/-- What follows the digits of a number is neither a digit nor a point. -/
theorem no_digit_after {rest : List Char} (ends : EndsNumber rest) (exponent : Option Int) :
    ∀ c, (exponentText exponent ++ rest).head? = some c → isDigit c = false ∧ c ≠ '.' := by
  intro c head
  cases exponent with
  | none =>
    have ended := ends c head
    simp only [endsNumber, Bool.and_eq_true, Bool.not_eq_true', bne_iff_ne] at ended
    exact ⟨ended.1.1.1, ended.1.1.2⟩
  | some exponent =>
    have mark : c = 'e' := by cases exponent <;> exact (Option.some.inj head).symm
    subst mark
    decide

/-- What follows the digits before the point is no digit. -/
theorem no_digit_after_whole {rest : List Char} (ends : EndsNumber rest) (fraction : List Char)
    (exponent : Option Int) :
    ∀ c, (fractionText fraction ++ (exponentText exponent ++ rest)).head? = some c →
      isDigit c = false := by
  intro c head
  cases fraction with
  | nil => exact (no_digit_after ends exponent c head).1
  | cons first others =>
    obtain rfl : '.' = c := Option.some.inj head
    decide

/-- A number is read after its sign. -/
theorem unsigned?_append {literal : Number} (wellFormed : literal.WellFormed) {rest : List Char}
    (ends : EndsNumber rest) (negative : Bool) :
    unsigned? negative (literal.whole ++
      (fractionText literal.fraction ++ (exponentText literal.exponent ++ rest))) =
        some ({ literal with negative }, rest) := by
  have after := no_digit_after ends literal.exponent
  unfold unsigned?
  rw [whole?_append wellFormed (no_digit_after_whole ends literal.fraction literal.exponent)]
  simp only [Option.bind_eq_bind, Option.bind_some]
  rw [fraction?_append wellFormed (fun c head => (after c head).1)
    fun head => (after '.' head).2 rfl]
  simp only [Option.bind_some, exponent?_append ends]
  rfl

/-- **A well-formed number is read back**, whatever follows that is no part of it. -/
theorem number?_characters {literal : Number} (wellFormed : literal.WellFormed)
    {rest : List Char} (ends : EndsNumber rest) :
    number? (literal.characters ++ rest) = some (literal, rest) := by
  have unsigned : unsigned? literal.negative (literal.whole ++
      (fractionText literal.fraction ++ (exponentText literal.exponent ++ rest))) =
        some (literal, rest) := unsigned?_append wellFormed ends literal.negative
  rw [literal.characters_append]
  cases negative : literal.negative with
  | true =>
    rw [negative] at unsigned
    exact unsigned
  | false =>
    obtain ⟨digit, others, whole, isDigit⟩ := wellFormed.exists_digit
    have noSign : digit ≠ '-' := by
      rintro rfl
      exact absurd isDigit (by decide)
    rw [negative, whole] at unsigned
    rw [whole]
    show number? (digit :: _) = _
    unfold number?
    split
    · rename_i same
      exact absurd (List.cons.inj same).1 noSign
    · exact unsigned

end Reader

/-! ### The numbers that are written -/

namespace Number

theorem wellFormed_ofNat (n : Nat) : (ofNat n).WellFormed where
  whole := by
    by_cases zero : n = 0
    · subst zero
      exact .inl rfl
    · exact .inr ⟨Decimal.digitsOf_ne_nil n, Decimal.head_digitsOf_ne_zero zero⟩
  digits := fun _ => Decimal.isDigit_of_mem_digitsOf
  fraction := List.forall_mem_nil _

/-- A natural number is read back. -/
theorem toNatUpTo?_ofNat {n largest : Nat} (bounded : n ≤ largest) :
    (ofNat n).toNatUpTo? largest = some n := by
  have read : (ofNat n).toNat? = some n := congrArg some (Decimal.digitsValue_digitsOf n)
  rw [toNatUpTo?, read, Option.filter_some, if_pos (decide_eq_true bounded)]

section Digits

variable {digits : List Char} (all : ∀ c ∈ digits, isDigit c = true)

include all

/-- Digits after the first are a fraction, and the first one is a whole number. -/
theorem wellFormed_scientific (some_digit : digits ≠ []) (negative : Bool) (place : Int) :
    (scientific negative digits place).WellFormed := by
  obtain ⟨first, others, rfl⟩ := List.exists_cons_of_ne_nil some_digit
  refine ⟨?_, fun c member => all c (List.mem_of_mem_take member),
    fun c member => all c (List.mem_of_mem_drop member)⟩
  show [first] = ['0'] ∨ _
  by_cases zero : first = '0'
  · exact .inl (congrArg (fun c => [c]) zero)
  · exact .inr ⟨List.cons_ne_nil _ _, fun head => zero (Option.some.inj head)⟩

omit all in
/-- What stands before the point if zeros are put in front of digits so that something does. -/
theorem take_padded (some_digit : digits ≠ []) (noZero : digits.head? ≠ some '0') (after : Nat) :
    let padded := List.replicate (after + 1 - digits.length) '0' ++ digits
    let whole := padded.take (padded.length - after)
    whole = ['0'] ∨ whole ≠ [] ∧ whole.head? ≠ some '0' := by
  intro padded whole
  by_cases enough : after < digits.length
  · -- the point stands among the digits
    have none_added : after + 1 - digits.length = 0 := by omega
    have same : padded = digits := by
      simp only [padded, none_added, List.replicate_zero, List.nil_append]
    have cut : digits.length - after ≠ 0 := by omega
    have before : whole = digits.take (digits.length - after) := by simp only [whole, same]
    rw [before]
    refine .inr ⟨?_, ?_⟩
    · exact fun empty => (List.take_eq_nil_iff.mp empty).elim cut some_digit
    · rw [List.head?_take, if_neg cut]
      exact noZero
  · -- one zero stands before the point
    have size : padded.length - after = 1 := by
      simp only [padded, List.length_append, List.length_replicate]
      omega
    have added : after + 1 - digits.length = (after - digits.length) + 1 := by omega
    refine .inl ?_
    simp only [whole, size]
    simp only [padded, added]
    rfl

/-- Digits with a point somewhere, or with zeros on one side. -/
theorem wellFormed_positional (some_digit : digits ≠ []) (negative : Bool) {place : Int}
    (noZero : digits.head? ≠ some '0' ∨ digits = ['0'] ∧ place = 0) :
    (positional negative digits place).WellFormed := by
  have zeros (count : Nat) : ∀ c ∈ List.replicate count '0', isDigit c = true := by
    intro c member
    rw [List.eq_of_mem_replicate member]
    decide
  unfold positional
  split
  · refine ⟨?_, List.forall_mem_append.mpr ⟨all, zeros _⟩, zeros 1⟩
    rcases noZero with first | ⟨zero, here⟩
    · refine .inr ⟨List.append_ne_nil_of_left_ne_nil some_digit _, ?_⟩
      rw [List.head?_append_of_ne_nil _ some_digit]
      exact first
    · subst zero here
      exact .inl rfl
  · rename_i below
    have first : digits.head? ≠ some '0' := by
      rcases noZero with first | ⟨-, here⟩
      · exact first
      · omega
    generalize (-place).toNat = after
    have padded : ∀ c ∈ List.replicate (after + 1 - digits.length) '0' ++ digits,
        isDigit c = true := List.forall_mem_append.mpr ⟨zeros _, all⟩
    exact ⟨take_padded some_digit first after,
      fun c member => padded c (List.mem_of_mem_take member),
      fun c member => padded c (List.mem_of_mem_drop member)⟩

end Digits

/-- **The literal of a number is well-formed.** -/
theorem wellFormed_ofFloat? {x : Float} {literal : Number} (written : ofFloat? x = some literal) :
    literal.WellFormed := by
  unfold ofFloat? at written
  split at written
  · cases written
  · cases written
  · obtain rfl := Option.some.inj written
    have zero : ∀ c ∈ ['0'], isDigit c = true := List.forall_mem_singleton.mpr (by decide)
    exact ⟨.inl rfl, zero, zero⟩
  · rename_i negative significand exponent positive parts
    have nonzero : significand ≠ 0 := fun zero => positive zero
    have found := Decimal.digits_shortest style.tie nonzero exponent
    dsimp only at written
    generalize Decimal.shortest style.tie significand exponent = number at found written
    have all : ∀ c ∈ digitsOf number.digits, isDigit c = true :=
      fun _ => Decimal.isDigit_of_mem_digitsOf
    split at written
    · obtain rfl := Option.some.inj written
      refine wellFormed_positional all (Decimal.digitsOf_ne_nil _) negative ?_
      rcases found with digits | zero
      · exact .inl (Decimal.head_digitsOf_ne_zero digits)
      · subst zero
        exact .inr ⟨rfl, rfl⟩
    · obtain rfl := Option.some.inj written
      exact wellFormed_scientific all (Decimal.digitsOf_ne_nil _) negative _

end Number

end DesignRules.Json

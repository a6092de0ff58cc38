/-
**The texts of decimal numbers.**

* `Numeral`: a decimal number as a text spells it, digit by digit.
* `Numeral.forall_mem_text`: the characters of such a text.
* `Numeral.ofCharacters?_text`: such a text is read as the number that its digits denote.
* `exists_numeral`: no other text is read.
-/

import DesignRules.Decimal.Literal
import Mathlib.Data.List.Induction
import Mathlib.Data.List.TakeWhile
import Mathlib.Data.Nat.Digits.Defs
import Mathlib.Data.Rat.Defs

namespace DesignRules.Decimal

/-! ### Numerals -/

/-- The sign that a number may start with. -/
inductive SignMark where
  | absent
  | plus
  | minus
  deriving DecidableEq, Repr

namespace SignMark

/-- The text of a sign. -/
def text : SignMark → List Char
  | .absent => []
  | .plus => ['+']
  | .minus => ['-']

/-- Whether a sign is a minus. -/
def isMinus : SignMark → Bool
  | .minus => true
  | _ => false

end SignMark

/-- The text of a digit. -/
def digitChar (digit : Fin 10) : Char := Nat.digitChar digit

/-- A decimal number as a text spells it: a sign or none, digits, and a point with further digits or
none, with at least one digit in all. -/
structure Numeral where
  sign : SignMark
  whole : List (Fin 10)
  fraction? : Option (List (Fin 10))
  some_digit : whole ++ fraction?.getD [] ≠ []

namespace Numeral

/-- The digits after the point. -/
def fraction (numeral : Numeral) : List (Fin 10) := numeral.fraction?.getD []

/-- The text after the whole digits: the point, if there is one, and what follows it. -/
def pointText : Option (List (Fin 10)) → List Char
  | none => []
  | some digits => '.' :: digits.map digitChar

/-- The text that spells a number. -/
def text (numeral : Numeral) : List Char :=
  numeral.sign.text ++ (numeral.whole.map digitChar ++ pointText numeral.fraction?)

/-- The number that all the digits denote, without the point. -/
def digits (numeral : Numeral) : Nat :=
  Nat.ofDigits 10 ((numeral.whole ++ numeral.fraction).reverse.map Fin.val)

/-- The number that the digits denote, without the sign. -/
def size (numeral : Numeral) : ℚ := numeral.digits / 10 ^ numeral.fraction.length

/-- The parts of the number. -/
def literal (numeral : Numeral) : Literal :=
  ⟨numeral.sign.isMinus, numeral.digits, numeral.fraction.length⟩

end Numeral

/-! ### Digits -/

theorem isDigit_digitChar (digit : Fin 10) : isDigit (digitChar digit) = true := by
  revert digit
  decide

theorem digitValue_digitChar (digit : Fin 10) : digitValue (digitChar digit) = digit := by
  revert digit
  decide

theorem digitChar_ne_sign (digit : Fin 10) : digitChar digit ≠ '-' ∧ digitChar digit ≠ '+' := by
  revert digit
  decide

theorem all_isDigit_map (digits : List (Fin 10)) : (digits.map digitChar).all isDigit = true := by
  rw [List.all_map, List.all_eq_true]
  exact fun digit _ => isDigit_digitChar digit

theorem exists_digit {c : Char} (digital : isDigit c = true) : ∃ digit, digitChar digit = c := by
  have range : ∀ code < 58, 48 ≤ code → ∃ digit, digitChar digit = Char.ofNat code := by decide
  rw [isDigit, Bool.and_eq_true, decide_eq_true_eq, decide_eq_true_eq] at digital
  obtain ⟨digit, spelled⟩ := range c.toNat (Nat.lt_succ_of_le digital.2) digital.1
  exact ⟨digit, spelled.trans c.ofNat_toNat⟩

/-- Characters that are digits are the texts of some. -/
theorem exists_digits {characters : List Char} (digital : characters.all isDigit = true) :
    ∃ digits : List (Fin 10), digits.map digitChar = characters := by
  induction characters with
  | nil => exact ⟨[], rfl⟩
  | cons c others ih =>
    rw [List.all_cons, Bool.and_eq_true] at digital
    obtain ⟨digits, rfl⟩ := ih digital.2
    obtain ⟨digit, rfl⟩ := exists_digit digital.1
    exact ⟨digit :: digits, rfl⟩

theorem digitsValue_map (digits : List (Fin 10)) :
    digitsValue (digits.map digitChar) = Nat.ofDigits 10 (digits.reverse.map Fin.val) := by
  induction digits using List.reverseRecOn with
  | nil => rfl
  | append_singleton digits digit ih =>
    have last : digitsValue ((digits ++ [digit]).map digitChar) =
        digitsValue (digits.map digitChar) * 10 + digitValue (digitChar digit) := by
      rw [List.map_append]
      exact List.foldl_append
    rw [last, digitValue_digitChar, ih, List.reverse_append, List.reverse_singleton,
      List.singleton_append, List.map_cons, Nat.ofDigits_cons, Nat.mul_comm, Nat.add_comm]

/-- A numeral has no characters but digits, a sign and a point. -/
theorem Numeral.forall_mem_text (property : Char → Prop)
    (digits : ∀ digit, property (digitChar digit))
    (marks : property '+' ∧ property '-' ∧ property '.') (numeral : Numeral) :
    ∀ c ∈ numeral.text, property c := by
  have digital (digits' : List (Fin 10)) : ∀ c ∈ digits'.map digitChar, property c := by
    intro c member
    obtain ⟨digit, -, rfl⟩ := List.mem_map.mp member
    exact digits digit
  have sign : ∀ c ∈ numeral.sign.text, property c := by
    cases numeral.sign with
    | absent => exact fun c member => nomatch member
    | plus => exact List.forall_mem_singleton.mpr marks.1
    | minus => exact List.forall_mem_singleton.mpr marks.2.1
  have pointed : ∀ c ∈ pointText numeral.fraction?, property c := by
    cases numeral.fraction? with
    | none => exact fun c member => nomatch member
    | some fraction => exact List.forall_mem_cons.mpr ⟨marks.2.2, digital fraction⟩
  exact List.forall_mem_append.mpr
    ⟨sign, List.forall_mem_append.mpr ⟨digital numeral.whole, pointed⟩⟩

/-! ### Reading -/

/-- The digits of a text end where no digit follows. -/
theorem span_digits (digits : List (Fin 10)) {rest : List Char}
    (ends : ∀ c ∈ rest.head?, ¬ isDigit c = true) :
    (digits.map digitChar ++ rest).takeWhile isDigit = digits.map digitChar ∧
      (digits.map digitChar ++ rest).dropWhile isDigit = rest := by
  have digital : ∀ c ∈ digits.map digitChar, isDigit c = true :=
    List.all_eq_true.mp (all_isDigit_map digits)
  rw [List.takeWhile_append_of_pos digital, List.dropWhile_append_of_pos digital]
  cases rest with
  | nil => exact ⟨List.append_nil _, rfl⟩
  | cons c others =>
    have ends := ends c rfl
    rw [List.takeWhile_cons_of_neg ends, List.dropWhile_cons_of_neg ends, List.append_nil]
    exact ⟨rfl, rfl⟩

theorem not_isDigit_head_pointText (fraction? : Option (List (Fin 10))) :
    ∀ c ∈ (Numeral.pointText fraction?).head?, ¬ isDigit c = true := by
  cases fraction? with
  | none => exact fun c member => nomatch member
  | some digits =>
    intro c member
    obtain rfl := Option.some.inj member
    decide

/-- **Digits with a point** among them are read as the number that they denote. -/
theorem unsigned?_digits (negative : Bool) {whole : List (Fin 10)}
    {fraction? : Option (List (Fin 10))} (some_digit : whole ++ fraction?.getD [] ≠ []) :
    Literal.unsigned? negative (whole.map digitChar ++ Numeral.pointText fraction?) =
      some ⟨negative, Nat.ofDigits 10 ((whole ++ fraction?.getD []).reverse.map Fin.val),
        (fraction?.getD []).length⟩ := by
  obtain ⟨taken, left⟩ := span_digits whole (not_isDigit_head_pointText fraction?)
  unfold Literal.unsigned?
  dsimp only
  rw [taken, left]
  cases fraction? with
  | none =>
    rw [Option.getD_none, List.append_nil] at some_digit ⊢
    have kept : ¬ (whole.map digitChar).isEmpty = true := by
      rw [List.isEmpty_iff, List.map_eq_nil_iff]
      exact some_digit
    show (if _ then _ else some _) = _
    rw [if_neg kept, digitsValue_map]
    rfl
  | some fraction =>
    rw [Option.getD_some] at some_digit ⊢
    have kept : ((fraction.map digitChar).all isDigit &&
        !(whole.map digitChar ++ fraction.map digitChar).isEmpty) = true := by
      rw [all_isDigit_map, ← List.map_append, Bool.true_and, Bool.not_eq_true',
        List.isEmpty_eq_false_iff, ne_eq, List.map_eq_nil_iff]
      exact some_digit
    show (if _ then some _ else _) = _
    rw [if_pos kept, ← List.map_append, digitsValue_map, List.length_map]

/-- A text that does not start with a sign has none to split off. -/
theorem splitSign_of_head {characters : List Char} (minus : characters.head? ≠ some '-')
    (plus : characters.head? ≠ some '+') : Literal.splitSign characters = (false, characters) := by
  unfold Literal.splitSign
  split
  · exact absurd rfl minus
  · exact absurd rfl plus
  · rfl

theorem splitSign_text (sign : SignMark) {rest : List Char} (minus : rest.head? ≠ some '-')
    (plus : rest.head? ≠ some '+') :
    Literal.splitSign (sign.text ++ rest) = (sign.isMinus, rest) := by
  cases sign with
  | absent => exact splitSign_of_head minus plus
  | plus => rfl
  | minus => rfl

/-- **A text that spells a number** is read as that number. -/
theorem Numeral.ofCharacters?_text (numeral : Numeral) :
    Literal.ofCharacters? numeral.text = some numeral.literal := by
  obtain ⟨sign, whole, fraction?, some_digit⟩ := numeral
  have unsigned : ∀ c ∈ (whole.map digitChar ++ pointText fraction?).head?, c ≠ '-' ∧ c ≠ '+' := by
    intro c member
    cases whole with
    | cons digit others =>
      obtain rfl := Option.some.inj member
      exact digitChar_ne_sign digit
    | nil =>
      cases fraction? with
      | none => exact absurd rfl some_digit
      | some fraction =>
        obtain rfl := Option.some.inj member
        decide
  unfold Literal.ofCharacters? text
  rw [splitSign_text sign (fun minus => (unsigned _ minus).1 rfl)
    fun plus => (unsigned _ plus).2 rfl]
  exact unsigned?_digits sign.isMinus some_digit

theorem exists_sign (characters : List Char) :
    ∃ sign : SignMark, sign.text ++ (Literal.splitSign characters).2 = characters := by
  unfold Literal.splitSign
  split
  · exact ⟨.minus, rfl⟩
  · exact ⟨.plus, rfl⟩
  · exact ⟨.absent, rfl⟩

theorem exists_unsigned {negative : Bool} {characters : List Char} {literal : Literal}
    (read : Literal.unsigned? negative characters = some literal) :
    ∃ (whole : List (Fin 10)) (fraction? : Option (List (Fin 10))),
      whole ++ fraction?.getD [] ≠ [] ∧
        whole.map digitChar ++ Numeral.pointText fraction? = characters := by
  have parts := List.takeWhile_append_dropWhile (p := isDigit) (l := characters)
  obtain ⟨whole, spelled⟩ := exists_digits (List.all_takeWhile (p := isDigit) (l := characters))
  unfold Literal.unsigned? at read
  dsimp only at read
  rw [← spelled] at read parts
  split at read
  · rename_i ended
    rw [ended] at parts
    split at read
    · cases read
    · rename_i some_digit
      rw [List.isEmpty_iff, List.map_eq_nil_iff] at some_digit
      refine ⟨whole, none, ?_, parts⟩
      rw [Option.getD_none, List.append_nil]
      exact some_digit
  · rename_i after pointed
    rw [pointed] at parts
    split at read
    · rename_i some_digit
      rw [Bool.and_eq_true] at some_digit
      obtain ⟨fraction, rfl⟩ := exists_digits some_digit.1
      rw [← List.map_append, Bool.not_eq_true', List.isEmpty_eq_false_iff, ne_eq,
        List.map_eq_nil_iff] at some_digit
      exact ⟨whole, some fraction, some_digit.2, parts⟩
    · cases read
  · cases read

/-- **A text that is read** spells a number. -/
theorem exists_numeral {characters : List Char} {literal : Literal}
    (read : Literal.ofCharacters? characters = some literal) :
    ∃ numeral : Numeral, numeral.text = characters := by
  obtain ⟨sign, signed⟩ := exists_sign characters
  obtain ⟨whole, fraction?, some_digit, unsigned⟩ := exists_unsigned read
  exact ⟨⟨sign, whole, fraction?, some_digit⟩, (congrArg _ unsigned).trans signed⟩

end DesignRules.Decimal

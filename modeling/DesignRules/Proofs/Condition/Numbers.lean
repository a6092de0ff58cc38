/-
**Numbers at the front of a text.**

A number of a condition has no sign, and digits stand after its point if it has one; the letters right
after it are the suffix of its unit. Where it ends is seen by what follows. A length ends with its
text, and its suffix starts at the first letter. Both find the same number and the same suffix in the
text of a number, so what is read is the length that this text denotes.

* `EndsBefore`, `EndsBefore.splitNumber_eq`: numbers before other characters.
* `StandsBefore`, `StandsBefore.scanNumber_eq`: numbers with their letters.
* `exists_endsBefore`, `exists_standsBefore`: where a number starts.
* `exists_standsBefore_of_scanNumber`: numbers that are read.
-/

import DesignRules.Condition.Token
import DesignRules.Proofs.Length.Spelling
import Mathlib.Data.List.Basic

namespace DesignRules.Condition

open Decimal (Numeral digitChar exists_digits isDigit_digitChar span_digits)
open Text (width)

/-! ### What is taken from a text -/

/-- What a condition does not hold for is where its elements end. -/
theorem stops_dropWhile {α : Type} (p : α → Bool) (list : List α) :
    ∀ next ∈ (list.dropWhile p).head?, p next = false := by
  intro next first
  have stop := List.head?_dropWhile_not p list
  rw [Option.mem_def.mp first] at stop
  exact stop

theorem takeWhile_append_of_stops {α : Type} {p : α → Bool} {tail : List α}
    (stops : ∀ next ∈ tail.head?, p next = false) (list : List α) :
    (list ++ tail).takeWhile p = list.takeWhile p := by
  have nothing : tail.takeWhile p = [] := by
    cases tail with
    | nil => rfl
    | cons next tail => exact List.takeWhile_cons_of_neg (ne_true_of_eq_false (stops next rfl))
  rw [List.takeWhile_append, nothing, List.append_nil]
  split
  next whole => exact (List.takeWhile_prefix p).eq_of_length whole |>.symm
  next => rfl

/-! ### Numbers before other characters -/

/-- **A number before other characters**: it has no sign and no point without digits after it, and
it does not go on. -/
structure EndsBefore (numeral : Numeral) (tail : List Char) : Prop where
  unsigned : numeral.sign = .absent
  pointed : numeral.fraction? ≠ some []
  noDigit : ∀ next ∈ tail.head?, Decimal.isDigit next = false
  noPoint : numeral.fraction? = none →
    ∀ next after, tail = '.' :: next :: after → Decimal.isDigit next = false

/-- **A number and its letters before other characters**: neither the number nor the letters go
on. -/
structure StandsBefore (numeral : Numeral) (letters rest : List Char) : Prop extends
    EndsBefore numeral (letters ++ rest) where
  alphabetic : ∀ c ∈ letters, isUnitLetter c = true
  noLetter : ∀ next ∈ rest.head?, isUnitLetter next = false

theorem startsNumber_cons (c : Char) (rest : List Char) :
    startsNumber (c :: rest) =
      if c = '.' then rest.head?.any Decimal.isDigit else Decimal.isDigit c := by
  by_cases point : c = '.'
  · subst point
    cases rest <;> rfl
  · rw [if_neg point, startsNumber]
    exact fun _ _ same _ => point same

/-- A number that does not start with a digit starts with a point. -/
theorem exists_point_of_startsNumber {characters : List Char}
    (starts : startsNumber characters = true)
    (noDigit : ∀ next ∈ characters.head?, Decimal.isDigit next = false) :
    ∃ next after, characters = '.' :: next :: after ∧ Decimal.isDigit next = true := by
  cases characters with
  | nil => cases starts
  | cons c rest =>
    rw [startsNumber_cons] at starts
    split at starts
    next point =>
      cases rest with
      | nil => cases starts
      | cons next after => exact ⟨next, after, by rw [point], starts⟩
    next =>
      rw [noDigit c rfl] at starts
      cases starts

/-- A number goes on after a point that a digit follows. -/
theorem splitNumber_of_point {characters after : List Char} {next : Char}
    (rest : characters.dropWhile Decimal.isDigit = '.' :: next :: after)
    (digit : Decimal.isDigit next = true) :
    splitNumber characters =
      (characters.takeWhile Decimal.isDigit ++ '.' :: (next :: after).takeWhile Decimal.isDigit,
        (next :: after).dropWhile Decimal.isDigit) := by
  unfold splitNumber
  rw [rest]
  exact if_pos digit

/-- Without such a point a number is its digits. -/
theorem splitNumber_of_no_point {characters : List Char}
    (pointless : ¬ ∃ next after, characters.dropWhile Decimal.isDigit = '.' :: next :: after ∧
      Decimal.isDigit next = true) :
    splitNumber characters =
      (characters.takeWhile Decimal.isDigit, characters.dropWhile Decimal.isDigit) := by
  unfold splitNumber
  dsimp only
  split
  next next after rest => exact if_neg fun digit => pointless ⟨next, after, rest, digit⟩
  next => rfl

namespace EndsBefore

variable {numeral : Numeral} {tail : List Char}

theorem text_eq (ends : EndsBefore numeral tail) :
    numeral.text = numeral.whole.map digitChar ++ Numeral.pointText numeral.fraction? := by
  rw [Numeral.text, ends.unsigned]
  rfl

/-- A number starts with a digit, or with a point and a digit. -/
theorem starts_append (ends : EndsBefore numeral tail) :
    startsNumber (numeral.text ++ tail) = true := by
  rw [ends.text_eq]
  obtain ⟨sign, whole, fraction?, some_digit⟩ := numeral
  cases whole with
  | cons digit whole =>
    rw [List.map_cons, List.cons_append, List.cons_append, startsNumber_cons,
      isDigit_digitChar, if_neg]
    -- no digit is a point
    intro point
    have digital := isDigit_digitChar digit
    rw [point] at digital
    cases digital
  | nil =>
    cases fraction? with
    | none => exact absurd rfl some_digit
    | some fraction =>
      cases fraction with
      | nil => exact absurd rfl some_digit
      | cons digit fraction => exact isDigit_digitChar digit

/-- **A number ends where it does not go on.** -/
theorem splitNumber_eq (ends : EndsBefore numeral tail) :
    splitNumber (numeral.text ++ tail) = (numeral.text, tail) := by
  have digits : ∀ next ∈ tail.head?, ¬ Decimal.isDigit next = true := by
    intro next first
    exact ne_true_of_eq_false (ends.noDigit next first)
  rw [ends.text_eq]
  cases fraction : numeral.fraction? with
  | none =>
    obtain ⟨whole, rest⟩ := span_digits numeral.whole digits
    rw [Numeral.pointText, List.append_nil, splitNumber_of_no_point, whole, rest]
    rintro ⟨next, after, goes, digit⟩
    exact absurd digit (ne_true_of_eq_false (ends.noPoint fraction next after (rest ▸ goes)))
  | some decimals =>
    cases decimals with
    | nil => exact absurd fraction ends.pointed
    | cons digit decimals =>
      have point : ∀ next ∈ ('.' :: ((digit :: decimals).map digitChar ++ tail)).head?,
          ¬ Decimal.isDigit next = true := by
        intro next first
        obtain rfl := Option.some.inj first
        decide
      obtain ⟨whole, rest⟩ := span_digits numeral.whole point
      obtain ⟨after, remaining⟩ := span_digits (digit :: decimals) digits
      rw [Numeral.pointText, List.append_assoc, List.cons_append,
        splitNumber_of_point rest (isDigit_digitChar digit), whole]
      exact Prod.ext (congrArg (_ ++ '.' :: ·) after) remaining

end EndsBefore

/-- **Where a number starts**, one ends before what follows it. -/
theorem exists_endsBefore {characters : List Char} (starts : startsNumber characters = true) :
    ∃ numeral tail, characters = numeral.text ++ tail ∧ EndsBefore numeral tail := by
  obtain ⟨whole, spelled⟩ :=
    exists_digits (List.all_takeWhile (p := Decimal.isDigit) (l := characters))
  have parts := List.takeWhile_append_dropWhile (p := Decimal.isDigit) (l := characters)
  have stops := stops_dropWhile Decimal.isDigit characters
  rw [← spelled] at parts
  generalize characters.dropWhile Decimal.isDigit = rest at parts stops
  -- a point that no digit follows is left to the tail, and then there are digits before it
  by_cases pointed : ∃ next after, rest = '.' :: next :: after ∧ Decimal.isDigit next = true
  · obtain ⟨next, after, rfl, digit⟩ := pointed
    obtain ⟨decimals, fraction⟩ :=
      exists_digits (List.all_takeWhile (p := Decimal.isDigit) (l := next :: after))
    have nonempty : decimals ≠ [] := by
      rintro rfl
      rw [List.takeWhile_cons_of_pos digit] at fraction
      cases fraction
    refine ⟨⟨.absent, whole, some decimals, by simp [nonempty]⟩,
      (next :: after).dropWhile Decimal.isDigit, ?_, rfl, by simpa using nonempty,
      stops_dropWhile _ _, nofun⟩
    show characters = [] ++ (whole.map digitChar ++ '.' :: decimals.map digitChar) ++ _
    rw [List.nil_append, List.append_assoc, List.cons_append, fraction,
      List.takeWhile_append_dropWhile, parts]
  · have nonempty : whole ≠ [] := by
      rintro rfl
      rw [List.map_nil, List.nil_append] at parts
      exact pointed (exists_point_of_startsNumber (parts ▸ starts) stops)
    refine ⟨⟨.absent, whole, none, by simpa using nonempty⟩, rest, ?_, rfl, nofun, stops, ?_⟩
    · show characters = [] ++ (whole.map digitChar ++ []) ++ rest
      rw [List.nil_append, List.append_nil, parts]
    · intro _ next after goes
      by_contra digit
      exact pointed ⟨next, after, goes, eq_true_of_ne_false digit⟩

/-- **Where a number starts**, it stands with its letters before what follows them. -/
theorem exists_standsBefore {characters : List Char} (starts : startsNumber characters = true) :
    ∃ numeral letters rest, characters = numeral.text ++ (letters ++ rest) ∧
      StandsBefore numeral letters rest := by
  obtain ⟨numeral, tail, rfl, ends⟩ := exists_endsBefore starts
  have parts := List.takeWhile_append_dropWhile (p := isUnitLetter) (l := tail)
  refine ⟨numeral, tail.takeWhile isUnitLetter, tail.dropWhile isUnitLetter, by rw [parts], ?_⟩
  exact ⟨by rw [parts]; exact ends, fun c member => List.mem_takeWhile_imp member,
    stops_dropWhile _ _⟩

/-! ### What is read -/

namespace StandsBefore

variable {numeral : Numeral} {letters rest : List Char}

/-- The suffix of a number is all letters after it. -/
theorem ofCharacters?_eq (stands : StandsBefore numeral letters rest) :
    Quantity.ofCharacters? (numeral.text ++ letters) =
      (Quantity.unitOf? letters).map (Quantity.mk numeral.literal) :=
  Length.ofCharacters?_text_append numeral fun c first =>
    stands.alphabetic c (List.mem_of_mem_head? first)

/-- **A number is read as the length that its own text denotes**, if it denotes one, and otherwise
refused for its letters. -/
theorem scanNumber_eq (stands : StandsBefore numeral letters rest) (offset : Nat) :
    scanNumber offset (numeral.text ++ (letters ++ rest)) =
      match Quantity.ofCharacters? (numeral.text ++ letters) with
      | some quantity => .ok (.number quantity, (numeral.text ++ letters).length - 1)
      | none => .error ⟨.unknownUnit, offset + width numeral.text, String.ofList letters⟩ := by
  have suffix : (letters ++ rest).takeWhile isUnitLetter = letters := by
    rw [takeWhile_append_of_stops stands.noLetter]
    exact List.takeWhile_eq_self_iff.mpr stands.alphabetic
  rw [stands.ofCharacters?_eq, scanNumber, stands.splitNumber_eq]
  dsimp only
  rw [suffix, Numeral.ofCharacters?_text, List.length_append]
  cases Quantity.unitOf? letters <;> rfl

theorem scanNumber_eq_ok (stands : StandsBefore numeral letters rest) {quantity : Quantity}
    (known : Quantity.ofCharacters? (numeral.text ++ letters) = some quantity) (offset : Nat) :
    scanNumber offset (numeral.text ++ (letters ++ rest)) =
      .ok (.number quantity, (numeral.text ++ letters).length - 1) := by
  rw [stands.scanNumber_eq, known]

/-- A number stands before the end of its own text. -/
theorem alone (stands : StandsBefore numeral letters rest) : StandsBefore numeral letters [] where
  unsigned := stands.unsigned
  pointed := stands.pointed
  noDigit := by
    rw [List.append_nil]
    exact fun next first => stands.noDigit next (List.mem_head?_append_of_mem_head? first)
  noPoint := by
    rw [List.append_nil]
    rintro whole next after rfl
    exact stands.noPoint whole next (after ++ rest) rfl
  alphabetic := stands.alphabetic
  noLetter := nofun

end StandsBefore

/-- **A number that is read** is the length that its own text denotes. -/
theorem exists_standsBefore_of_scanNumber {offset count : Nat} {characters : List Char}
    {token : Token} (starts : startsNumber characters = true)
    (scanned : scanNumber offset characters = .ok (token, count)) :
    ∃ numeral letters rest quantity, characters = numeral.text ++ (letters ++ rest) ∧
      StandsBefore numeral letters rest ∧
      Quantity.ofCharacters? (numeral.text ++ letters) = some quantity ∧
      token = .number quantity ∧ count + 1 = (numeral.text ++ letters).length := by
  obtain ⟨numeral, letters, rest, rfl, stands⟩ := exists_standsBefore starts
  rw [stands.scanNumber_eq] at scanned
  split at scanned
  next quantity known =>
    obtain ⟨rfl, rfl⟩ := Prod.mk.inj (Except.ok.inj scanned)
    refine ⟨numeral, letters, rest, quantity, rfl, stands, known, rfl, Nat.sub_add_cancel ?_⟩
    refine List.length_pos_iff.mpr fun empty => ?_
    rw [empty] at known
    cases known
  next => cases scanned

/-- The characters that are counted are the number and its letters. -/
theorem take_count_eq {numeral : Numeral} {letters after rest : List Char} {c : Char} {count : Nat}
    (whole : c :: rest = numeral.text ++ (letters ++ after))
    (counted : count + 1 = (numeral.text ++ letters).length) :
    c :: rest.take count = numeral.text ++ letters := by
  rw [← List.take_succ_cons, whole, ← List.append_assoc]
  exact List.take_left' counted.symm

end DesignRules.Condition

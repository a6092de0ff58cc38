/-
**Texts are read back as they are quoted.**

* `Reader.escape?_unit`: a control character that is written by its number.
* `Reader.string?_escape`: one character, escaped or not.
* `Reader.string?_quoted`: a whole text, up to its closing quote.
-/

import DesignRules.Json.Printer
import DesignRules.Json.Reader
import Mathlib.Data.List.Basic

namespace DesignRules.Json.Reader

theorem hexadecimal?_digit : ∀ n < 16, hexadecimal? (hexadecimalDigit n) = some n := by decide

/-- A control character that has no letter of its own is read back from its number. -/
theorem escape?_unit {c : Char} (control : c.toNat < 0x20) (rest : List Char) :
    escape? ('u' :: '0' :: '0' :: hexadecimalDigit (c.toNat / 16) ::
      hexadecimalDigit (c.toNat % 16) :: rest) = some (some c, rest) := by
  have zero : hexadecimal? '0' = some 0 := by decide
  have high : hexadecimal? (hexadecimalDigit (c.toNat / 16)) = some (c.toNat / 16) :=
    hexadecimal?_digit _ (by omega)
  have low : hexadecimal? (hexadecimalDigit (c.toNat % 16)) = some (c.toNat % 16) :=
    hexadecimal?_digit _ (by omega)
  have value : ((0 * 16 + 0) * 16 + c.toNat / 16) * 16 + c.toNat % 16 = c.toNat := by omega
  have notHigh : isHigh c.toNat = false := by simp [isHigh]; omega
  have notLow : isLow c.toNat = false := by simp [isLow]; omega
  show unitEscape? _ = _
  simp only [unitEscape?, unit?, zero, high, low, value, notHigh, notLow, Option.bind_eq_bind,
    Option.bind_some, Option.pure_def, Bool.false_eq_true, if_false, Char.ofNat_toNat]

/-- **One character of a text is read back.** -/
theorem string?_escape (limit : Nat) (reversed : List Char) (c : Char) (rest : List Char) :
    string? (limit + 1) (some reversed) (escape c ++ rest) =
      string? limit (some (c :: reversed)) rest := by
  by_cases quote : c = '"'
  · subst quote
    rfl
  by_cases backslash : c = '\\'
  · subst backslash
    rfl
  by_cases backspace : c = '\x08'
  · subst backspace
    rfl
  by_cases tab : c = '\t'
  · subst tab
    rfl
  by_cases lineFeed : c = '\n'
  · subst lineFeed
    rfl
  by_cases formFeed : c = '\x0c'
  · subst formFeed
    rfl
  by_cases carriageReturn : c = '\r'
  · subst carriageReturn
    rfl
  unfold escape
  rw [if_neg quote, if_neg backslash, if_neg backspace, if_neg tab, if_neg lineFeed,
    if_neg formFeed, if_neg carriageReturn]
  by_cases control : c.toNat < 0x20
  · rw [if_pos control]
    have read := escape?_unit control rest
    show string? (limit + 1) (some reversed) ('\\' :: 'u' :: '0' :: '0' ::
      hexadecimalDigit (c.toNat / 16) :: hexadecimalDigit (c.toNat % 16) :: rest) = _
    rw [string?, if_neg (by decide), if_pos rfl, read]
    rfl
  · rw [if_neg control]
    show string? (limit + 1) (some reversed) (c :: rest) = _
    rw [string?, if_neg quote, if_neg backslash, if_neg control]
    rfl

theorem string?_flatMap_escape (characters reversed rest : List Char) {limit : Nat}
    (enough : characters.length < limit) :
    string? limit (some reversed) (characters.flatMap escape ++ '"' :: rest) =
      some (some (String.ofList (reversed.reverse ++ characters)), rest) := by
  induction characters generalizing reversed limit with
  | nil =>
    obtain ⟨limit, rfl⟩ := Nat.exists_eq_add_of_lt enough
    rw [List.append_nil]
    rfl
  | cons c characters ih =>
    obtain ⟨limit, rfl⟩ : ∃ fewer, limit = fewer + 1 := ⟨limit - 1, by omega⟩
    rw [List.length_cons] at enough
    rw [List.flatMap_cons, List.append_assoc, string?_escape, ih _ (by omega), List.reverse_cons,
      List.append_assoc, List.singleton_append]

/-- **A text is read back** after its opening quote. -/
theorem string?_quoted (text : String) (rest : List Char) {limit : Nat}
    (enough : text.toList.length < limit) :
    string? limit (some []) (text.toList.flatMap escape ++ '"' :: rest) =
      some (some text, rest) := by
  rw [string?_flatMap_escape _ _ _ enough, List.reverse_nil, List.nil_append, String.ofList_toList]

/-- A text has no more characters than its literal. -/
theorem length_lt_quoted (text : String) : text.toList.length + 2 ≤ (quoted text).length := by
  have escaped : ∀ characters : List Char,
      characters.length ≤ (characters.flatMap escape).length := by
    intro characters
    induction characters with
    | nil => exact Nat.le_refl 0
    | cons c characters ih =>
      have one : 1 ≤ (escape c).length := by
        unfold escape
        split_ifs <;> exact Nat.succ_le_succ (Nat.zero_le _)
      rw [List.flatMap_cons, List.length_append, List.length_cons]
      omega
  have inside := escaped text.toList
  show _ ≤ (_ :: (_ ++ _)).length
  rw [List.length_cons, List.length_append, List.length_singleton]
  omega

end DesignRules.Json.Reader

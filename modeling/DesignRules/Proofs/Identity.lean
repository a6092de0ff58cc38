/-
**Identities are read back as they are written.**

* `withoutHyphens?_cons`, `withoutHyphens?_hyphenated`: the hyphens between groups of digits.
* `ofText?_text`, `ofJson?_toJson`: the written form, and its JSON string.
-/

import DesignRules.Identity
import DesignRules.Proofs.Json.Records

namespace DesignRules.Identity

theorem digit?_digitCharacter : ∀ digit, digit? (digitCharacter digit) = some digit := by decide

theorem hyphenated_cons (size next : Nat) (sizes : List Nat) (characters : List Char) :
    hyphenated (size :: next :: sizes) characters =
      characters.take size ++ '-' :: hyphenated (next :: sizes) (characters.drop size) := rfl

/-- There is a hyphen between each two groups. -/
theorem length_hyphenated (sizes : List Nat) (characters : List Char) :
    (hyphenated sizes characters).length = characters.length + (sizes.length - 1) := by
  induction sizes generalizing characters with
  | nil => rfl
  | cons size sizes ih =>
    cases sizes with
    | nil => rfl
    | cons next sizes =>
      rw [hyphenated_cons, List.length_append, List.length_cons, ih, List.length_take,
        List.length_drop]
      simp only [List.length_cons]
      omega

/-- A hyphen between two groups is taken out. -/
theorem withoutHyphens?_cons {size : Nat} {characters rest : List Char}
    (hyphen : characters.drop size = '-' :: rest) (next : Nat) (sizes : List Nat) :
    withoutHyphens? (size :: next :: sizes) characters =
      (withoutHyphens? (next :: sizes) rest).map (characters.take size ++ ·) := by
  rw [withoutHyphens?, hyphen]
  · rfl
  · exact List.cons_ne_nil next sizes

/-- Groups of digits are found again, if there are digits enough. -/
theorem withoutHyphens?_hyphenated {sizes : List Nat} {characters : List Char}
    (enough : sizes.foldr (· + ·) 0 ≤ characters.length) :
    withoutHyphens? sizes (hyphenated sizes characters) = some characters := by
  induction sizes generalizing characters with
  | nil => rfl
  | cons size sizes ih =>
    cases sizes with
    | nil => rfl
    | cons next sizes =>
      rw [List.foldr_cons] at enough
      have group : (characters.take size).length = size := by
        rw [List.length_take]
        omega
      have others : (next :: sizes).foldr (· + ·) 0 ≤ (characters.drop size).length := by
        rw [List.length_drop]
        omega
      have hyphen : (characters.take size ++ '-' :: hyphenated (next :: sizes)
          (characters.drop size)).drop size =
            '-' :: hyphenated (next :: sizes) (characters.drop size) := List.drop_left' group
      rw [hyphenated_cons, withoutHyphens?_cons hyphen, List.take_left' group, ih others,
        Option.map_some, List.take_append_drop]

/-- The digits of an identity are read back. -/
theorem ofDigits?_digits (identity : Identity) :
    ofDigits? (identity.digits.map digitCharacter) = some identity := by
  have read : (identity.digits.map digitCharacter).mapM digit? = some identity.digits :=
    Json.mapM_map_eq_some fun digit _ => digit?_digitCharacter digit
  rw [ofDigits?, read]
  exact dif_pos identity.size_eq

/-- The written form starts with a digit. -/
theorem exists_first_text (identity : Identity) :
    ∃ digit rest, identity.text.toList = digitCharacter digit :: rest := by
  obtain ⟨digits, size⟩ := identity
  cases digits with
  | nil => cases size
  | cons first others =>
    have written : (text ⟨first :: others, size⟩).toList =
        hyphenated groups (digitCharacter first :: others.map digitCharacter) :=
      String.toList_ofList
    rw [written, groups, hyphenated_cons, List.take_succ_cons, List.cons_append]
    exact ⟨first, _, rfl⟩

/-- Nothing stands before the groups of the written form. -/
theorem bare_text (identity : Identity) : bare identity.text.toList = identity.text.toList := by
  obtain ⟨digit, rest, text⟩ := identity.exists_first_text
  have noScheme : ∀ digit, ('u' == (digitCharacter digit).toLower) = false := by decide
  have noBrace : ∀ digit, digitCharacter digit ≠ '\x7b' := by decide
  have starts : scheme = 'u' :: "rn:uuid:".toList := by decide
  have plain : hasScheme (digitCharacter digit :: rest) = false := by
    rw [hasScheme, starts, List.map_cons, List.isPrefixOf_cons_cons, noScheme digit, Bool.false_and]
  rw [text, bare, plain, if_neg Bool.false_ne_true]
  exact if_neg fun braces => noBrace digit (Option.some.inj braces.1)

/-- **The written form of an identity is read back.** -/
theorem ofText?_text (identity : Identity) : ofText? identity.text = some identity := by
  have count : (identity.digits.map digitCharacter).length = 32 := by
    rw [List.length_map, identity.size_eq]
  have written : identity.text.toList =
      hyphenated groups (identity.digits.map digitCharacter) := String.toList_ofList
  have longer : identity.text.toList.length ≠ 32 := by
    rw [written, length_hyphenated, count]
    decide
  have groupsFit : groups.foldr (· + ·) 0 ≤ (identity.digits.map digitCharacter).length := by
    rw [count]
    decide
  rw [ofText?, if_neg longer, bare_text, written, ofGroups?, withoutHyphens?_hyphenated groupsFit]
  exact ofDigits?_digits identity

theorem ofJson?_toJson (identity : Identity) : ofJson? identity.toJson = some identity :=
  ofText?_text identity

theorem writable_toJson (identity : Identity) : identity.toJson.Writable := .text _

end DesignRules.Identity

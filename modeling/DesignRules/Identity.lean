/-
**Identities of designs, items and violations.**

An identity is thirty-two hexadecimal digits, written in five groups with hyphens between them.

* `Identity.text`: the written form, in lower case.
* `Identity.ofText?`: reads the written form, plain, in braces or after `urn:uuid:`, and the digits
  without hyphens; letters may have either case, those of the scheme as well.
* `Identity.nil`, `Identity.numbered`: the identity of all zeros, and one for each number.
-/

import DesignRules.Json.Fields

namespace DesignRules

/-- Thirty-two hexadecimal digits that tell objects apart. -/
structure Identity where
  digits : List (Fin 16)
  size_eq : digits.length = 32
  deriving DecidableEq

namespace Identity

/-- The identity of all zeros, for an object that was given none. -/
def nil : Identity := ⟨List.replicate 32 0, rfl⟩

/-- The last `count` hexadecimal digits of a number. -/
def digitsOf : Nat → Nat → List (Fin 16)
  | 0, _ => []
  | count + 1, n => digitsOf count (n / 16) ++ [Fin.ofNat 16 n]

theorem length_digitsOf (count n : Nat) : (digitsOf count n).length = count := by
  induction count generalizing n with
  | zero => rfl
  | succ count ih => simp [digitsOf, ih]

/-- The digits that the identities of numbered objects share. -/
def sharedDigits : List (Fin 16) :=
  [5, 15, 3, 10, 9, 12, 1, 14, 7, 11, 2, 4, 4, 13, 6, 8, 9, 10, 0, 15]

/-- An identity for the object with a number. -/
def numbered (n : Nat) : Identity :=
  ⟨sharedDigits ++ digitsOf 12 n, by simp [sharedDigits, length_digitsOf]⟩

instance : Inhabited Identity := ⟨nil⟩

/-- A digit in lower case. -/
def digitCharacter (digit : Fin 16) : Char := Nat.digitChar digit.val

/-- The value of a hexadecimal digit in either case. -/
def digit? (c : Char) : Option (Fin 16) :=
  if '0' ≤ c ∧ c ≤ '9' then some (Fin.ofNat 16 (c.toNat - '0'.toNat))
  else if 'a' ≤ c ∧ c ≤ 'f' then some (Fin.ofNat 16 (c.toNat - 'a'.toNat + 10))
  else if 'A' ≤ c ∧ c ≤ 'F' then some (Fin.ofNat 16 (c.toNat - 'A'.toNat + 10))
  else none

/-- The sizes of the groups of digits. -/
def groups : List Nat := [8, 4, 4, 4, 12]

/-- Puts hyphens between groups of the given sizes. -/
def hyphenated : List Nat → List Char → List Char
  | [], characters => characters
  | [_], characters => characters
  | size :: sizes, characters =>
    characters.take size ++ '-' :: hyphenated sizes (characters.drop size)

/-- Takes the hyphens between groups of the given sizes out, if they stand there. -/
def withoutHyphens? : List Nat → List Char → Option (List Char)
  | [], characters => some characters
  | [_], characters => some characters
  | size :: sizes, characters =>
    match characters.drop size with
    | '-' :: rest => (withoutHyphens? sizes rest).map (characters.take size ++ ·)
    | _ => none

/-- The written form. -/
def text (identity : Identity) : String :=
  String.ofList (hyphenated groups (identity.digits.map digitCharacter))

/-- Thirty-two digits without anything between them. -/
def ofDigits? (characters : List Char) : Option Identity :=
  match characters.mapM digit? with
  | some digits => if size_eq : digits.length = 32 then some ⟨digits, size_eq⟩ else none
  | none => none

/-- Digits in groups with hyphens between them. -/
def ofGroups? (characters : List Char) : Option Identity :=
  (withoutHyphens? groups characters).bind ofDigits?

/-- The scheme that may stand before the groups. -/
def scheme : List Char := "urn:uuid:".toList

/-- Whether a text begins with the scheme, in letters of either case. -/
def hasScheme (characters : List Char) : Bool :=
  scheme.isPrefixOf (characters.map Char.toLower)

/-- What stands between braces or after the scheme, if one of these is written. -/
def bare (characters : List Char) : List Char :=
  if hasScheme characters then characters.drop scheme.length
  else if characters.head? = some '\x7b' ∧ characters.getLast? = some '\x7d' then
    characters.tail.dropLast
  else characters

/-- The identity that a text denotes. -/
def ofText? (text : String) : Option Identity :=
  if text.toList.length = 32 then ofDigits? text.toList else ofGroups? (bare text.toList)

/-- The identity of a JSON string. -/
def ofJson? (json : Json) : Option Identity := json.toText?.bind ofText?

/-- The JSON string of an identity. -/
def toJson (identity : Identity) : Json := Json.text identity.text

end Identity

end DesignRules

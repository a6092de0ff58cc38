/-
**Reading JSON.**

One value fills the whole text, white space around it apart. The grammar is the strict one: no
leading zeros, no bare points, no control characters in strings, nothing after the value. Each
reader takes the rest of the text and gives what it read with what remains; `limit` bounds the
length of a chain of calls, and no chain is longer than three times the text.

* `Json.ofCharacters?`, `Json.ofText?`: the value of a whole text.
-/

import DesignRules.Json.Number

namespace DesignRules.Json

/-- The four characters that may stand between tokens. -/
def isSpace (c : Char) : Bool := c == ' ' || c == '\n' || c == '\t' || c == '\r'

/-- The text from its first character that is no space. -/
def skipSpace (characters : List Char) : List Char := characters.dropWhile isSpace

namespace Reader

/-! ### Numbers -/

/-- One digit or more. -/
def digits? (characters : List Char) : Option (List Char × List Char) :=
  match characters.span Decimal.isDigit with
  | ([], _) => none
  | found => some found

/-- The whole digits of a number: a zero alone or digits that do not start with one. -/
def whole? : List Char → Option (List Char × List Char)
  | '0' :: rest =>
    match rest with
    | next :: _ => if Decimal.isDigit next then none else some (['0'], rest)
    | [] => some (['0'], [])
  | characters => digits? characters

/-- The digits after a point, if a point follows. -/
def fraction? : List Char → Option (List Char × List Char)
  | '.' :: rest => digits? rest
  | characters => some ([], characters)

/-- The sign of an exponent. -/
def exponentSign : List Char → Bool × List Char
  | '-' :: rest => (true, rest)
  | '+' :: rest => (false, rest)
  | characters => (false, characters)

/-- An exponent, if one follows. -/
def exponent? : List Char → Option (Option Int × List Char)
  | characters@(mark :: rest) =>
    if mark = 'e' ∨ mark = 'E' then
      let (negative, rest) := exponentSign rest
      (digits? rest).map fun (digits, rest) =>
        let size := Decimal.digitsValue digits
        (some (if negative then -(size : Int) else size), rest)
    else some (none, characters)
  | [] => some (none, [])

/-- A number after its sign. -/
def unsigned? (negative : Bool) (characters : List Char) : Option (Number × List Char) := do
  let (whole, rest) ← whole? characters
  let (fraction, rest) ← fraction? rest
  let (exponent, rest) ← exponent? rest
  return (⟨negative, whole, fraction, exponent⟩, rest)

/-- A number. -/
def number? : List Char → Option (Number × List Char)
  | '-' :: rest => unsigned? true rest
  | characters => unsigned? false characters

/-! ### Strings -/

/-- The value of a hexadecimal digit. -/
def hexadecimal? (c : Char) : Option Nat :=
  if '0' ≤ c ∧ c ≤ '9' then some (c.toNat - '0'.toNat)
  else if 'a' ≤ c ∧ c ≤ 'f' then some (c.toNat - 'a'.toNat + 10)
  else if 'A' ≤ c ∧ c ≤ 'F' then some (c.toNat - 'A'.toNat + 10)
  else none

/-- The 16-bit unit that four hexadecimal digits name. -/
def unit? : List Char → Option (Nat × List Char)
  | a :: b :: c :: d :: rest => do
    let a ← hexadecimal? a
    let b ← hexadecimal? b
    let c ← hexadecimal? c
    let d ← hexadecimal? d
    return (((a * 16 + b) * 16 + c) * 16 + d, rest)
  | _ => none

/-- The character of an escape of one letter. -/
def escaped? : Char → Option Char
  | '"' => some '"'
  | '\\' => some '\\'
  | '/' => some '/'
  | 'b' => some '\x08'
  | 'f' => some '\x0c'
  | 'n' => some '\n'
  | 'r' => some '\r'
  | 't' => some '\t'
  | _ => none

/-- Whether a unit is the first half of a pair. -/
def isHigh (unit : Nat) : Bool := 0xD800 ≤ unit && unit < 0xDC00

/-- Whether a unit is the second half of a pair. -/
def isLow (unit : Nat) : Bool := 0xDC00 ≤ unit && unit < 0xE000

/-- The character of a pair of units. -/
def paired (high low : Nat) : Char := Char.ofNat (0x10000 + (high - 0xD800) * 0x400 + (low - 0xDC00))

/-- The second half of a pair, if it is escaped next. -/
def low? : List Char → Option (Nat × List Char)
  | '\\' :: 'u' :: rest => (unit? rest).filter fun found => isLow found.1
  | _ => none

/-- What follows the `u` of an escape; no character for half of a pair. -/
def unitEscape? (characters : List Char) : Option (Option Char × List Char) := do
  let (unit, rest) ← unit? characters
  if isHigh unit then
    match low? rest with
    | some (low, rest) => return (some (paired unit low), rest)
    | none => return (none, rest)
  else if isLow unit then return (none, rest)
  else return (some (Char.ofNat unit), rest)

/-- What follows the backslash of an escape. -/
def escape? : List Char → Option (Option Char × List Char)
  | 'u' :: rest => unitEscape? rest
  | mark :: rest => (escaped? mark).map fun c => (some c, rest)
  | [] => none

/-- A string after its opening quote; `content` holds the characters so far in reverse. -/
def string? : Nat → Option (List Char) → List Char → Option (Content × List Char)
  | 0, _, _ => none
  | _ + 1, _, [] => none
  | limit + 1, content, c :: rest =>
    if c = '"' then some (content.map fun reversed => String.ofList reversed.reverse, rest)
    else if c = '\\' then
      match escape? rest with
      | none => none
      | some (none, rest) => string? limit none rest
      | some (some c, rest) => string? limit (content.map (c :: ·)) rest
    else if c.toNat < 0x20 then none
    else string? limit (content.map (c :: ·)) rest

/-! ### Values -/

/-- The rest of the text after a fixed word. -/
def word? : List Char → List Char → Option (List Char)
  | [], rest => some rest
  | expected :: word, c :: rest => if c = expected then word? word rest else none
  | _ :: _, [] => none

mutual

/-- A value, space before it apart. -/
def value? (limit : Nat) (characters : List Char) : Option (Json × List Char) :=
  match limit with
  | 0 => none
  | limit + 1 =>
    match skipSpace characters with
    | 'n' :: rest => (word? ['u', 'l', 'l'] rest).map (Json.null, ·)
    | 't' :: rest => (word? ['r', 'u', 'e'] rest).map (Json.bool true, ·)
    | 'f' :: rest => (word? ['a', 'l', 's', 'e'] rest).map (Json.bool false, ·)
    | '"' :: rest =>
      (string? limit (some []) rest).map fun (content, rest) =>
        (Json.string content, rest)
    | '[' :: rest =>
      match skipSpace rest with
      | ']' :: rest => some (.array [], rest)
      | rest => (items? limit rest).map fun (items, rest) => (Json.array items, rest)
    | '\x7b' :: rest =>
      match skipSpace rest with
      | '\x7d' :: rest => some (.object [], rest)
      | rest => (members? limit rest).map fun (members, rest) => (Json.object members, rest)
    | rest => (number? rest).map fun (literal, rest) => (Json.number literal, rest)

/-- The items of an array up to its closing bracket, one at least. -/
def items? (limit : Nat) (characters : List Char) : Option (List Json × List Char) :=
  match limit with
  | 0 => none
  | limit + 1 =>
    match value? limit characters with
    | none => none
    | some (item, rest) =>
      match skipSpace rest with
      | ',' :: rest => (items? limit rest).map fun (items, rest) => (item :: items, rest)
      | ']' :: rest => some ([item], rest)
      | _ => none

/-- The members of an object up to its closing brace, one at least. -/
def members? (limit : Nat) (characters : List Char) :
    Option (List (Content × Json) × List Char) :=
  match limit with
  | 0 => none
  | limit + 1 =>
    match member? limit characters with
    | none => none
    | some (member, rest) =>
      match skipSpace rest with
      | ',' :: rest => (members? limit rest).map fun (members, rest) => (member :: members, rest)
      | '\x7d' :: rest => some ([member], rest)
      | _ => none

/-- A member of an object: its name, a colon and its value. -/
def member? (limit : Nat) (characters : List Char) : Option ((Content × Json) × List Char) :=
  match limit with
  | 0 => none
  | limit + 1 =>
    match skipSpace characters with
    | '"' :: rest =>
      match string? limit (some []) rest with
      | none => none
      | some (name, rest) =>
        match skipSpace rest with
        | ':' :: rest => (value? limit rest).map fun (value, rest) => ((name, value), rest)
        | _ => none
    | _ => none

end

end Reader

/-- The value that fills a text. -/
def ofCharacters? (characters : List Char) : Option Json :=
  match Reader.value? (3 * characters.length + 1) characters with
  | some (value, rest) => if (skipSpace rest).isEmpty then some value else none
  | none => none

/-- The value that fills a text. -/
def ofText? (text : String) : Option Json := ofCharacters? text.toList

end DesignRules.Json

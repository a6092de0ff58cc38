/-
**Writing JSON.**

Values are laid out with one item or member a line and two spaces of indentation a level; empty
arrays and objects are written without space inside.

* `Json.quoted`: the literal of a text; only quotes, backslashes and control characters are escaped.
* `Json.pretty`: the text of a value.
-/

import DesignRules.Json.Number

namespace DesignRules.Json

/-- The hexadecimal digit of a number below sixteen. -/
def hexadecimalDigit (n : Nat) : Char := Nat.digitChar n

/-- A character inside a string literal. -/
def escape (c : Char) : List Char :=
  if c = '"' then ['\\', '"']
  else if c = '\\' then ['\\', '\\']
  else if c = '\x08' then ['\\', 'b']
  else if c = '\t' then ['\\', 't']
  else if c = '\n' then ['\\', 'n']
  else if c = '\x0c' then ['\\', 'f']
  else if c = '\r' then ['\\', 'r']
  else if c.toNat < 0x20 then
    ['\\', 'u', '0', '0', hexadecimalDigit (c.toNat / 16), hexadecimalDigit (c.toNat % 16)]
  else [c]

/-- The string literal of a text. -/
def quoted (text : String) : List Char := '"' :: (text.toList.flatMap escape ++ ['"'])

/-- The string literal of a content; half of a pair is never written. -/
def contentCharacters (content : Content) : List Char := quoted (content.getD "")

/-- A line break and the indentation of a level. -/
def newLine (level : Nat) : List Char := '\n' :: List.replicate (2 * level) ' '

mutual

/-- The text of a value whose first line is already indented for `level`. -/
def layout (level : Nat) : Json → List Char
  | .null => "null".toList
  | .bool true => "true".toList
  | .bool false => "false".toList
  | .number literal => literal.characters
  | .string content => contentCharacters content
  | .array [] => ['[', ']']
  | .array (item :: items) =>
    '[' :: newLine (level + 1) ++ layout (level + 1) item ++ layoutItems (level + 1) items ++
      newLine level ++ [']']
  | .object [] => ['\x7b', '\x7d']
  | .object ((name, value) :: members) =>
    '\x7b' :: newLine (level + 1) ++ contentCharacters name ++ [':', ' '] ++
      layout (level + 1) value ++ layoutMembers (level + 1) members ++ newLine level ++ ['\x7d']

/-- The items of an array after the first. -/
def layoutItems (level : Nat) : List Json → List Char
  | [] => []
  | item :: items => ',' :: newLine level ++ layout level item ++ layoutItems level items

/-- The members of an object after the first. -/
def layoutMembers (level : Nat) : List (Content × Json) → List Char
  | [] => []
  | (name, value) :: members =>
    ',' :: newLine level ++ contentCharacters name ++ [':', ' '] ++ layout level value ++
      layoutMembers level members

end

/-- The text of a value. -/
def pretty (value : Json) : String := String.ofList (layout 0 value)

end DesignRules.Json

/-
**Values of the JSON format.**

* `Json.Number`: a number as it is written, digit by digit.
* `Json.Content`: what a string literal denotes, which is nothing where it escapes half of a pair.
* `Json`: a value; the members of an object keep their order and may repeat a name.
-/

namespace DesignRules

namespace Json

/-- A number as written: a sign, whole digits, digits after the point (none where no point is
written) and an exponent. -/
structure Number where
  negative : Bool
  whole : List Char
  fraction : List Char
  exponent : Option Int
  deriving DecidableEq, Repr

/-- What a string literal denotes: a text, or nothing where an escape names half of a surrogate
pair. -/
abbrev Content := Option String

end Json

/-- A JSON value. -/
inductive Json where
  | null
  | bool (value : Bool)
  | number (literal : Json.Number)
  | string (content : Json.Content)
  | array (items : List Json)
  | object (members : List (Json.Content × Json))
  deriving Repr

namespace Json

instance : Inhabited Json := ⟨.null⟩

/-- A string value holding a text. -/
def text (value : String) : Json := .string (some value)

/-- An object with named members. -/
def record (members : List (String × Json)) : Json :=
  .object (members.map fun member => (some member.1, member.2))

/-- A value or `null` where there is none. -/
def orNull {α : Type} (write : α → Json) : Option α → Json
  | none => .null
  | some value => write value

end Json

end DesignRules

/-
**Decoding records from JSON.**

A record is written as an object, whose members may come in any order and among unknown ones, or as
an array of its fields in their order. A known name given twice is refused. An alternative is a
name alone, or an object with that name as its one member.

* `Json.fields?`: what a record gives for each of its fields.
* `required?`, `withDefault?`, `optional?`: a field that has to be given, one with a default, and one
  that may be `null` or left out.
* `Json.alternative?`: the name and the payload of an alternative.
-/

import DesignRules.Json.Basic

namespace DesignRules.Json

/-- What a record gives for a field: a value, or nothing because the object has no such member or
the array is too short. -/
inductive Given where
  | value (json : Json)
  | noMember
  | noItem
  deriving Repr

/-- The values of the members with a name. -/
def valuesOf (members : List (String × Json)) (name : String) : List Json :=
  members.filterMap fun member => if member.1 = name then some member.2 else none

/-- What an object's members give for a field; none where the name is given twice. -/
def givenMember? (members : List (String × Json)) (name : String) : Option Given :=
  match valuesOf members name with
  | [] => some .noMember
  | [json] => some (.value json)
  | _ => none

/-- A member whose name denotes a text. -/
def named? (member : Content × Json) : Option (String × Json) :=
  member.1.map fun name => (name, member.2)

/-- What a record gives for each of the named fields. -/
def fields? (names : List String) : Json → Option (List Given)
  | .object members => do
    let members ← members.mapM named?
    names.mapM (givenMember? members)
  | .array items =>
    if items.length ≤ names.length then
      some (items.map Given.value ++ List.replicate (names.length - items.length) Given.noItem)
    else none
  | _ => none

variable {α : Type}

/-- A field that has to be given. -/
def required? (read : Json → Option α) : Given → Option α
  | .value json => read json
  | _ => none

/-- A field with a default. -/
def withDefault? (default : α) (read : Json → Option α) : Given → Option α
  | .value json => read json
  | _ => some default

/-- A value or `null`. -/
def nullable? (read : Json → Option α) : Json → Option (Option α)
  | .null => some none
  | json => (read json).map some

/-- A field that may be `null`, or left out of an object but not of an array. -/
def optional? (read : Json → Option α) : Given → Option (Option α)
  | .value json => nullable? read json
  | .noMember => some none
  | .noItem => none

/-- A text. -/
def toText? : Json → Option String
  | .string content => content
  | _ => none

/-- A truth value. -/
def toBool? : Json → Option Bool
  | .bool value => some value
  | _ => none

/-- A list of values of one kind. -/
def toList? (read : Json → Option α) : Json → Option (List α)
  | .array items => items.mapM read
  | _ => none

/-- Reads values that know their position, the first of which is `position`. -/
def mapFrom? (read : Nat → Json → Option α) : Nat → List Json → Option (List α)
  | _, [] => some []
  | position, item :: items => do
    return (← read position item) :: (← mapFrom? read (position + 1) items)

/-- A list of values that know their position. -/
def toIndexedList? (read : Nat → Json → Option α) : Json → Option (List α)
  | .array items => mapFrom? read 0 items
  | _ => none

/-- The name and the payload of an alternative; a name alone has the payload `null`. -/
def alternative? : Json → Option (String × Option Json)
  | .string content => content.map fun name => (name, none)
  | .object [member] => (named? member).map fun (name, payload) => (name, some payload)
  | _ => none

/-- One of several names, alone or with the payload `null`. -/
def oneOf? (names : List (String × α)) (json : Json) : Option α :=
  match alternative? json with
  | some (name, none) => names.lookup name
  | some (name, some .null) => names.lookup name
  | _ => none

end DesignRules.Json

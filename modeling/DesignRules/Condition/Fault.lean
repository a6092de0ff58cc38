/-
**What is wrong with a condition.**

A fault has a cause and a place: the byte offset in the text of the condition and the text found
there.

* `Fault.message`: the text shown for a fault.
-/

namespace DesignRules.Condition

/-- Why a condition is not usable. -/
inductive Cause where
  /-- The condition has no token. -/
  | empty
  /-- A character starts no token. -/
  | unexpectedCharacter
  /-- A quoted text has no closing quote. -/
  | unterminatedString
  /-- A number cannot be read. -/
  | invalidNumber
  /-- The letters after a number name no unit. -/
  | unknownUnit
  /-- No condition goes on with this token. -/
  | unexpectedToken
  /-- The condition stops too early. -/
  | unexpectedEnd
  /-- A name before a point is no slot. -/
  | unknownSlot
  /-- An object's slot stands alone. -/
  | slotNeedsField
  /-- No function or method has this name. -/
  | unknownFunction
  /-- A function is called with a wrong number of arguments. -/
  | arity (expected found : Nat)
  deriving DecidableEq, Repr

/-- The text of a cause. -/
def Cause.message : Cause → String
  | .empty => "empty expression"
  | .unexpectedCharacter => "unexpected character"
  | .unterminatedString => "unterminated string literal"
  | .invalidNumber => "invalid number"
  | .unknownUnit => "unknown unit"
  | .unexpectedToken => "unexpected token"
  | .unexpectedEnd => "unexpected end of expression"
  | .unknownSlot => "unknown slot"
  | .slotNeedsField => "slot must be followed by a field"
  | .unknownFunction => "unknown function"
  | .arity expected found =>
    "expected " ++ toString expected ++ " argument(s), found " ++ toString found

/-- A cause with its place in the text of the condition. -/
structure Fault where
  cause : Cause
  offset : Nat
  token : String
  deriving DecidableEq, Repr

/-- The text of a fault. -/
def Fault.message (fault : Fault) : String :=
  fault.cause.message ++ " at offset " ++ toString fault.offset ++ " ('" ++ fault.token ++ "')"

end DesignRules.Condition

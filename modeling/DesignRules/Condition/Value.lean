/-
**The values of conditions.**

* `Value`: a number, a text, a pattern, a layer, or nothing at all where an object lacks a field.
* `Value.agrees?`: whether two values are equal, which nothing is with an undefined one. A text
  fits a pattern; a layer is compared through its name.
* `Value.isTrue`: only a number other than zero is true.
-/

import DesignRules.Layer
import DesignRules.Scalar

namespace DesignRules.Condition

/-- A value of a condition. -/
inductive Value (K : Type) where
  | number (value : K)
  | text (content : String)
  | pattern (glob : Pattern)
  | layer (id : LayerId)
  | undefined
  deriving DecidableEq, Repr

namespace Value

variable {K : Type} [Scalar K]

/-- A truth value as a number. -/
def ofBool (value : Bool) : Value K := .number (if value then 1.0 else 0.0)

omit [Scalar K] in
/-- A quoted text, which is a pattern if it has wildcards. -/
def ofQuoted (content : String) : Value K :=
  if Pattern.hasWildcard content then .pattern ⟨content⟩ else .text content

omit [Scalar K] in
/-- Whether the value is undefined. -/
def isUndefined : Value K → Bool
  | .undefined => true
  | _ => false

/-- Whether the value counts as true. -/
def isTrue : Value K → Bool
  | .number value => !(value == 0.0)
  | _ => false

omit [Scalar K] in
/-- The number, if the value is one. -/
def toNumber? : Value K → Option K
  | .number value => some value
  | _ => none

omit [Scalar K] in
/-- The name of the value's type. -/
def typeName : Value K → String
  | .number _ => "numeric"
  | .text _ => "string"
  | .pattern _ => "pattern"
  | .layer _ => "layer"
  | .undefined => "undefined"

/-- The text of a value in listings. -/
def display : Value K → String
  | .number value => Scalar.plainText value
  | .text content => "'" ++ content ++ "'"
  | .pattern glob => "glob '" ++ glob.source ++ "'"
  | .layer id => "layer#" ++ toString id.toNat
  | .undefined => "<undefined>"

omit [Scalar K] in
/-- Whether a layer has a name. -/
def isNamed (stack : LayerStack) (id : LayerId) (name : String) : Bool :=
  match stack.find? id with
  | some found => found.name == name
  | none => false

/-- Whether two values are equal; none if one is undefined. -/
def agrees? (stack : LayerStack) : Value K → Value K → Option Bool
  | .undefined, _ => none
  | _, .undefined => none
  | .number a, .number b => some (a == b)
  | .text a, .text b => some (a == b)
  | .text content, .pattern glob => some (glob.isMatch content)
  | .pattern glob, .text content => some (glob.isMatch content)
  | .pattern a, .pattern b => some (a == b)
  | .layer a, .layer b => some (a == b)
  | .layer id, .text name => some (isNamed stack id name)
  | .text name, .layer id => some (isNamed stack id name)
  | .layer id, .pattern glob => some (stack.fits id glob)
  | .pattern glob, .layer id => some (stack.fits id glob)
  | _, _ => some false

end Value

end DesignRules.Condition

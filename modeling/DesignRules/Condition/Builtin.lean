/-
**Functions that conditions can call.**

* `Builtin.find?`: the function or the method with a name; the two do not share names.
* `Builtin.apply`: the value of a call. An undefined argument, or one of a wrong type, makes the
  whole call undefined.
-/

import DesignRules.Condition.Field

namespace DesignRules.Condition

/-- A function that conditions can call. -/
inductive Builtin where
  /-- Whether an object lies on a layer with a fitting name. -/
  | existsOnLayer
  | abs
  | min
  | max
  deriving DecidableEq, Repr

namespace Builtin

/-- The functions that are called on an object. -/
def methods : List (String × Builtin) := [("existsOnLayer", .existsOnLayer)]

/-- The functions that are called on their own. -/
def functions : List (String × Builtin) := [("abs", .abs), ("min", .min), ("max", .max)]

/-- The method or the function with a name. -/
def find? (isMethod : Bool) (name : String) : Option Builtin :=
  (if isMethod then methods else functions).lookup name

/-- The name of a function. -/
def name : Builtin → String
  | .existsOnLayer => "existsOnLayer"
  | .abs => "abs"
  | .min => "min"
  | .max => "max"

/-- How many arguments a function takes. -/
def arity : Builtin → Nat
  | .existsOnLayer => 1
  | .abs => 1
  | .min => 2
  | .max => 2

variable {K : Type} [Scalar K]

/-- Whether an item lies on a layer that agrees with a value. -/
def onLayer (stack : LayerStack) (item : Item K) (name : Value K) : Bool :=
  item.layers.any fun layer => (Value.layer layer).agrees? stack name == some true

/-- The value of a call whose arguments are all defined. -/
def applyDefined (stack : LayerStack) (receiver : Option (Item K)) :
    Builtin → List (Value K) → Value K
  | .existsOnLayer, [.text name] =>
    receiver.elim .undefined fun item => .ofBool (onLayer stack item (.text name))
  | .existsOnLayer, [.pattern pattern] =>
    receiver.elim .undefined fun item => .ofBool (onLayer stack item (.pattern pattern))
  | .abs, [.number a] => .number (Scalar.magnitude a)
  | .min, [.number a, .number b] => .number (Scalar.lesser a b)
  | .max, [.number a, .number b] => .number (Scalar.greater a b)
  | _, _ => .undefined

/-- The value of a call. -/
def apply (stack : LayerStack) (receiver : Option (Item K)) (builtin : Builtin)
    (arguments : List (Value K)) : Value K :=
  if arguments.any Value.isUndefined then .undefined
  else builtin.applyDefined stack receiver arguments

end Builtin

end DesignRules.Condition

/-
**Designs.**

A design holds the layers of its technology and its items, both in order.

* `Design.validate`: whether each item lies on layers that the design has.
* `Design.find?`: the first item with an identity.
-/

import DesignRules.Item
import DesignRules.Layer

namespace DesignRules

/-- A layout with its layers. -/
structure Design (K : Type) where
  id : Identity
  name : String
  stack : LayerStack
  items : List (Item K)
  deriving DecidableEq

/-- What makes a design unusable. -/
inductive DesignError where
  /-- The text is not the JSON form of a design. -/
  | malformed
  /-- An item lies on a layer that the design does not have. -/
  | undefinedLayer (item : Identity) (layer : LayerId)
  deriving DecidableEq

/-- The text of an error. -/
def DesignError.message : DesignError → String
  | .malformed => "Invalid design JSON"
  | .undefinedLayer item layer =>
    "Item " ++ item.text ++ " references undefined layer " ++ toString layer.toNat

namespace Design

variable {K : Type}

/-- A design without layers and items. -/
def empty (name : String) : Design K := ⟨.nil, name, {}, []⟩

/-- A design with one more item. -/
def addItem (design : Design K) (item : Item K) : Design K :=
  { design with items := design.items ++ [item] }

/-- A design with one more layer. -/
def addLayer (design : Design K) (layer : Layer) : Design K :=
  { design with stack := design.stack.add layer }

/-- The first item with an identity. -/
def find? (design : Design K) (id : Identity) : Option (Item K) :=
  design.items.find? fun item => item.id == id

/-- The position of the first item with an identity. -/
def indexOf? (design : Design K) (id : Identity) : Option Nat :=
  design.items.findIdx? fun item => item.id == id

/-- The items with their positions. -/
def indexed (design : Design K) : List (Nat × Item K) :=
  (List.range design.items.length).zip design.items

/-- The first reference to a layer that the design does not have, items in order and the layers of
each in its own order. -/
def undefined? (design : Design K) : Option (Identity × LayerId) :=
  design.items.findSome? fun item =>
    (item.layers.find? fun layer => (design.stack.find? layer).isNone).map fun layer =>
      (item.id, layer)

/-- Whether each item lies on layers that the design has. -/
def validate (design : Design K) : Except DesignError Unit :=
  match design.undefined? with
  | some (item, layer) => .error (.undefinedLayer item layer)
  | none => .ok ()

end Design

end DesignRules

/-
**Items of a layout.**

An item is a shape with a name and what it is connected to.

* `Item.sameNet`: whether two items are on the same named net.
* `Item.isOn`: whether an item lies on a layer.
-/

import DesignRules.Geometry.Shape
import DesignRules.Identity

namespace DesignRules

/-- A shape of the layout with its attributes. -/
structure Item (K : Type) where
  id : Identity
  name : String := ""
  net : Option String := none
  netClass : Option String := none
  shape : Shape K
  deriving DecidableEq

namespace Item

variable {K : Type} [Scalar K]

omit [Scalar K] in
/-- The kind of the item's shape. -/
def kind (item : Item K) : Kind := item.shape.kind

omit [Scalar K] in
/-- The layers that the item lies on. -/
def layers (item : Item K) : List LayerId := item.shape.layers

omit [Scalar K] in
/-- Whether the item lies on a layer. -/
def isOn (item : Item K) (layer : LayerId) : Bool := item.layers.contains layer

/-- The box around the item's shape. -/
def box? (item : Item K) : Option (Box K) := item.shape.box?

omit [Scalar K] in
/-- Whether two items are on the same net; an item without a net shares none. -/
def sameNet (first second : Item K) : Bool :=
  match first.net, second.net with
  | some net, some other => net == other
  | _, _ => false

end Item

end DesignRules

/-
**Layers of a technology.**

* `Layer`: a layer with the number by which shapes refer to it and the name by which rules do.
* `LayerStack`: the layers of a technology in order; where a number or a name repeats, the first
  layer counts.
* `LayerStack.fits`: whether the name of a layer fits a pattern.
-/

import DesignRules.Geometry.Shape
import DesignRules.Pattern

namespace DesignRules

/-- The role of a layer in the technology. -/
inductive LayerKind where
  | conductor
  | cut
  | dielectric
  | marker
  deriving DecidableEq, Repr

/-- The name of each role. -/
def LayerKind.names : List (String × LayerKind) :=
  [("Conductor", .conductor), ("Cut", .cut), ("Dielectric", .dielectric), ("Marker", .marker)]

/-- The name of a role. -/
def LayerKind.name : LayerKind → String
  | .conductor => "Conductor"
  | .cut => "Cut"
  | .dielectric => "Dielectric"
  | .marker => "Marker"

/-- A layer that rules can refer to by name. -/
structure Layer where
  id : LayerId
  name : String
  kind : LayerKind
  description : String := ""
  deriving DecidableEq, Repr

/-- The layers of a technology. -/
structure LayerStack where
  layers : List Layer := []
  deriving DecidableEq, Repr

namespace LayerStack

/-- A stack with one more layer. -/
def add (stack : LayerStack) (layer : Layer) : LayerStack := ⟨stack.layers ++ [layer]⟩

/-- The layer with a number. -/
def find? (stack : LayerStack) (id : LayerId) : Option Layer :=
  stack.layers.find? fun layer => layer.id == id

/-- The layer with a name. -/
def named? (stack : LayerStack) (name : String) : Option Layer :=
  stack.layers.find? fun layer => layer.name == name

/-- The name of a layer, or its number after a hash where the stack has none. -/
def nameOf (stack : LayerStack) (id : LayerId) : String :=
  match stack.find? id with
  | some layer => layer.name
  | none => "#" ++ toString id.toNat

/-- Whether the name of a layer fits a pattern; no pattern fits a layer that the stack lacks. -/
def fits (stack : LayerStack) (id : LayerId) (pattern : Pattern) : Bool :=
  match stack.find? id with
  | some layer => pattern.isMatch layer.name
  | none => false

/-- How many layers the stack has. -/
def size (stack : LayerStack) : Nat := stack.layers.length

end LayerStack

end DesignRules

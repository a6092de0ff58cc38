/-
**The JSON form of designs.**

A record is written with its fields in the order of their declaration, an absent value as `null`. A
design without an identity is given that of all zeros, and an item one by its position.

* `Design.toJson`, `Design.ofJson?`: writing and reading.
* `Design.text`, `Design.ofText`: the same for texts; reading also validates the design.
-/

import DesignRules.Design.Basic
import DesignRules.Json.Printer
import DesignRules.Json.Reader

namespace DesignRules

/-! ### Numbers -/

namespace Json

/-- A binary64 number; `null` for what is not finite. -/
def ofFloat (x : Float) : Json := orNull Json.number (Number.ofFloat? x)

/-- A binary64 number in range. -/
def toFloat? : Json → Option Float
  | .number literal => literal.toFloat?
  | _ => none

/-- A natural number. -/
def ofNat (n : Nat) : Json := .number (Number.ofNat n)

/-- A natural number that is at most `largest`. -/
def toNatUpTo? (largest : Nat) : Json → Option Nat
  | .number literal => literal.toNatUpTo? largest
  | _ => none

end Json

open Json

/-! ### Geometry -/

namespace Point

def toJson (point : Point Float) : Json :=
  .record [("x", ofFloat point.x), ("y", ofFloat point.y)]

def ofJson? (json : Json) : Option (Point Float) := do
  match ← json.fields? ["x", "y"] with
  | [x, y] => return ⟨← required? toFloat? x, ← required? toFloat? y⟩
  | _ => none

end Point

/-- The JSON number of a layer's number. -/
def layerIdToJson (layer : LayerId) : Json := .ofNat layer.toNat

/-- A layer's number, which has 32 bits. -/
def layerIdOfJson? (json : Json) : Option LayerId :=
  (toNatUpTo? (UInt32.size - 1) json).map UInt32.ofNat

namespace Rectangle

def toJson (shape : Rectangle Float) : Json :=
  .record
    [("layer_id", layerIdToJson shape.layer), ("lower_left", shape.lowerLeft.toJson),
      ("upper_right", shape.upperRight.toJson)]

def ofJson? (json : Json) : Option (Rectangle Float) := do
  match ← json.fields? ["layer_id", "lower_left", "upper_right"] with
  | [layer, lowerLeft, upperRight] =>
    return ⟨← required? layerIdOfJson? layer, ← required? Point.ofJson? lowerLeft,
      ← required? Point.ofJson? upperRight⟩
  | _ => none

end Rectangle

namespace Polygon

def toJson (shape : Polygon Float) : Json :=
  .record
    [("layer_id", layerIdToJson shape.layer), ("vertices", .array (shape.vertices.map Point.toJson))]

def ofJson? (json : Json) : Option (Polygon Float) := do
  match ← json.fields? ["layer_id", "vertices"] with
  | [layer, vertices] =>
    return ⟨← required? layerIdOfJson? layer, ← required? (toList? Point.ofJson?) vertices⟩
  | _ => none

end Polygon

namespace Path

def toJson (shape : Path Float) : Json :=
  .record
    [("layer_id", layerIdToJson shape.layer), ("points", .array (shape.points.map Point.toJson)),
      ("width", ofFloat shape.width)]

def ofJson? (json : Json) : Option (Path Float) := do
  match ← json.fields? ["layer_id", "points", "width"] with
  | [layer, points, width] =>
    return ⟨← required? layerIdOfJson? layer, ← required? (toList? Point.ofJson?) points,
      ← required? toFloat? width⟩
  | _ => none

end Path

namespace Via

def toJson (shape : Via Float) : Json :=
  .record
    [("bottom_layer", layerIdToJson shape.bottomLayer), ("top_layer", layerIdToJson shape.topLayer),
      ("cut_layer", layerIdToJson shape.cutLayer), ("position", shape.position.toJson),
      ("width", ofFloat shape.width), ("height", ofFloat shape.height)]

def ofJson? (json : Json) : Option (Via Float) := do
  match ← json.fields?
    ["bottom_layer", "top_layer", "cut_layer", "position", "width", "height"] with
  | [bottom, top, cut, position, width, height] =>
    return ⟨← required? layerIdOfJson? bottom, ← required? layerIdOfJson? top,
      ← required? layerIdOfJson? cut, ← required? Point.ofJson? position,
      ← required? toFloat? width, ← required? toFloat? height⟩
  | _ => none

end Via

namespace Shape

def toJson : Shape Float → Json
  | .rectangle shape => .record [("Rect", shape.toJson)]
  | .polygon shape => .record [("Polygon", shape.toJson)]
  | .path shape => .record [("Path", shape.toJson)]
  | .via shape => .record [("Via", shape.toJson)]

def ofJson? (json : Json) : Option (Shape Float) :=
  match json.alternative? with
  | some ("Rect", some payload) => (Rectangle.ofJson? payload).map .rectangle
  | some ("Polygon", some payload) => (Polygon.ofJson? payload).map .polygon
  | some ("Path", some payload) => (Path.ofJson? payload).map .path
  | some ("Via", some payload) => (Via.ofJson? payload).map .via
  | _ => none

end Shape

/-! ### Items, layers and designs -/

namespace Item

def toJson (item : Item Float) : Json :=
  .record
    [("id", item.id.toJson), ("name", .text item.name), ("net", orNull .text item.net),
      ("net_class", orNull .text item.netClass), ("shape", item.shape.toJson)]

/-- The item of a JSON value; `position` identifies an item that gives no identity. -/
def ofJson? (position : Nat) (json : Json) : Option (Item Float) := do
  match ← json.fields? ["id", "name", "net", "net_class", "shape"] with
  | [id, name, net, netClass, shape] =>
    return ⟨← withDefault? (.numbered position) Identity.ofJson? id, ← withDefault? "" toText? name,
      ← withDefault? none (nullable? toText?) net, ← withDefault? none (nullable? toText?) netClass,
      ← required? Shape.ofJson? shape⟩
  | _ => none

end Item

namespace Layer

def toJson (layer : Layer) : Json :=
  .record
    [("id", layerIdToJson layer.id), ("name", .text layer.name), ("kind", .text layer.kind.name),
      ("description", .text layer.description)]

def ofJson? (json : Json) : Option Layer := do
  match ← json.fields? ["id", "name", "kind", "description"] with
  | [id, name, kind, description] =>
    return ⟨← required? layerIdOfJson? id, ← required? toText? name,
      ← required? (oneOf? LayerKind.names) kind, ← withDefault? "" toText? description⟩
  | _ => none

end Layer

namespace LayerStack

def toJson (stack : LayerStack) : Json :=
  .record [("layers", .array (stack.layers.map Layer.toJson))]

def ofJson? (json : Json) : Option LayerStack := do
  match ← json.fields? ["layers"] with
  | [layers] => return ⟨← required? (toList? Layer.ofJson?) layers⟩
  | _ => none

end LayerStack

namespace Design

def toJson (design : Design Float) : Json :=
  .record
    [("id", design.id.toJson), ("name", .text design.name), ("layer_stack", design.stack.toJson),
      ("items", .array (design.items.map Item.toJson))]

def ofJson? (json : Json) : Option (Design Float) := do
  match ← json.fields? ["id", "name", "layer_stack", "items"] with
  | [id, name, stack, items] =>
    return ⟨← withDefault? .nil Identity.ofJson? id, ← required? toText? name,
      ← required? LayerStack.ofJson? stack, ← withDefault? [] (toIndexedList? Item.ofJson?) items⟩
  | _ => none

/-- The text of a design. -/
def text (design : Design Float) : String := pretty design.toJson

/-- The design of a JSON value, if each of its items lies on layers that it has. -/
def ofJson (json : Json) : Except DesignError (Design Float) :=
  match ofJson? json with
  | none => .error .malformed
  | some design => design.validate.map fun _ => design

/-- The design that a text denotes, if each of its items lies on layers that it has. -/
def ofText (text : String) : Except DesignError (Design Float) :=
  match Json.ofText? text with
  | none => .error .malformed
  | some json => ofJson json

end Design

end DesignRules

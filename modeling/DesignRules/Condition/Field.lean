/-
**Fields of items.**

A condition reads the fields of an object by name. Every kind of object has the common fields and
some of its own.

* `Field.ofName?`: the field that a name stands for on a kind.
* `Field.readAs`: what a kind's field reads from an item, which is nothing on another kind.
* `Field.isKnown`: whether some kind has a field of a name.
* `Reader`, `Field.readers`: how each kind reads a name, chosen before there is an item.
-/

import DesignRules.Condition.Value
import DesignRules.Item

namespace DesignRules.Condition

/-- A field of an item. -/
inductive Field where
  | type
  | name
  | net
  | netClass
  | layer
  | width
  | height
  | area
  | vertexCount
  | length
  | size
  | topLayer
  | bottomLayer
  | cutLayer
  deriving DecidableEq, Repr

namespace Field

/-- The fields that every kind has. -/
def common : List Field := [.type, .name, .net, .netClass]

/-- The fields that a kind has besides; a via lies on several layers, so it has no single one. -/
def own : Kind → List Field
  | .rectangle => [.layer, .width, .height, .area]
  | .polygon => [.layer, .area, .vertexCount]
  | .track => [.layer, .width, .length]
  | .via => [.width, .height, .size, .topLayer, .bottomLayer, .cutLayer]

/-- The name by which conditions read a field. -/
def text : Field → String
  | .type => "Type"
  | .name => "Name"
  | .net => "Net"
  | .netClass => "NetClass"
  | .layer => "Layer"
  | .width => "Width"
  | .height => "Height"
  | .area => "Area"
  | .vertexCount => "VertexCount"
  | .length => "Length"
  | .size => "Size"
  | .topLayer => "TopLayer"
  | .bottomLayer => "BottomLayer"
  | .cutLayer => "CutLayer"

/-- The field of a kind with a name. -/
def ofName? (kind : Kind) (name : String) : Option Field :=
  (common ++ own kind).find? fun field => field.text == name

/-- Whether some kind has a field with a name. -/
def isKnown (name : String) : Bool := Kind.all.any fun kind => (ofName? kind name).isSome

/-- The net class of an item that has none of its own. -/
def defaultNetClass : String := "Default"

variable {K : Type} [Scalar K]

/-- What a field of its own kind reads from a shape. -/
def ofShape : Field → Shape K → Value K
  | .layer, .rectangle shape => .layer shape.layer
  | .width, .rectangle shape => .number shape.width
  | .height, .rectangle shape => .number shape.height
  | .area, .rectangle shape => .number shape.area
  | .layer, .polygon shape => .layer shape.layer
  | .area, .polygon shape => .number shape.area
  | .vertexCount, .polygon shape =>
    .number (OfScientific.ofScientific shape.vertices.length false 0)
  | .layer, .path shape => .layer shape.layer
  | .width, .path shape => .number shape.width
  | .length, .path shape => .number shape.length
  | .width, .via shape => .number shape.width
  | .height, .via shape => .number shape.height
  | .size, .via shape => .number shape.size
  | .topLayer, .via shape => .layer shape.topLayer
  | .bottomLayer, .via shape => .layer shape.bottomLayer
  | .cutLayer, .via shape => .layer shape.cutLayer
  | _, _ => .undefined

/-- What the field of a kind reads from an item; only common fields read from other kinds. -/
def readAs (kind : Kind) (field : Field) (item : Item K) : Value K :=
  match field with
  | .type => .text item.kind.name
  | .name => .text item.name
  | .net => .text (item.net.getD "")
  | .netClass => .text (item.netClass.getD defaultNetClass)
  | field => if item.kind = kind then field.ofShape item.shape else .undefined

/-- What an item has for a field by name: nothing where its kind lacks the field. -/
def read (name : String) (item : Item K) : Value K :=
  match ofName? item.kind name with
  | some field => field.readAs item.kind item
  | none => .undefined

end Field

/-! ### Readers -/

/-- A field as it stands in the table of a kind. -/
structure Reader where
  kind : Kind
  field : Field
  deriving DecidableEq, Repr

namespace Reader

/-- The reader that a kind has for a name. -/
def ofName? (kind : Kind) (name : String) : Option Reader :=
  (Field.ofName? kind name).map fun field => ⟨kind, field⟩

/-- What a reader reads from an item. -/
def read {K : Type} [Scalar K] (reader : Reader) (item : Item K) : Value K :=
  reader.field.readAs reader.kind item

end Reader

/-- The readers for a name, a place for each kind in the order of their numbers. -/
def Field.readers (name : String) : List (Option Reader) :=
  Kind.all.map fun kind => Reader.ofName? kind name

end DesignRules.Condition

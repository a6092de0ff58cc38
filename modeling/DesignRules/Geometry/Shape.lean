/-
**Shapes of a layout.**

A shape is a rectangle, a polygon, a path of some width or a via. Each lies on one layer, apart from
the via, which lies on its bottom, cut and top layer.

* `Rectangle.ofCorners`: the rectangle over two opposite corners given in any order.
* `Polygon.area`: the area inside an outline.
* `Shape.box?`, `Shape.layers`: the box around a shape, and the layers it lies on.
* `Shape.kind`: which of the four kinds a shape is.
-/

import DesignRules.Geometry.Box

namespace DesignRules

open Scalar

/-- The number by which shapes refer to a layer. -/
abbrev LayerId := UInt32

/-- A rectangle by its lower left and upper right corner. -/
structure Rectangle (K : Type) where
  layer : LayerId
  lowerLeft : Point K
  upperRight : Point K
  deriving DecidableEq, Repr

/-- A closed outline by its vertices. -/
structure Polygon (K : Type) where
  layer : LayerId
  vertices : List (Point K)
  deriving DecidableEq, Repr

/-- A centre line with a width. -/
structure Path (K : Type) where
  layer : LayerId
  points : List (Point K)
  width : K
  deriving DecidableEq, Repr

/-- A connection between two layers through a cut layer. -/
structure Via (K : Type) where
  bottomLayer : LayerId
  topLayer : LayerId
  cutLayer : LayerId
  position : Point K
  width : K
  height : K
  deriving DecidableEq, Repr

/-- A shape of the layout. -/
inductive Shape (K : Type) where
  | rectangle (shape : Rectangle K)
  | polygon (shape : Polygon K)
  | path (shape : Path K)
  | via (shape : Via K)
  deriving DecidableEq, Repr

variable {K : Type} [Scalar K]

namespace Rectangle

/-- The rectangle over two opposite corners. -/
def ofCorners (layer : LayerId) (x₁ y₁ x₂ y₂ : K) : Rectangle K :=
  { layer
    lowerLeft := ⟨lesser x₁ x₂, lesser y₁ y₂⟩
    upperRight := ⟨greater x₁ x₂, greater y₁ y₂⟩ }

omit [Scalar K] in
/-- The box over the two corners as they are. -/
def box (rectangle : Rectangle K) : Box K := ⟨rectangle.lowerLeft, rectangle.upperRight⟩

/-- The extent along the first axis. -/
def width (rectangle : Rectangle K) : K := rectangle.upperRight.x - rectangle.lowerLeft.x

/-- The extent along the second axis. -/
def height (rectangle : Rectangle K) : K := rectangle.upperRight.y - rectangle.lowerLeft.y

/-- The area. -/
def area (rectangle : Rectangle K) : K := rectangle.width * rectangle.height

end Rectangle

namespace Polygon

/-- The smallest box over the vertices. -/
def box? (polygon : Polygon K) : Option (Box K) := Box.around? polygon.vertices

omit [Scalar K] in
/-- The edges, the last of which leads back to the first vertex. -/
def edges (polygon : Polygon K) : List (Point K × Point K) :=
  polygon.vertices.zip (polygon.vertices.drop 1 ++ polygon.vertices.take 1)

/-- Twice the signed area between an edge and the origin. -/
def cross (edge : Point K × Point K) : K := edge.1.x * edge.2.y - edge.2.x * edge.1.y

/-- The area inside the outline; nothing is enclosed by fewer than three vertices. -/
def area (polygon : Polygon K) : K :=
  if polygon.vertices.length < 3 then 0.0
  else magnitude (total (polygon.edges.map cross)) / 2.0

end Polygon

namespace Path

/-- The box over the points, half the width larger on every side. -/
def box? (path : Path K) : Option (Box K) :=
  (Box.around? path.points).map fun box => box.grown (path.width / 2.0)

/-- The length of the centre line. -/
def length (path : Path K) : K :=
  total (path.points.zipWith Point.distance (path.points.drop 1))

end Path

namespace Via

/-- The box of the via's extents around its position. -/
def box (via : Via K) : Box K :=
  let halfWidth := via.width / 2.0
  let halfHeight := via.height / 2.0
  { min := ⟨via.position.x - halfWidth, via.position.y - halfHeight⟩
    max := ⟨via.position.x + halfWidth, via.position.y + halfHeight⟩ }

/-- The larger extent, by which the diameter of a via is measured. -/
def size (via : Via K) : K := greater via.width via.height

end Via

/-- The four kinds of shapes. -/
inductive Kind where
  | rectangle
  | polygon
  | track
  | via
  deriving DecidableEq, Repr

namespace Kind

/-- All kinds, in the order of their numbers. -/
def all : List Kind := [.rectangle, .polygon, .track, .via]

/-- The number of a kind. -/
def number : Kind → Nat
  | .rectangle => 0
  | .polygon => 1
  | .track => 2
  | .via => 3

/-- The name by which conditions know a kind. -/
def name : Kind → String
  | .rectangle => "Rect"
  | .polygon => "Polygon"
  | .track => "Track"
  | .via => "Via"

/-- The word by which constraints name a kind. -/
def keyword : Kind → String
  | .rectangle => "rect"
  | .polygon => "polygon"
  | .track => "track"
  | .via => "via"

theorem mem_all (kind : Kind) : kind ∈ all := by cases kind <;> decide

end Kind

namespace Shape

/-- The box around a shape; none where it has no point. -/
def box? : Shape K → Option (Box K)
  | .rectangle shape => some shape.box
  | .polygon shape => shape.box?
  | .path shape => shape.box?
  | .via shape => some shape.box

omit [Scalar K] in
/-- The layers that a shape lies on, a via's from its bottom to its top. -/
def layers : Shape K → List LayerId
  | .rectangle shape => [shape.layer]
  | .polygon shape => [shape.layer]
  | .path shape => [shape.layer]
  | .via shape => [shape.bottomLayer, shape.cutLayer, shape.topLayer]

omit [Scalar K] in
/-- The kind of a shape. -/
def kind : Shape K → Kind
  | .rectangle _ => .rectangle
  | .polygon _ => .polygon
  | .path _ => .track
  | .via _ => .via

end Shape

end DesignRules

/-
**Points and axis-parallel boxes.**

* `Box.around?`: the smallest box over some points.
* `Box.meets`: whether two boxes share a point; touching is enough.
* `Box.gap`: the distance between two boxes, zero where they meet.
* `Box.grown`, `Box.joined`: a box with a margin, and the smallest box over two.
* `Box.upright`: the box over the same two corners with its lower corner first.
-/

import DesignRules.Scalar

namespace DesignRules

open Scalar

/-- A point of the layout, in nanometres. -/
structure Point (K : Type) where
  x : K
  y : K
  deriving DecidableEq, Repr

/-- An axis-parallel box by two opposite corners. -/
structure Box (K : Type) where
  min : Point K
  max : Point K
  deriving DecidableEq, Repr

variable {K : Type} [Scalar K]

/-- The distance between two points. -/
def Point.distance (a b : Point K) : K := root (square (a.x - b.x) + square (a.y - b.y))

namespace Box

/-- The smallest box over a box and a point. -/
def including (box : Box K) (point : Point K) : Box K :=
  { min := ⟨lesser box.min.x point.x, lesser box.min.y point.y⟩
    max := ⟨greater box.max.x point.x, greater box.max.y point.y⟩ }

/-- The smallest box over some points; none without points. -/
def around? : List (Point K) → Option (Box K)
  | [] => none
  | first :: rest => some (rest.foldl including ⟨first, first⟩)

/-- The extent along the first axis. -/
def width (box : Box K) : K := box.max.x - box.min.x

/-- The extent along the second axis. -/
def height (box : Box K) : K := box.max.y - box.min.y

/-- Whether two boxes share a point. -/
def meets (a b : Box K) : Bool :=
  a.min.x ≤ b.max.x && b.min.x ≤ a.max.x && a.min.y ≤ b.max.y && b.min.y ≤ a.max.y

/-- The smallest box over two boxes. -/
def joined (a b : Box K) : Box K :=
  { min := ⟨lesser a.min.x b.min.x, lesser a.min.y b.min.y⟩
    max := ⟨greater a.max.x b.max.x, greater a.max.y b.max.y⟩ }

/-- A box with a margin on every side. -/
def grown (box : Box K) (margin : K) : Box K :=
  { min := ⟨box.min.x - margin, box.min.y - margin⟩
    max := ⟨box.max.x + margin, box.max.y + margin⟩ }

/-- The distance between two intervals, zero where they meet. -/
def separation (firstLow firstHigh secondLow secondHigh : K) : K :=
  greater (greater (firstLow - secondHigh) (secondLow - firstHigh)) 0.0

/-- The distance between two boxes, zero where they meet. -/
def gap (a b : Box K) : K :=
  let dx := separation a.min.x a.max.x b.min.x b.max.x
  let dy := separation a.min.y a.max.y b.min.y b.max.y
  root (dx * dx + dy * dy)

/-- The lower of two ends of an interval; the second, unless the first is known to be lower. -/
def lowerEnd (a b : K) : K := if a < b then a else b

/-- The upper of two ends of an interval; the second, unless the first is known to be higher. -/
def upperEnd (a b : K) : K := if b < a then a else b

/-- The box over the same two corners whose first corner is the lower one on both axes. -/
def upright (box : Box K) : Box K :=
  { min := ⟨lowerEnd box.min.x box.max.x, lowerEnd box.min.y box.max.y⟩
    max := ⟨upperEnd box.min.x box.max.x, upperEnd box.min.y box.max.y⟩ }

/-- The corners' coordinates, the first corner before the second. -/
def coordinates (box : Box K) : List K := [box.min.x, box.min.y, box.max.x, box.max.y]

end Box

end DesignRules

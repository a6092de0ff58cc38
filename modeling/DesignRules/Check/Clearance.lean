/-
**Distances between items.**

Items on different nets have to keep a distance wherever they share a layer. The largest minimum of
any rule bounds how far the neighbours of an item are searched; each pair then has the minimum that
counts for it on its layer. A pair is reported once, on its first layer that breaks its minimum.

* `Clearance.pairOn`: what a pair breaks on a layer.
* `Clearance.pair`: what a pair breaks, and how many layers were examined.
* `Clearance.inspect`: the pairs of an item with later items nearby.
* `Clearance.check`: the check.
-/

import DesignRules.Check.Walk
import DesignRules.Design.Neighbours
import DesignRules.Length

namespace DesignRules

variable {K : Type} [Scalar K]

namespace Clearance

/-- The text about a pair that is too close. -/
def message (stack : LayerStack) (first second : Item K) (layer : LayerId) (gap least : K) :
    String :=
  "clearance " ++ Length.millimetres gap ++ " between '" ++ first.name ++ "' and '" ++
    second.name ++ "' on " ++ stack.nameOf layer ++ " is below minimum " ++
    Length.millimetres least

/-- The violation of a pair on a layer, if the minimum that counts there exceeds the gap. -/
def pairOn (site : Site K) (first second : Item K) (firstBox secondBox : Box K)
    (layer : LayerId) : Except RunError (Option (Violation K)) := do
  let gap := firstBox.gap secondBox
  match ← site.resolve .clearance first (some second) (some layer) with
  | none => return none
  | some entry =>
    match entry.constraint.min? with
    | none => return none
    | some least =>
      if least ≤ gap then return none
      else
        let text := message site.design.stack first second layer gap least
        return some (site.violation entry text (some layer) (some (firstBox.joined secondBox))
          [first.id, second.id])

/-- The first violation of a pair on some layers, and how many of them were examined. -/
def pair (site : Site K) (first second : Item K) (firstBox secondBox : Box K) :
    List LayerId → Except RunError (Inspection K)
  | [] => return {}
  | layer :: layers => do
    match ← pairOn site first second firstBox secondBox layer with
    | some violation => return { violations := [violation], examined := 1 }
    | none =>
      let rest ← pair site first second firstBox secondBox layers
      return { rest with examined := rest.examined + 1 }

omit [Scalar K] in
/-- The layers that two items share, in the order of the first one's. -/
def sharedLayers (first second : Item K) : List LayerId :=
  first.layers.filter second.layers.contains

/-- The pair of an item with one that was found nearby; only later items on other nets count. -/
def withNeighbour (site : Site K) (index : Nat) (item : Item K) (box : Box K)
    (neighbour : Nat × Box K) : Except RunError (Inspection K) :=
  if neighbour.1 ≤ index then return {}
  else
    match site.design.items[neighbour.1]? with
    | none => return {}
    | some other =>
      if item.sameNet other then return {}
      else pair site item other box neighbour.2 (sharedLayers item other)

omit [Scalar K] in
/-- All that was found, in order. -/
def combined (found : List (Inspection K)) : Inspection K :=
  { violations := found.flatMap Inspection.violations
    examined := (found.map Inspection.examined).foldr (· + ·) 0 }

/-- The pairs of an item with later items at most `reach` away. -/
def inspect (site : Site K) (neighbours : Neighbours K) (reach : K) (index : Nat) (item : Item K) :
    Except RunError (Inspection K) :=
  match item.box? with
  | none => return {}
  | some box => do
    let found ← (neighbours.near (box.grown reach)).mapM (withNeighbour site index item box)
    return combined found

/-- The largest minimum of any rule. -/
def reach? (site : Site K) : Except RunError (Option K) :=
  (site.catalog.worst .clearance .largestMin).map fun entry =>
    entry.bind fun entry => entry.constraint.min?

/-- The run of the check. -/
def run (site : Site K) (state : RunState K) : RunState K × Option RunError :=
  match reach? site with
  | .error error => (state, some error)
  | .ok none => (state.note "clearance: no rule declares a minimum; nothing to check", none)
  | .ok (some reach) =>
    let items := site.design.items
    let neighbours := Neighbours.ofItems items
    let closing (pairs : Nat) : String :=
      "clearance: " ++ toString items.length ++ " item(s), " ++ toString pairs ++
        " pair check(s)"
    walkRun site (inspect site neighbours reach) (fun pairs => some (closing pairs)) state

/-- The check of distances between items. -/
def check : Check K := ⟨"clearance", [.clearance], run⟩

end Clearance

end DesignRules

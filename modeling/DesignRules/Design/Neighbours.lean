/-
**Items near a region.**

Items and regions are compared by their upright boxes, so corners may come in any order; touching is
enough, and items without a box are nowhere.

* `Neighbours.ofItems`: the items that have a box, with their positions.
* `Neighbours.near`: those of them that meet a region, by ascending position.
* `mem_ofItems_iff`: which items these are.
* `mem_near_iff`: an entry is near a region exactly if the upright boxes meet.
-/

import DesignRules.Item

namespace DesignRules

/-- Items by their positions and boxes. -/
structure Neighbours (K : Type) where
  entries : List (Nat × Box K) := []

namespace Neighbours

variable {K : Type} [Scalar K]

/-- The items that have a box. -/
def ofItems (items : List (Item K)) : Neighbours K :=
  ⟨((List.range items.length).zip items).filterMap fun (index, item) =>
    item.box?.map fun box => (index, box)⟩

/-- The entries whose upright box meets that of a region. -/
def near (neighbours : Neighbours K) (region : Box K) : List (Nat × Box K) :=
  neighbours.entries.filter fun (_, box) => box.upright.meets region.upright

omit [Scalar K] in
/-- How many items are known. -/
def size (neighbours : Neighbours K) : Nat := neighbours.entries.length

theorem mem_ofItems_iff (items : List (Item K)) (index : Nat) (box : Box K) :
    (index, box) ∈ (ofItems items).entries ↔
      ∃ item, items[index]? = some item ∧ item.box? = some box := by
  have paired (item : Item K) : (index, item) ∈ (List.range items.length).zip items ↔
      items[index]? = some item := by
    simp only [List.mem_iff_getElem?, List.getElem?_zip_eq_some]
    constructor
    · rintro ⟨position, ranged, found⟩
      obtain ⟨_, equal⟩ := List.getElem?_eq_some_iff.mp ranged
      rw [List.getElem_range] at equal
      rw [← equal]
      exact found
    · intro found
      exact ⟨index, List.getElem?_range (List.getElem?_eq_some_iff.mp found).1, found⟩
  simp only [ofItems, List.mem_filterMap, Option.map_eq_some_iff, Prod.mk.injEq, Prod.exists]
  constructor
  · rintro ⟨_, item, member, _, has, rfl, rfl⟩
    exact ⟨item, (paired item).mp member, has⟩
  · rintro ⟨item, found, has⟩
    exact ⟨index, item, (paired item).mpr found, box, has, rfl, rfl⟩

theorem mem_near_iff (neighbours : Neighbours K) (region : Box K) (index : Nat) (box : Box K) :
    (index, box) ∈ neighbours.near region ↔
      (index, box) ∈ neighbours.entries ∧ box.upright.meets region.upright = true := by
  simp [near]

end Neighbours

end DesignRules

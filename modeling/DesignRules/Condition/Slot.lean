/-
**Slots.**

A condition is about up to two objects and a layer; each is bound to a slot, and names stand for the
slots.

* `SlotTable.standard`: `A` and `B` for the objects, `L` for the layer.
* `SlotTable.find?`: the slot that a name stands for.
-/

namespace DesignRules.Condition

/-- What a condition can be about. -/
inductive Slot where
  | first
  | second
  | layer
  deriving DecidableEq, Repr

namespace Slot

/-- Whether a slot is bound to an object. -/
def isObject : Slot → Bool
  | .first => true
  | .second => true
  | .layer => false

/-- The name of a slot in listings. -/
def text : Slot → String
  | .first => "First"
  | .second => "Second"
  | .layer => "Layer"

end Slot

/-- The names of slots; of entries with one name the first counts. -/
structure SlotTable where
  entries : List (String × Slot)
  deriving DecidableEq, Repr

namespace SlotTable

/-- The table without names. -/
def empty : SlotTable := ⟨[]⟩

/-- The table in which a name stands for a slot, whatever it stood for before. -/
def assign (table : SlotTable) (name : String) (slot : Slot) : SlotTable :=
  ⟨(name, slot) :: table.entries⟩

/-- The slot that a name stands for. -/
def find? (table : SlotTable) (name : String) : Option Slot := table.entries.lookup name

/-- `A` and `B` for the two objects and `L` for the layer. -/
def standard : SlotTable := ⟨[("A", .first), ("B", .second), ("L", .layer)]⟩

theorem find?_assign (table : SlotTable) (name other : String) (slot : Slot) :
    (table.assign name slot).find? other = if other = name then some slot else table.find? other := by
  by_cases same : other = name
  · simp [find?, assign, same]
  · have differs : (other == name) = false := by simpa using same
    simp [find?, assign, List.lookup_cons, same, differs]

end SlotTable

end DesignRules.Condition

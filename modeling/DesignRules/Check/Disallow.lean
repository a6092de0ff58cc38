/-
**Forbidden kinds of items.**

An item on a single layer is judged on that layer; one on several is judged without a layer.

* `Disallow.inspect`: what an item breaks.
* `Disallow.check`: the check.
-/

import DesignRules.Check.Walk

namespace DesignRules

variable {K : Type} [Scalar K]

namespace Disallow

/-- The only layer of an item that lies on one. -/
def onlyLayer? : List LayerId → Option LayerId
  | [layer] => some layer
  | _ => none

omit [Scalar K] in
/-- The text about a forbidden item. -/
def message (stack : LayerStack) (item : Item K) (layer : Option LayerId) : String :=
  let place := match layer with
    | some layer => " on " ++ stack.nameOf layer
    | none => ""
  item.kind.name ++ " is not allowed" ++ place

/-- The violation of an item by the constraint that counts for it. -/
def violation? (site : Site K) (item : Item K) (layer : Option LayerId) (entry : Entry K) :
    Option (Violation K) :=
  if entry.constraint.categories.contains item.kind.keyword then
    some (site.violation entry (message site.design.stack item layer) layer item.box? [item.id])
  else none

/-- What an item breaks. -/
def inspect (site : Site K) (item : Item K) : Except RunError (Inspection K) := do
  let layer := onlyLayer? item.layers
  let entry ← site.resolve .disallow item none layer
  return .ofOption (entry.bind (violation? site item layer))

/-- The check of forbidden kinds. -/
def check : Check K :=
  ⟨"disallow", [.disallow], fun site state =>
    walkRun site (fun _ item => inspect site item) (fun _ => none) state⟩

end Disallow

end DesignRules

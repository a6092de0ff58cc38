/-
**Checks that judge each item alone.**

All checks but the one of distances walk over the items and do the same at each of them: they pass
it over, or they ask for the constraint that counts for it and judge the item by that.

* `Judges`: each of these checks, and what it finds at an item.
* `Judges.exists_walks`, `Judges.isTour`: they walk over the items.
* `Site.violationOf?`: what a constraint says about an item.
* `Judges.inspect_eq`: what a check does at an item.
-/

import DesignRules.Check.Standard
import DesignRules.Proofs.Check.Course

namespace DesignRules

open Disallow (onlyLayer?)

variable {K : Type} [Scalar K]

/-- Each check that judges every item alone, and what it finds at an item. -/
inductive Judges : Check K → (Site K → Item K → Except RunError (Inspection K)) → Prop where
  | trackWidth : Judges TrackWidth.check TrackWidth.inspect
  | viaDiameter : Judges ViaDiameter.check ViaDiameter.inspect
  | minArea : Judges MinArea.check MinArea.inspect
  | disallow : Judges Disallow.check Disallow.inspect

/-! ### What is said about an item -/

/-- The violation of the constraint of a kind that counts for an item. -/
def Site.violationOf? (site : Site K) (kind : ConstraintKind) (item : Item K) (entry : Entry K) :
    Option (Violation K) :=
  match kind, item.shape with
  | .trackWidth, .path track => TrackWidth.violation? site item track entry
  | .viaDiameter, .via via => ViaDiameter.violation? site item via entry
  | .minArea, .rectangle rectangle =>
    MinArea.violation? site item rectangle.layer rectangle.area entry
  | .minArea, .polygon polygon => MinArea.violation? site item polygon.layer polygon.area entry
  | .disallow, shape => Disallow.violation? site item (onlyLayer? shape.layers) entry
  | _, _ => none

/-- What is said about an item names it and the rule whose constraint it breaks. -/
theorem Site.violationOf?_eq_some {site : Site K} {kind : ConstraintKind} {item : Item K}
    {entry : Entry K} {violation : Violation K}
    (said : site.violationOf? kind item entry = some violation) :
    ∃ message layer box, violation = site.violation entry message layer box [item.id] := by
  have bounded {measure : K} {build : Breach K → Violation K}
      (said : (do
        let bound ← entry.constraint.bound?
        let breach ← bound.breach? measure
        return build breach) = some violation) : ∃ breach, violation = build breach := by
    obtain ⟨bound, -, said⟩ := Option.bind_eq_some_iff.mp said
    obtain ⟨breach, -, said⟩ := Option.bind_eq_some_iff.mp said
    exact ⟨breach, (Option.some.inj said).symm⟩
  have small {layer : LayerId} {area : K}
      (said : MinArea.violation? site item layer area entry = some violation) :
      ∃ message layer box, violation = site.violation entry message layer box [item.id] := by
    obtain ⟨least, -, said⟩ := Option.bind_eq_some_iff.mp said
    split at said
    · cases said
    · exact ⟨_, _, _, (Option.some.inj said).symm⟩
  obtain ⟨id, name, net, netClass, shape⟩ := item
  cases kind with
  | clearance => cases said
  | trackWidth =>
    cases shape with
    | path track =>
      obtain ⟨breach, rfl⟩ := bounded said
      exact ⟨_, _, _, rfl⟩
    | _ => cases said
  | viaDiameter =>
    cases shape with
    | via via =>
      obtain ⟨breach, rfl⟩ := bounded said
      exact ⟨_, _, _, rfl⟩
    | _ => cases said
  | minArea =>
    cases shape with
    | rectangle rectangle => exact small said
    | polygon polygon => exact small said
    | _ => cases said
  | disallow =>
    change Disallow.violation? _ _ _ _ = _ at said
    unfold Disallow.violation? at said
    split at said
    · exact ⟨_, _, _, (Option.some.inj said).symm⟩
    · cases said

/-! ### What these checks do -/

namespace Judges

variable {check : Check K} {inspect : Site K → Item K → Except RunError (Inspection K)}
  (judges : Judges check inspect)

include judges

/-- Each of them needs the constraints of one kind. -/
theorem exists_needs : ∃ kind, check.needs = [kind] := by
  cases judges <;> exact ⟨_, rfl⟩

theorem exists_walks :
    ∃ message, ∀ (site : Site K) (state : RunState K),
      check.run site state =
        (Course.walks (fun _ item => inspect site item) message).run site state := by
  cases judges with
  | trackWidth => exact ⟨fun tracks => some (TrackWidth.closing tracks), fun _ _ => rfl⟩
  | viaDiameter => exact ⟨fun _ => none, fun _ _ => rfl⟩
  | minArea => exact ⟨fun _ => none, fun _ _ => rfl⟩
  | disallow => exact ⟨fun _ => none, fun _ _ => rfl⟩

theorem inspect_withSettings (site : Site K) (settings : Settings) :
    inspect { site with settings } = inspect site := by
  cases judges <;> rfl

theorem isTour : check.IsTour := by
  obtain ⟨message, follows⟩ := judges.exists_walks
  refine ⟨fun site => .walks (fun _ item => inspect site item) message, ?_, follows⟩
  intro site settings
  show Course.walks _ _ = Course.walks _ _
  rw [judges.inspect_withSettings]

/-- **What such a check does at an item.** It passes over an item of which it says nothing; of any
other it asks for the constraint that counts for it, on its only layer if it has only one, and finds
what that says. -/
theorem inspect_eq {kind : ConstraintKind} (needed : check.needs = [kind]) (site : Site K)
    (item : Item K) :
    (inspect site item = .ok {} ∧ site.violationOf? kind item = fun _ => none) ∨
      inspect site item = do
        let entry ← site.resolve kind item none (onlyLayer? item.layers)
        return .ofOption (entry.bind (site.violationOf? kind item)) := by
  obtain ⟨id, name, net, netClass, shape⟩ := item
  cases judges with
  | trackWidth =>
    obtain rfl : ConstraintKind.trackWidth = kind := (List.cons.inj needed).1
    cases shape with
    | path track => exact .inr rfl
    | _ => exact .inl ⟨rfl, rfl⟩
  | viaDiameter =>
    obtain rfl : ConstraintKind.viaDiameter = kind := (List.cons.inj needed).1
    cases shape with
    | via via => exact .inr rfl
    | _ => exact .inl ⟨rfl, rfl⟩
  | minArea =>
    obtain rfl : ConstraintKind.minArea = kind := (List.cons.inj needed).1
    cases shape with
    | rectangle rectangle => exact .inr rfl
    | polygon polygon => exact .inr rfl
    | _ => exact .inl ⟨rfl, rfl⟩
  | disallow =>
    obtain rfl : ConstraintKind.disallow = kind := (List.cons.inj needed).1
    exact .inr rfl

end Judges

end DesignRules

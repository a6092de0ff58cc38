/-
**What the standard checks do.**

Every standard check takes a course. The check of distances asks which items lie near a region; in
what order they are found, and whether some are left out, is up to the search, and whatever it
answers, the course does not depend on the settings.

* `Search`: a way to find the known items near a region.
* `Clearance.checkBy`, `Check.standardBy`: the check of distances, and all standard checks, with a
  search of their own.
* `standardBy_near`: with the search by ascending position they are the standard checks.
* `isTour_of_mem_standardBy`, `isTour_of_mem_standard`: they take courses.
-/

import DesignRules.Proofs.Check.Single

namespace DesignRules

variable {K : Type} [Scalar K]

/-- A way to find the known items near a region. -/
abbrev Search (K : Type) : Type := Neighbours K → Box K → List (Nat × Box K)

namespace Clearance

/-- The pairs of an item with later ones that the search finds at most `reach` away. -/
def inspectBy (search : Search K) (site : Site K) (neighbours : Neighbours K) (reach : K)
    (index : Nat) (item : Item K) : Except RunError (Inspection K) :=
  match item.box? with
  | none => return {}
  | some box => do
    let found ← (search neighbours (box.grown reach)).mapM (withNeighbour site index item box)
    return combined found

/-- The course of the check of distances with a search. -/
def courseBy (search : Search K) (site : Site K) : Course K :=
  match reach? site with
  | .error error => .givesUp error
  | .ok none => .closes "clearance: no rule declares a minimum; nothing to check"
  | .ok (some reach) =>
    .walks (inspectBy search site (Neighbours.ofItems site.design.items) reach) fun pairs =>
      some ("clearance: " ++ toString site.design.items.length ++ " item(s), " ++
        toString pairs ++ " pair check(s)")

/-- The check of distances with a search. -/
def checkBy (search : Search K) : Check K :=
  ⟨"clearance", [.clearance], fun site => (courseBy search site).run site⟩

theorem checkBy_near : checkBy Neighbours.near = (check : Check K) := by
  refine Check.mk.injEq .. |>.mpr ⟨rfl, rfl, ?_⟩
  funext site state
  show (courseBy Neighbours.near site).run site state = run site state
  unfold run courseBy
  cases reach? site with
  | error error => rfl
  | ok reach => cases reach <;> rfl

theorem pair_withSettings (site : Site K) (settings : Settings) (first second : Item K)
    (firstBox secondBox : Box K) (layers : List LayerId) :
    pair { site with settings } first second firstBox secondBox layers =
      pair site first second firstBox secondBox layers := by
  induction layers with
  | nil => rfl
  | cons layer layers ih =>
    rw [pair, pair, ih]
    rfl

theorem withNeighbour_withSettings (site : Site K) (settings : Settings) (index : Nat)
    (item : Item K) (box : Box K) :
    withNeighbour { site with settings } index item box = withNeighbour site index item box := by
  funext neighbour
  unfold withNeighbour
  simp only [pair_withSettings]

theorem courseBy_withSettings (search : Search K) (site : Site K) (settings : Settings) :
    courseBy search { site with settings } = courseBy search site := by
  have reaches : reach? { site with settings } = reach? site := rfl
  have inspects (neighbours : Neighbours K) (reach : K) :
      inspectBy search { site with settings } neighbours reach =
        inspectBy search site neighbours reach := by
    funext index item
    unfold inspectBy
    simp only [withNeighbour_withSettings]
  unfold courseBy
  simp only [reaches, inspects]

end Clearance

/-- The standard checks, the one of distances with a search. -/
def Check.standardBy (search : Search K) : List (Check K) :=
  [Clearance.checkBy search, TrackWidth.check, ViaDiameter.check, MinArea.check, Disallow.check]

theorem standardBy_near : Check.standardBy Neighbours.near = (Check.standard : List (Check K)) := by
  rw [Check.standardBy, Clearance.checkBy_near, Check.standard]

/-- **The standard checks take courses**, whatever search they use. -/
theorem isTour_of_mem_standardBy {search : Search K} {check : Check K}
    (standard : check ∈ Check.standardBy search) : check.IsTour := by
  simp only [Check.standardBy, List.mem_cons, List.not_mem_nil, or_false] at standard
  rcases standard with rfl | rfl | rfl | rfl | rfl
  · exact ⟨Clearance.courseBy search, Clearance.courseBy_withSettings search, fun _ _ => rfl⟩
  · exact Judges.trackWidth.isTour
  · exact Judges.viaDiameter.isTour
  · exact Judges.minArea.isTour
  · exact Judges.disallow.isTour

theorem isTour_of_mem_standard {check : Check K} (standard : check ∈ Check.standard) :
    check.IsTour := by
  rw [← standardBy_near] at standard
  exact isTour_of_mem_standardBy standard

end DesignRules

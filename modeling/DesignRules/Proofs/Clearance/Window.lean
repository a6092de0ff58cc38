/-
**The search window of the clearance check loses no violation.**

Neighbours of an item are searched no farther away than the largest minimum of any rule. Whatever
minimum counts for a pair is at most this one, and the distance of two boxes is at least their
distance along each axis, so a pair that is too close meets in the window. Numbers are exact.

* `reach_spec`: the reach bounds every minimum of the catalog.
* `withNeighbour_silent`: nothing is found at a neighbour that keeps every minimum.
* `inspectAll`: the inspection that looks at all later items.
* `near_of_gap_lt`, `inspect_eq_inspectAll`, `walk_congr`: a pair, an item, and a whole run.
-/

import DesignRules.Check.Clearance
import DesignRules.Proofs.Catalog.Extreme
import DesignRules.Proofs.Geometry.Exact

namespace DesignRules

namespace Clearance

/-! ### The inspection without a window -/

section Inspection

variable {K : Type} [Scalar K]

/-- The pairs of an item with all later items, however far away. -/
def inspectAll (site : Site K) (neighbours : Neighbours K) (index : Nat) (item : Item K) :
    Except RunError (Inspection K) :=
  match item.box? with
  | none => return {}
  | some box => do
    let found ← neighbours.entries.mapM (withNeighbour site index item box)
    return combined found

/-- A pair breaks nothing on a layer if its boxes keep every minimum of the catalog. -/
theorem pairOn_eq_none {site : Site K} {entries : List (Entry K)}
    (listed : site.catalog.entries .clearance = .ok entries) {firstBox secondBox : Box K}
    (kept : ∀ entry ∈ entries, ∀ least, entry.constraint.min? = some least →
      least ≤ firstBox.gap secondBox) (first second : Item K) (layer : LayerId) :
    pairOn site first second firstBox secondBox layer = .ok none := by
  unfold pairOn
  cases answer : site.resolve .clearance first (some second) (some layer) with
  | error error =>
    rw [Site.resolve, Catalog.resolve, listed] at answer
    cases answer
  | ok found =>
    cases found with
    | none => rfl
    | some entry =>
      obtain ⟨others, alsoListed, member⟩ := Catalog.mem_of_resolve answer
      rw [listed, Except.ok.injEq] at alsoListed
      rw [← alsoListed] at member
      cases has : entry.constraint.min? with
      | none => simp [bind, Except.bind, has, pure, Except.pure]
      | some least =>
        have keeps := kept entry member least has
        simp [bind, Except.bind, has, keeps, pure, Except.pure]

theorem pair_silent {site : Site K} {first second : Item K} {firstBox secondBox : Box K}
    (silent : ∀ layer, pairOn site first second firstBox secondBox layer = .ok none)
    (layers : List LayerId) :
    ∃ found, pair site first second firstBox secondBox layers = .ok found ∧
      found.violations = [] := by
  induction layers with
  | nil => exact ⟨{}, rfl, rfl⟩
  | cons layer layers ih =>
    obtain ⟨rest, paired, nothing⟩ := ih
    refine ⟨{ rest with examined := rest.examined + 1 }, ?_, nothing⟩
    rw [pair, silent layer, paired]
    rfl

/-- **Nothing is found at a neighbour that keeps every minimum.** -/
theorem withNeighbour_silent {site : Site K} {entries : List (Entry K)}
    (listed : site.catalog.entries .clearance = .ok entries) {box : Box K}
    {neighbour : Nat × Box K}
    (kept : ∀ entry ∈ entries, ∀ least, entry.constraint.min? = some least →
      least ≤ box.gap neighbour.2) (index : Nat) (item : Item K) :
    ∃ found, withNeighbour site index item box neighbour = .ok found ∧
      found.violations = [] := by
  unfold withNeighbour
  by_cases early : neighbour.1 ≤ index
  · rw [if_pos early]
    exact ⟨{}, rfl, rfl⟩
  · rw [if_neg early]
    cases site.design.items[neighbour.1]? with
    | none => exact ⟨{}, rfl, rfl⟩
    | some other =>
      by_cases same : item.sameNet other = true
      · simp only [if_pos same]
        exact ⟨{}, rfl, rfl⟩
      · simp only [if_neg same]
        exact pair_silent (pairOn_eq_none listed kept item other) _

omit [Scalar K] in
theorem violations_mapM_cons (visit : Nat × Box K → Except RunError (Inspection K))
    (neighbour : Nat × Box K) (rest : List (Nat × Box K)) :
    ((neighbour :: rest).mapM visit).map (fun found => (combined found).violations) =
      (visit neighbour).bind fun first =>
        ((rest.mapM visit).map fun found => (combined found).violations).map
          (first.violations ++ ·) := by
  rw [List.mapM_cons]
  cases visit neighbour with
  | error error => rfl
  | ok first =>
    cases rest.mapM visit with
    | error error => rfl
    | ok found => rfl

omit [Scalar K] in
/-- Passing over neighbours at which nothing is found does not change what is found. -/
theorem violations_mapM_filter {visit : Nat × Box K → Except RunError (Inspection K)}
    {keep : Nat × Box K → Bool} {neighbours : List (Nat × Box K)}
    (silent : ∀ neighbour ∈ neighbours, keep neighbour = false →
      ∃ found, visit neighbour = .ok found ∧ found.violations = []) :
    ((neighbours.filter keep).mapM visit).map (fun found => (combined found).violations) =
      (neighbours.mapM visit).map fun found => (combined found).violations := by
  induction neighbours with
  | nil => rfl
  | cons neighbour rest ih =>
    have tail := ih fun other member => silent other (List.mem_cons_of_mem _ member)
    by_cases kept : keep neighbour = true
    · rw [List.filter_cons_of_pos kept, violations_mapM_cons, violations_mapM_cons, tail]
    · obtain ⟨found, visited, nothing⟩ :=
        silent neighbour List.mem_cons_self (eq_false_of_ne_true kept)
      rw [List.filter_cons_of_neg kept, violations_mapM_cons, visited, tail, Except.bind, nothing]
      cases rest.mapM visit with
      | error error => rfl
      | ok others => rfl

omit [Scalar K] in
theorem map_violations_bind (found : Except RunError (List (Inspection K))) :
    (found >>= fun found => return combined found).map Inspection.violations =
      found.map fun found => (combined found).violations := by
  cases found with
  | error error => rfl
  | ok found => rfl

omit [Scalar K] in
/-- A walk depends only on the violations that are found at each item. -/
theorem walk_congr {site : Site K}
    {inspect inspect' : Nat → Item K → Except RunError (Inspection K)}
    (agree : ∀ index item, (inspect index item).map Inspection.violations =
      (inspect' index item).map Inspection.violations) (index : Nat) (items : List (Item K))
    (examined examined' : Nat) (state : RunState K) :
    (walk site inspect index items examined state).1 =
      (walk site inspect' index items examined' state).1 := by
  induction items generalizing index examined examined' state with
  | nil => rfl
  | cons item rest ih =>
    rw [walk, walk]
    cases site.checkpoint index site.design.items.length state with
    | mk proceeds state =>
      cases proceeds with
      | false => rfl
      | true =>
        rcases map_eq_map_iff.mp (agree index item) with
          ⟨error, fails, fails'⟩ | ⟨found, found', finds, finds', equal⟩
        · rw [fails, fails']
        · rw [finds, finds']
          show (walk site inspect (index + 1) rest _ (state.recordAll found.violations)).1 =
            (walk site inspect' (index + 1) rest _ (state.recordAll found'.violations)).1
          rw [equal]
          exact ih (index + 1) _ _ _

end Inspection

/-! ### The reach -/

section Window

variable [NumberText]

theorem largestMin_prefers_iff (candidate best : Exact) :
    Extreme.largestMin.prefers candidate best = true ↔ best.value < candidate.value := by
  show decide (best < candidate) = true ↔ _
  rw [decide_eq_true_eq, Exact.lt_iff]

/-- **The reach bounds every minimum of the catalog**; there is none only if there is no minimum. -/
theorem reach_spec {site : Site Exact} {entries : List (Entry Exact)}
    (listed : site.catalog.entries .clearance = .ok entries) :
    (reach? site = .ok none ∧ ∀ entry ∈ entries, entry.constraint.min? = none) ∨
      ∃ reach, reach? site = .ok (some reach) ∧
        ∀ entry ∈ entries, ∀ least, entry.constraint.min? = some least → least ≤ reach := by
  have irreflexive (a : Exact) : Extreme.largestMin.prefers a a = false := by
    rw [← Bool.not_eq_true, largestMin_prefers_iff]
    exact lt_irrefl _
  have transitive (a b c : Exact) (first : Extreme.largestMin.prefers a b = true)
      (second : Extreme.largestMin.prefers b c = true) :
      Extreme.largestMin.prefers a c = true := by
    rw [largestMin_prefers_iff] at *
    exact second.trans first
  obtain ⟨best, isBest, answer⟩ :=
    Catalog.exists_isBest_of_worst irreflexive transitive listed
  cases best with
  | none =>
    refine .inl ⟨?_, isBest⟩
    rw [reach?, answer]
    rfl
  | some found =>
    obtain ⟨reach, kept⟩ := found
    obtain ⟨-, has, most⟩ := isBest
    refine .inr ⟨reach, ?_, fun entry member least limited => ?_⟩
    · rw [reach?, answer]
      exact congrArg Except.ok has
    · have beaten := most entry member least limited
      rw [← Bool.not_eq_true, largestMin_prefers_iff, not_lt] at beaten
      exact beaten

/-- A check that has a reach, or knows that there is none, has entries. -/
theorem entries_of_reach {site : Site Exact} {answer : Option Exact}
    (reaches : reach? site = .ok answer) :
    ∃ entries, site.catalog.entries .clearance = .ok entries := by
  obtain ⟨worst, found, -⟩ := map_eq_ok_iff.mp reaches
  obtain ⟨entries, listed, -⟩ := map_eq_ok_iff.mp found
  exact ⟨entries, listed⟩

/-! ### Pairs, items and runs -/

/-- **A pair that is closer than its minimum is in the window.** -/
theorem near_of_gap_lt {site : Site Exact} {first second : Item Exact} {layer : Option LayerId}
    {entry : Entry Exact} {least : Exact}
    (resolved : site.resolve .clearance first (some second) layer = .ok (some entry))
    (has : entry.constraint.min? = some least) {firstBox secondBox : Box Exact}
    (close : firstBox.gap secondBox < least) {neighbours : Neighbours Exact} {index : Nat}
    (member : (index, secondBox) ∈ neighbours.entries) :
    ∃ reach, reach? site = .ok (some reach) ∧
      (index, secondBox) ∈ neighbours.near (firstBox.grown reach) := by
  obtain ⟨entries, listed, counted⟩ := Catalog.mem_of_resolve resolved
  rcases reach_spec listed with ⟨-, unlimited⟩ | ⟨reach, reaches, bounds⟩
  · rw [unlimited entry counted] at has
    cases has
  · have closer : firstBox.gap secondBox < reach :=
      lt_of_lt_of_le ((Exact.lt_iff _ _).mp close)
        ((Exact.le_iff _ _).mp (bounds entry counted least has))
    exact ⟨reach, reaches, (Neighbours.mem_near_iff _ _ _ _).mpr
      ⟨member, Exact.upright_meets_of_gap_lt closer⟩⟩

/-- Nothing is found at a neighbour outside of the window. -/
theorem withNeighbour_silent_of_far {site : Site Exact} {reach : Exact}
    (reaches : reach? site = .ok (some reach)) {box : Box Exact} {neighbour : Nat × Box Exact}
    (far : neighbour.2.upright.meets (box.grown reach).upright = false) (index : Nat)
    (item : Item Exact) :
    ∃ found, withNeighbour site index item box neighbour = .ok found ∧
      found.violations = [] := by
  obtain ⟨entries, listed⟩ := entries_of_reach reaches
  refine withNeighbour_silent listed (fun entry member least has => ?_) index item
  rcases reach_spec listed with ⟨unlimited, -⟩ | ⟨found, alsoReaches, bounds⟩
  · rw [reaches] at unlimited
    cases unlimited
  · rw [reaches, Except.ok.injEq, Option.some.injEq] at alsoReaches
    have beyond : reach.value ≤ (box.gap neighbour.2).value := not_lt.mp fun close => by
      rw [Exact.upright_meets_of_gap_lt close] at far
      cases far
    rw [Exact.le_iff]
    calc least.value ≤ found.value := bounds entry member least has
      _ = reach.value := by rw [alsoReaches]
      _ ≤ (box.gap neighbour.2).value := beyond

/-- **An item**: looking in the window finds what looking everywhere finds. -/
theorem inspect_eq_inspectAll {site : Site Exact} {reach : Exact}
    (reaches : reach? site = .ok (some reach)) (neighbours : Neighbours Exact) (index : Nat)
    (item : Item Exact) :
    (inspect site neighbours reach index item).map Inspection.violations =
      (inspectAll site neighbours index item).map Inspection.violations := by
  unfold inspect inspectAll
  cases item.box? with
  | none => rfl
  | some box =>
    show (((neighbours.near (box.grown reach)).mapM (withNeighbour site index item box) >>=
      fun found => return combined found).map Inspection.violations) = _
    rw [map_violations_bind, map_violations_bind]
    exact violations_mapM_filter fun neighbour _ far =>
      withNeighbour_silent_of_far reaches far index item

/-- Without a reach, looking everywhere finds nothing. -/
theorem inspectAll_silent {site : Site Exact} (unlimited : reach? site = .ok none)
    (neighbours : Neighbours Exact) (index : Nat) (item : Item Exact) :
    (inspectAll site neighbours index item).map Inspection.violations = .ok [] := by
  obtain ⟨entries, listed⟩ := entries_of_reach unlimited
  have free : ∀ entry ∈ entries, entry.constraint.min? = none := by
    rcases reach_spec listed with ⟨-, free⟩ | ⟨reach, reaches, -⟩
    · exact free
    · rw [unlimited] at reaches
      cases reaches
  unfold inspectAll
  cases item.box? with
  | none => rfl
  | some box =>
    show ((neighbours.entries.mapM (withNeighbour site index item box) >>=
      fun found => return combined found).map Inspection.violations) = _
    have nowhere : neighbours.entries.filter (fun _ => false) = [] :=
      List.filter_eq_nil_iff.mpr fun _ _ => Bool.false_ne_true
    rw [map_violations_bind, ← violations_mapM_filter (fun neighbour _ _ => ?_), nowhere]
    · rfl
    · refine withNeighbour_silent listed (fun entry member least has => ?_) index item
      rw [free entry member] at has
      cases has

/-- **The window loses no violation.** A later item whose minimum from an earlier one exceeds the gap
of their boxes on a shared layer is near the earlier one's box grown by the reach. So at each item,
and in a whole run, the window leads to the violations that looking at all pairs leads to; and where
there is no reach there is nothing to find. -/
theorem window_loses_no_violation (site : Site Exact) :
    (∀ (index index' : Nat) (first second : Item Exact) (firstBox secondBox : Box Exact)
        (layer : LayerId) (entry : Entry Exact) (least : Exact), index < index' →
      site.design.items[index]? = some first → site.design.items[index']? = some second →
      first.box? = some firstBox → second.box? = some secondBox →
      layer ∈ sharedLayers first second →
      site.resolve .clearance first (some second) (some layer) = .ok (some entry) →
      entry.constraint.min? = some least → firstBox.gap secondBox < least →
      ∃ reach, reach? site = .ok (some reach) ∧
        (index', secondBox) ∈
          (Neighbours.ofItems site.design.items).near (firstBox.grown reach)) ∧
    (∀ reach, reach? site = .ok (some reach) →
      (∀ (index : Nat) (item : Item Exact),
        (inspect site (Neighbours.ofItems site.design.items) reach index item).map
            Inspection.violations =
          (inspectAll site (Neighbours.ofItems site.design.items) index item).map
            Inspection.violations) ∧
      ∀ state : RunState Exact,
        (walk site (inspect site (Neighbours.ofItems site.design.items) reach) 0
            site.design.items 0 state).1 =
          (walk site (inspectAll site (Neighbours.ofItems site.design.items)) 0
            site.design.items 0 state).1) ∧
    (reach? site = .ok none → ∀ (index : Nat) (item : Item Exact),
      (inspectAll site (Neighbours.ofItems site.design.items) index item).map
        Inspection.violations = .ok []) := by
  refine ⟨?_, fun reach reaches => ⟨?_, ?_⟩, fun unlimited => inspectAll_silent unlimited _⟩
  · intro index index' first second firstBox secondBox layer entry least _ _ listed' _ boxed' _
      resolved has close
    have member : (index', secondBox) ∈ (Neighbours.ofItems site.design.items).entries :=
      (Neighbours.mem_ofItems_iff _ _ _).mpr ⟨second, listed', boxed'⟩
    exact near_of_gap_lt resolved has close member
  · exact inspect_eq_inspectAll reaches _
  · exact fun state => walk_congr (inspect_eq_inspectAll reaches _) 0 _ 0 0 state

end Window

/-- Numbers by their whole part. -/
@[reducible]
noncomputable def wholePart : NumberText where
  plain a := toString ⌊a⌋
  fixed _ a := toString ⌊a⌋

/-- A rectangle on the layer with number zero. -/
def pad (name : String) (left bottom right top : ℝ) : Item Exact :=
  { id := .nil, name, shape := .rectangle ⟨0, ⟨⟨left⟩, ⟨bottom⟩⟩, ⟨⟨right⟩, ⟨top⟩⟩⟩ }

/-- A rule that keeps everything five apart. -/
def apart : Rule Exact :=
  { name := "apart", priority := 0
    constraints := [⟨.clearance, .bound (.atLeast ⟨5⟩), "apart", 0⟩] }

/-- Two pads, the corners of the second of which are in the other order. -/
def twoPads : Site Exact :=
  { check := "clearance"
    catalog := .build [apart] [.clearance]
    design := ⟨.nil, "two pads", {}, [pad "left" 0 0 1 1, pad "right" 3 1 2 0]⟩
    settings := {} }

/-- The second pad is in the window of the first. -/
theorem window_loses_no_violation_of_two_pads :
    letI := wholePart
    ∃ reach, reach? twoPads = .ok (some reach) ∧
      (1, ⟨⟨⟨3⟩, ⟨1⟩⟩, ⟨⟨2⟩, ⟨0⟩⟩⟩) ∈
        (Neighbours.ofItems twoPads.design.items).near
          ((⟨⟨⟨0⟩, ⟨0⟩⟩, ⟨⟨1⟩, ⟨1⟩⟩⟩ : Box Exact).grown reach) ∧
      ∀ state : RunState Exact,
        (walk twoPads (inspect twoPads (Neighbours.ofItems twoPads.design.items) reach) 0
            twoPads.design.items 0 state).1 =
          (walk twoPads (inspectAll twoPads (Neighbours.ofItems twoPads.design.items)) 0
            twoPads.design.items 0 state).1 := by
  let _ : NumberText := wholePart
  have close : (⟨⟨⟨0⟩, ⟨0⟩⟩, ⟨⟨1⟩, ⟨1⟩⟩⟩ : Box Exact).gap ⟨⟨⟨3⟩, ⟨1⟩⟩, ⟨⟨2⟩, ⟨0⟩⟩⟩ < ⟨5⟩ := by
    rw [Exact.lt_iff, Exact.value_gap, Exact.value_separation, Exact.value_separation,
      Real.sqrt_lt' (by norm_num)]
    norm_num
  obtain ⟨pairs, runs, -⟩ := window_loses_no_violation twoPads
  obtain ⟨reach, reaches, near⟩ := pairs 0 1 (pad "left" 0 0 1 1) (pad "right" 3 1 2 0) _ _ 0
    ⟨apart, ⟨.clearance, .bound (.atLeast ⟨5⟩), "apart", 0⟩⟩ ⟨5⟩ Nat.zero_lt_one rfl rfl rfl rfl
    List.mem_cons_self rfl rfl close
  exact ⟨reach, reaches, near, (runs reach reaches).2⟩

end Clearance

end DesignRules

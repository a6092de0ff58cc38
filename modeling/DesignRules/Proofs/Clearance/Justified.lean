/-
**Every violation of the clearance check is justified.**

The check visits pairs of positions, each of them once, and finds at most one violation at a pair:
what the pair breaks on the first layer on which it breaks anything. So whatever is recorded comes
from pairs that differ, whatever the limit is, whenever the run is cancelled, and in whatever order
neighbours are found.

* `visited`, `nodup_visited`: the pairs of positions that are visited, each once.
* `ComesFrom`, `comesFrom_foundFrom`: the pairs that violations come from.
* `JustifiedBy`, `IsJustified`: what a violation says about its pair.
* `recorded_violations_are_justified`: whatever the check records.
-/

import DesignRules.Proofs.Check.Recorded
import DesignRules.Proofs.Clearance.Pairs
import DesignRules.Proofs.Geometry.Rounded
import DesignRules.Proofs.Rule.Consistency
import Mathlib.Data.List.Forall2
import Mathlib.Data.List.Nodup

namespace DesignRules

open Condition (SlotTable)
open List (SublistForall₂ sublistForall₂_iff)

/-! ### Lists that come from a part of another one -/

section Lists

variable {α β : Type} {related : α → β → Prop}

theorem sublistForall₂_append {front back : List α} {first second : List β}
    (left : SublistForall₂ related front first) (right : SublistForall₂ related back second) :
    SublistForall₂ related (front ++ back) (first ++ second) := by
  obtain ⟨left', pairs, within⟩ := sublistForall₂_iff.mp left
  obtain ⟨right', pairs', within'⟩ := sublistForall₂_iff.mp right
  exact sublistForall₂_iff.mpr ⟨left' ++ right', List.rel_append pairs pairs',
    within.append within'⟩

/-- What is left of a list comes from a part of what the whole list comes from. -/
theorem sublistForall₂_of_sublist {kept all : List α} {origins : List β} (within : kept.Sublist all)
    (origin : SublistForall₂ related all origins) : SublistForall₂ related kept origins := by
  induction origin generalizing kept with
  | nil =>
    rw [List.sublist_nil.mp within]
    exact .nil
  | cons here _ ih =>
    cases within with
    | cons _ within => exact .cons_right (ih within)
    | cons_cons _ within => exact .cons here (ih within)
  | cons_right _ ih => exact .cons_right (ih within)

end Lists

namespace Clearance

/-! ### Pairs of positions -/

section Visits

variable {K : Type} [Scalar K] {search : Search K} {site : Site K} {reach : K}

/-- The pairs of positions that the check visits, from some position on. -/
def visited (search : Search K) (site : Site K) (reach : K) :
    Nat → List (Item K) → List (Nat × Nat)
  | _, [] => []
  | index, item :: rest =>
    (item.box?.toList.flatMap fun box =>
        (search (Neighbours.ofItems site.design.items) (box.grown reach)).map fun neighbour =>
          (index, neighbour.1)) ++
      visited search site reach (index + 1) rest

theorem le_of_mem_visited {index : Nat} {items : List (Item K)} {pair : Nat × Nat}
    (visits : pair ∈ visited search site reach index items) : index ≤ pair.1 := by
  induction items generalizing index with
  | nil => cases visits
  | cons item rest ih =>
    rcases List.mem_append.mp visits with here | later
    · obtain ⟨box, -, listed⟩ := List.mem_flatMap.mp here
      obtain ⟨neighbour, -, rfl⟩ := List.mem_map.mp listed
      exact Nat.le_refl index
    · exact Nat.le_of_succ_le (ih later)

/-- The items that have a box are known by different positions. -/
theorem nodup_positions (items : List (Item K)) :
    ((Neighbours.ofItems items).entries.map Prod.fst).Nodup := by
  have within : ((Neighbours.ofItems items).entries.map Prod.fst).Sublist
      (((List.range items.length).zip items).map Prod.fst) := by
    unfold Neighbours.ofItems
    induction (List.range items.length).zip items with
    | nil => exact .slnil
    | cons entry rest ih =>
      rw [List.filterMap_cons, List.map_cons]
      cases boxed : entry.2.box? with
      | none => simpa [boxed] using ih.cons entry.1
      | some box => simpa [boxed] using ih
  rw [List.map_fst_zip (by simp)] at within
  exact within.nodup List.nodup_range

/-- **No pair is visited twice.** -/
theorem nodup_visited
    (finds : ∀ neighbours region, (search neighbours region).Perm (neighbours.near region))
    (index : Nat) (items : List (Item K)) : (visited search site reach index items).Nodup := by
  induction items generalizing index with
  | nil => exact .nil
  | cons item rest ih =>
    rw [visited, List.nodup_append]
    refine ⟨?_, ih (index + 1), fun pair here other later same => ?_⟩
    · cases item.box? with
      | none => exact .nil
      | some box =>
        have positions : ((search (Neighbours.ofItems site.design.items) (box.grown reach)).map
            Prod.fst).Nodup := by
          rw [((finds _ _).map Prod.fst).nodup_iff]
          exact (List.filter_sublist.map Prod.fst).nodup (nodup_positions site.design.items)
        have pairs := List.Nodup.map (Prod.mk_right_injective index) positions
        rw [List.map_map] at pairs
        rw [Option.toList_some, List.flatMap_singleton]
        exact pairs
    · obtain ⟨box, -, listed⟩ := List.mem_flatMap.mp here
      obtain ⟨neighbour, -, rfl⟩ := List.mem_map.mp listed
      have beyond := le_of_mem_visited later
      rw [← same] at beyond
      exact Nat.not_succ_le_self index beyond

end Visits

/-! ### Violations and their pairs -/

section Origins

variable {K : Type} [Scalar K] {search : Search K} {site : Site K} {entries : List (Entry K)}

/-- Whether a violation is what the items at two positions break on the first layer on which they
break anything. -/
def ComesFrom (site : Site K) (violation : Violation K) (pair : Nat × Nat) : Prop :=
  ∃ first second firstBox secondBox, pair.1 < pair.2 ∧
    site.design.items[pair.1]? = some first ∧ site.design.items[pair.2]? = some second ∧
    first.box? = some firstBox ∧ second.box? = some secondBox ∧ first.sameNet second = false ∧
    IsFirstBreach site first second firstBox secondBox (sharedLayers first second) violation

/-- A pair has at most one violation. -/
theorem length_violations_pair_le {first second : Item K} {firstBox secondBox : Box K}
    {layers : List LayerId} {found : Inspection K}
    (paired : pair site first second firstBox secondBox layers = .ok found) :
    found.violations.length ≤ 1 := by
  induction layers generalizing found with
  | nil =>
    obtain rfl := Except.ok.inj paired
    exact Nat.zero_le 1
  | cons layer layers ih =>
    rw [pair] at paired
    obtain ⟨answer, -, paired⟩ := bind_eq_ok_iff.mp paired
    cases answer with
    | some violation =>
      obtain rfl := Except.ok.inj paired
      exact Nat.le_refl 1
    | none =>
      obtain ⟨rest, others, returned⟩ := bind_eq_ok_iff.mp paired
      obtain rfl := Except.ok.inj returned
      have few : rest.violations.length ≤ 1 := ih others
      exact few

theorem length_violations_withNeighbour_le {index : Nat} {item : Item K} {box : Box K}
    {neighbour : Nat × Box K} {found : Inspection K}
    (visit : withNeighbour site index item box neighbour = .ok found) :
    found.violations.length ≤ 1 := by
  unfold withNeighbour at visit
  split at visit
  · obtain rfl := Except.ok.inj visit
    exact Nat.zero_le 1
  split at visit
  · obtain rfl := Except.ok.inj visit
    exact Nat.zero_le 1
  split at visit
  · obtain rfl := Except.ok.inj visit
    exact Nat.zero_le 1
  · exact length_violations_pair_le visit

variable (listed : site.catalog.entries .clearance = .ok entries)

include listed

/-- **A neighbour**: what is found at it comes from the pair with it. -/
theorem comesFrom_withNeighbour {index : Nat} {item : Item K} {box : Box K}
    (here : site.design.items[index]? = some item) (boxed : item.box? = some box)
    {neighbour : Nat × Box K} (known : neighbour ∈ (Neighbours.ofItems site.design.items).entries)
    {found : Inspection K} (visit : withNeighbour site index item box neighbour = .ok found) :
    SublistForall₂ (ComesFrom site) found.violations [(index, neighbour.1)] := by
  obtain ⟨found', visit', contains⟩ := mem_withNeighbour_iff listed index item box neighbour
  obtain rfl := Except.ok.inj (visit.symm.trans visit')
  have few := length_violations_withNeighbour_le visit
  match violations : found.violations, few with
  | [], _ => exact .nil
  | [violation], _ =>
    have member : violation ∈ found.violations := violations ▸ List.mem_singleton_self violation
    obtain ⟨later, second, there, apart, breach⟩ := (contains violation).mp member
    obtain ⟨other, there', boxed'⟩ :=
      (Neighbours.mem_ofItems_iff site.design.items neighbour.1 neighbour.2).mp known
    obtain rfl := Option.some.inj (there.symm.trans there')
    exact .cons ⟨item, second, box, neighbour.2, later, here, there, boxed, boxed', apart, breach⟩
      .nil

/-- **Some neighbours**: what is found at them comes from the pairs with them. -/
theorem comesFrom_mapM {index : Nat} {item : Item K} {box : Box K}
    (here : site.design.items[index]? = some item) (boxed : item.box? = some box)
    {neighbours : List (Nat × Box K)}
    (known : ∀ neighbour ∈ neighbours,
      neighbour ∈ (Neighbours.ofItems site.design.items).entries)
    {found : List (Inspection K)}
    (visit : neighbours.mapM (withNeighbour site index item box) = .ok found) :
    SublistForall₂ (ComesFrom site) (combined found).violations
      (neighbours.map fun neighbour => (index, neighbour.1)) := by
  induction neighbours generalizing found with
  | nil =>
    obtain rfl := Except.ok.inj visit
    exact .nil
  | cons neighbour rest ih =>
    rw [List.mapM_cons] at visit
    obtain ⟨first, visited, visit⟩ := bind_eq_ok_iff.mp visit
    obtain ⟨others, later, joined⟩ := bind_eq_ok_iff.mp visit
    obtain rfl := Except.ok.inj joined
    exact sublistForall₂_append
      (comesFrom_withNeighbour listed here boxed (known neighbour List.mem_cons_self) visited)
      (ih (fun other member => known other (List.mem_cons_of_mem _ member)) later)

/-- **A walk**: what is found on it comes from the pairs that are visited. -/
theorem comesFrom_foundFrom
    (finds : ∀ neighbours region, (search neighbours region).Perm (neighbours.near region))
    (reach : K) {index : Nat} {items : List (Item K)}
    (standing : site.design.items.drop index = items) :
    SublistForall₂ (ComesFrom site)
      (foundFrom (inspectBy search site (Neighbours.ofItems site.design.items) reach) index items)
      (visited search site reach index items) := by
  induction items generalizing index with
  | nil => exact .nil
  | cons item rest ih =>
    have here : site.design.items[index]? = some item := by
      rw [← List.head?_drop, standing, List.head?_cons]
    have further : site.design.items.drop (index + 1) = rest := by
      rw [← List.tail_drop, standing, List.tail_cons]
    rw [foundFrom, visited]
    cases inspected : inspectBy search site (Neighbours.ofItems site.design.items) reach index
        item with
    | error error => exact .nil
    | ok found =>
      refine sublistForall₂_append ?_ (ih further)
      unfold inspectBy at inspected
      cases boxed : item.box? with
      | none =>
        rw [boxed] at inspected
        obtain rfl := Except.ok.inj inspected
        exact .nil
      | some box =>
        rw [boxed] at inspected
        obtain ⟨visits, visit, joined⟩ := bind_eq_ok_iff.mp inspected
        obtain rfl := Except.ok.inj joined
        have known : ∀ neighbour ∈
            search (Neighbours.ofItems site.design.items) (box.grown reach),
            neighbour ∈ (Neighbours.ofItems site.design.items).entries := fun neighbour near =>
          List.mem_of_mem_filter ((finds _ _).mem_iff.mp near)
        simpa using comesFrom_mapM listed here boxed known visit

end Origins

/-- **Whatever the check records** comes from pairs that differ. -/
theorem exists_pairs {K : Type} [Scalar K] {search : Search K}
    (finds : ∀ neighbours region, (search neighbours region).Perm (neighbours.near region))
    (site : Site K) (state : RunState K) :
    ∃ recorded pairs, ((checkBy search).run site state).1.findings.violations =
        state.findings.violations ++ recorded ∧
      pairs.Nodup ∧ List.Forall₂ (ComesFrom site) recorded pairs := by
  obtain ⟨recorded, within, appended⟩ := (courseBy search site).keeps_run site state
  have nothing (none : (courseBy search site).found site = []) :
      ∃ pairs : List (Nat × Nat), pairs.Nodup ∧ List.Forall₂ (ComesFrom site) recorded pairs := by
    rw [none, List.sublist_nil] at within
    rw [within]
    exact ⟨[], .nil, .nil⟩
  suffices origins : ∃ pairs : List (Nat × Nat), pairs.Nodup ∧
      List.Forall₂ (ComesFrom site) recorded pairs by
    obtain ⟨pairs, distinct, come⟩ := origins
    exact ⟨recorded, pairs, appended, distinct, come⟩
  cases reaches : reach? site with
  | error error => exact nothing (by rw [courseBy, reaches]; rfl)
  | ok answer =>
    cases answer with
    | none => exact nothing (by rw [courseBy, reaches]; rfl)
    | some reach =>
      obtain ⟨worst, found, -⟩ := map_eq_ok_iff.mp reaches
      obtain ⟨entries, listed, -⟩ := map_eq_ok_iff.mp found
      have course : (courseBy search site).found site =
          foundFrom (inspectBy search site (Neighbours.ofItems site.design.items) reach) 0
            site.design.items := by
        rw [courseBy, reaches]
        rfl
      rw [course] at within
      have come := comesFrom_foundFrom listed finds reach
        (List.drop_zero : site.design.items.drop 0 = site.design.items)
      obtain ⟨pairs, related, part⟩ :=
        sublistForall₂_iff.mp (sublistForall₂_of_sublist within come)
      exact ⟨pairs, part.nodup (nodup_visited finds 0 site.design.items), related⟩

/-! ### What a violation says about its pair -/

section Justifications

variable {K : Type} [Scalar K]

/-- Whether the minimum of an entry counts for a pair on a layer and exceeds a gap. -/
structure Exceeds (site : Site K) (first second : Item K) (gap : K) (layer : LayerId)
    (entry : Entry K) (least : K) : Prop where
  resolved : site.resolve .clearance first (some second) (some layer) = .ok (some entry)
  minimum : entry.constraint.min? = some least
  exceeds : gap < least

/-- Whether a violation is justified by a pair of positions: it is about their items in order, a
layer that both occupy, and the rule that counts for them there. The minimum of that rule exceeds
the gap of their boxes, which no minimum does on an earlier one of the shared layers. -/
structure JustifiedBy (site : Site K) (violation : Violation K) (pair : Nat × Nat)
    (first second : Item K) (firstBox secondBox : Box K) (layer : LayerId) (entry : Entry K)
    (least : K) : Prop where
  before : pair.1 < pair.2
  listed : site.design.items[pair.1]? = some first
  listed' : site.design.items[pair.2]? = some second
  boxed : first.box? = some firstBox
  boxed' : second.box? = some secondBox
  apart : first.sameNet second = false
  items : violation.items = [first.id, second.id]
  onLayer : violation.layer = some layer
  occupied : layer ∈ first.layers ∧ layer ∈ second.layers
  ruleName : violation.ruleName = entry.rule.name
  severity : violation.severity = entry.rule.severity
  exceeds : Exceeds site first second (firstBox.gap secondBox) layer entry least
  earliest : ∃ front back, sharedLayers first second = front ++ layer :: back ∧
    ∀ kept ∈ front, ∀ entry least,
      ¬ Exceeds site first second (firstBox.gap secondBox) kept entry least

/-- Whether a violation is justified by a pair of positions. -/
def IsJustified (site : Site K) (violation : Violation K) (pair : Nat × Nat) : Prop :=
  ∃ first second firstBox secondBox layer entry least,
    JustifiedBy site violation pair first second firstBox secondBox layer entry least

/-- The first layer with a breach, among the others. -/
theorem FirstBreach.exists_split {site : Site K} {first second : Item K} {gap : K}
    {layers : List LayerId} {layer : LayerId} {entry : Entry K} {least : K}
    (breach : FirstBreach site first second gap layers layer entry least) :
    ∃ front back, layers = front ++ layer :: back ∧
      ∀ kept ∈ front, ∀ entry least, ¬ Breaks site first second gap kept entry least := by
  induction breach with
  | here _ => exact ⟨[], _, rfl, List.forall_mem_nil _⟩
  | @later passed layer layers _ _ passes _ ih =>
    obtain ⟨front, back, split, keep⟩ := ih
    refine ⟨passed :: front, back, by rw [split, List.cons_append], ?_⟩
    exact List.forall_mem_cons.mpr ⟨passes, keep⟩

theorem Exceeds.breaks {site : Site Float} {first second : Item Float} {gap : Float}
    {layer : LayerId} {entry : Entry Float} {least : Float}
    (exceeds : Exceeds site first second gap layer entry least) :
    Breaks site first second gap layer entry least := by
  refine ⟨exceeds.resolved, exceeds.minimum, fun kept => ?_⟩
  obtain ⟨left, right⟩ := Decimal.numbers_of_lt exceeds.exceeds
  exact (Decimal.not_lt_iff_le left right).mpr kept exceeds.exceeds

/-- Where minima are numbers, one that a gap does not keep exceeds it. -/
theorem Breaks.exceeds_of_number {site : Site Float} {first second : Item Float}
    {firstBox secondBox : Box Float} {layer : LayerId} {entry : Entry Float} {least : Float}
    (breaks : Breaks site first second (firstBox.gap secondBox) layer entry least)
    (number : Scalar.isNaN least = false) :
    Exceeds site first second (firstBox.gap secondBox) layer entry least := by
  refine ⟨breaks.resolved, breaks.minimum, ?_⟩
  by_contra kept
  exact breaks.exceeds ((Decimal.not_lt_iff_le (Box.number_gap firstBox secondBox) number).mp kept)

/-- A violation that comes from a pair is justified by it, if the minima are numbers. -/
theorem ComesFrom.isJustified {site : Site Float} {violation : Violation Float} {pair : Nat × Nat}
    (comes : ComesFrom site violation pair)
    (numbers : ∀ entries, site.catalog.entries .clearance = .ok entries → ∀ entry ∈ entries,
      ∀ least, entry.constraint.min? = some least → Scalar.isNaN least = false) :
    IsJustified site violation pair := by
  obtain ⟨first, second, firstBox, secondBox, before, listed, listed', boxed, boxed', apart, layer,
    entry, least, breach, rfl⟩ := comes
  obtain ⟨shared, breaks⟩ := breach.breaks
  obtain ⟨entries, known, counted⟩ := Catalog.mem_of_resolve breaks.resolved
  obtain ⟨front, back, split, keep⟩ := breach.exists_split
  exact ⟨first, second, firstBox, secondBox, layer, entry, least,
    { before, listed, listed', boxed, boxed', apart
      items := rfl
      onLayer := rfl
      occupied := mem_sharedLayers_iff.mp shared
      ruleName := rfl
      severity := rfl
      exceeds := breaks.exceeds_of_number (numbers entries known entry counted least breaks.minimum)
      earliest := ⟨front, back, split, fun kept listed entry least exceeds =>
        keep kept listed entry least exceeds.breaks⟩ }⟩

end Justifications

/-- The minima of a document's rules are numbers. -/
theorem number_of_mem_entries {slots : SlotTable} {text : String} {requested : List ConstraintKind}
    {entries : List (Entry Float)}
    (known : (Catalog.build (Rules.ofText slots text).rules requested).entries .clearance =
      .ok entries) {entry : Entry Float} (counted : entry ∈ entries) {least : Float}
    (minimum : entry.constraint.min? = some least) : Scalar.isNaN least = false := by
  rw [Catalog.entries_build] at known
  split at known
  · obtain rfl := Except.ok.inj known
    exact Rules.number_of_mem_entriesOf counted minimum
  · cases known

/-- **Every recorded violation is justified, and no pair is reported twice.** For any rules of a
document and any design, from any state of a run, whatever its limit and its signal are and in
whatever order neighbours are found: what the check of distances records is justified by pairs of
positions, each violation by one of its own. -/
theorem recorded_violations_are_justified {search : Search Float}
    (finds : ∀ neighbours region, (search neighbours region).Perm (neighbours.near region))
    (slots : SlotTable) (text : String) (requested : List ConstraintKind) (name : String)
    (design : Design Float) (settings : Settings) (state : RunState Float) :
    let catalog := Catalog.build (Rules.ofText slots text).rules requested
    let site : Site Float := { check := name, catalog, design, settings }
    ∃ recorded pairs, ((checkBy search).run site state).1.findings.violations =
        state.findings.violations ++ recorded ∧
      pairs.Nodup ∧ List.Forall₂ (IsJustified site) recorded pairs := by
  intro catalog site
  obtain ⟨recorded, pairs, appended, distinct, come⟩ := exists_pairs finds site state
  refine ⟨recorded, pairs, appended, distinct, come.imp fun violation pair comes => ?_⟩
  exact comes.isJustified fun entries known entry counted least minimum =>
    number_of_mem_entries known counted minimum

/-- The search that finds neighbours by descending position. -/
def descending : Search Float := fun neighbours region => (neighbours.near region).reverse

theorem perm_descending (neighbours : Neighbours Float) (region : Box Float) :
    (descending neighbours region).Perm (neighbours.near region) := List.reverse_perm _

/-- A run on the two vias that may record two violations and is cancelled at the third question. -/
def limitedRun : RunState Float := { findings := { limit := some 2 }, signal := .after 2 }

/-- The site of a check of the two vias that asks for progress at every item. -/
def everyVia : Site Float :=
  { check := "clearance"
    catalog := .build (Rules.ofText .standard loud).rules [.clearance]
    design := twoVias
    settings := { progressInterval := 1 } }

theorem recorded_violations_are_justified_of_two_vias :
    ∃ violation, ((checkBy descending).run everyVia limitedRun).1.findings.violations =
        [violation] ∧ IsJustified everyVia violation (0, 1) := by
  obtain ⟨recorded, pairs, appended, -, justified⟩ :=
    recorded_violations_are_justified perm_descending .standard loud [.clearance] "clearance"
      twoVias { progressInterval := 1 } limitedRun
  have one : ((checkBy descending).run everyVia limitedRun).1.findings.violations.length = 1 := by
    decide +kernel
  rw [show limitedRun.findings.violations = [] from rfl, List.nil_append] at appended
  unfold everyVia at one ⊢
  rw [appended] at one ⊢
  obtain ⟨violation, rfl⟩ := List.length_eq_one_iff.mp one
  cases justified with
  | @cons _ pair _ _ justified _ =>
    refine ⟨violation, rfl, ?_⟩
    obtain ⟨first, second, firstBox, secondBox, layer, entry, least, just⟩ := justified
    obtain rfl : pair = (0, 1) := by
      have before := just.before
      have bound : pair.2 < 2 := (List.getElem?_eq_some_iff.mp just.listed').1
      exact Prod.ext (by omega) (by omega)
    exact ⟨first, second, firstBox, secondBox, layer, entry, least, just⟩

end Clearance

end DesignRules

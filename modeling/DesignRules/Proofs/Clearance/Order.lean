/-
**The clearance check does not depend on the order of the items.**

A pair is looked at from the side of the earlier item: the window is grown around that one's box, and
the layers are tried in its order. Where distances are exact and the conditions treat both sides
alike, all this is the same from the other side, so the pairs that are reported are those of items
that are too close, in whatever order the items are listed.

* `sameNet_comm`, `resolve_comm`: what a pair is judged by is the same from both sides.
* `TooClose`, `TooClose.symm`: items that break a minimum on some layer that they share.
* `exists_mem_foundOn_iff`: the check finds the pairs of items that are too close.
* `reported_pairs_eq_of_perm`: the reported pairs of a design, and of one with its items reordered.
-/

import DesignRules.Proofs.Clearance.Pairs
import DesignRules.Proofs.Clearance.Window
import Mathlib.Data.Sym.Sym2

namespace DesignRules

open Session (siteFor)

/-! ### Both sides of a pair -/

section Sides

variable {K : Type}

theorem Item.sameNet_comm (first second : Item K) : first.sameNet second = second.sameNet first := by
  unfold sameNet
  cases first.net with
  | none => cases second.net <;> rfl
  | some net =>
    cases second.net with
    | none => rfl
    | some other => exact Bool.beq_comm

namespace Clearance

variable [Scalar K]

/-- Whether the rules on distances count and treat the items of a design alike on either side of a
pair. -/
structure IsImpartial (entries : List (Entry K)) (design : Design K) : Prop where
  counts : ∀ entry ∈ entries, entry.rule.severity ≠ .ignore
  alike : ∀ entry ∈ entries, ∀ code, entry.rule.condition = some code →
    ∀ first ∈ design.items, ∀ second ∈ design.items, ∀ layer : LayerId,
      code.holds { first := some first, second := some second, layer, stack := design.stack } =
        code.holds { first := some second, second := some first, layer, stack := design.stack }

variable {site : Site K} {entries : List (Entry K)}

/-- **The constraint that counts** is the same from both sides. -/
theorem resolve_comm (listed : site.catalog.entries .clearance = .ok entries)
    (impartial : IsImpartial entries site.design) {first second : Item K}
    (member : first ∈ site.design.items) (member' : second ∈ site.design.items)
    (layer : LayerId) :
    site.resolve .clearance first (some second) (some layer) =
      site.resolve .clearance second (some first) (some layer) := by
  unfold Site.resolve Catalog.resolve
  rw [listed]
  refine congrArg Except.ok (List.find?_congr fun entry known => ?_)
  unfold Entry.applies
  cases condition : entry.rule.condition with
  | none => rfl
  | some code =>
    have same := impartial.alike entry known code condition first member second member' layer
    exact congrArg (entry.rule.admitsLayer site.design.stack (some layer) && ·) same

/-- Some layer is the first one with a breach if there is a breach on any. -/
theorem exists_firstBreach_iff {first second : Item K} {gap : K} {layers : List LayerId} :
    (∃ layer entry least, FirstBreach site first second gap layers layer entry least) ↔
      ∃ layer entry least, layer ∈ layers ∧ Breaks site first second gap layer entry least := by
  constructor
  · rintro ⟨layer, entry, least, breach⟩
    exact ⟨layer, entry, least, breach.breaks⟩
  · rintro ⟨layer, entry, least, member, breaks⟩
    induction layers with
    | nil => cases member
    | cons here layers ih =>
      by_cases broken : ∃ entry least, Breaks site first second gap here entry least
      · obtain ⟨entry, least, breaks⟩ := broken
        exact ⟨here, entry, least, .here breaks⟩
      · simp only [not_exists] at broken
        rcases List.mem_cons.mp member with rfl | later
        · exact absurd breaks (broken entry least)
        · obtain ⟨layer, entry, least, breach⟩ := ih later
          exact ⟨layer, entry, least, .later broken breach⟩

end Clearance

end Sides

namespace Clearance

/-! ### Items that are too close -/

section TooClose

variable [NumberText] {site : Site Exact} {entries : List (Entry Exact)}

/-- Whether items on different nets have boxes that break a minimum on a layer that both occupy. -/
def TooClose (site : Site Exact) (first second : Item Exact) : Prop :=
  first.sameNet second = false ∧ ∃ firstBox secondBox, first.box? = some firstBox ∧
    second.box? = some secondBox ∧ ∃ layer entry least, layer ∈ sharedLayers first second ∧
      Breaks site first second (firstBox.gap secondBox) layer entry least

/-- Items that are too close are so from both sides. -/
theorem TooClose.symm (listed : site.catalog.entries .clearance = .ok entries)
    (impartial : IsImpartial entries site.design) {first second : Item Exact}
    (member : first ∈ site.design.items) (member' : second ∈ site.design.items)
    (close : TooClose site first second) : TooClose site second first := by
  obtain ⟨apart, firstBox, secondBox, boxed, boxed', layer, entry, least, shared, breaks⟩ := close
  refine ⟨(Item.sameNet_comm second first).trans apart, secondBox, firstBox, boxed', boxed, layer,
    entry, least, mem_sharedLayers_iff.mpr (mem_sharedLayers_iff.mp shared).symm, ?_⟩
  refine ⟨?_, breaks.minimum, ?_⟩
  · rw [← resolve_comm listed impartial member member']
    exact breaks.resolved
  · rw [Exact.gap_comm]
    exact breaks.exceeds

/-- How close items are does not depend on what else a design lists. -/
theorem TooClose.withItems {first second : Item Exact} (close : TooClose site first second)
    (items : List (Item Exact)) :
    TooClose { site with design := { site.design with items } } first second := by
  obtain ⟨apart, firstBox, secondBox, boxed, boxed', layer, entry, least, shared, breaks⟩ := close
  exact ⟨apart, firstBox, secondBox, boxed, boxed', layer, entry, least, shared,
    ⟨breaks.resolved, breaks.minimum, breaks.exceeds⟩⟩

/-- **The window loses no pair**: of items that are too close the earlier one is looked at with the
later one. -/
theorem TooClose.examined {index index' : Nat} {first second : Item Exact}
    (close : TooClose site first second) (before : index < index')
    (listed : site.design.items[index]? = some first)
    (listed' : site.design.items[index']? = some second) :
    ∃ firstBox secondBox, Examined site index index' first second firstBox secondBox ∧
      ∃ layer entry least, FirstBreach site first second (firstBox.gap secondBox)
        (sharedLayers first second) layer entry least := by
  obtain ⟨apart, firstBox, secondBox, boxed, boxed', layer, entry, least, shared, breaks⟩ := close
  have known : (index', secondBox) ∈ (Neighbours.ofItems site.design.items).entries :=
    (Neighbours.mem_ofItems_iff ..).mpr ⟨second, listed', boxed'⟩
  have closer : firstBox.gap secondBox < least := (Exact.lt_iff ..).mpr (not_le.mp breaks.exceeds)
  obtain ⟨reach, reaches, near⟩ := near_of_gap_lt breaks.resolved breaks.minimum closer known
  have meets := ((Neighbours.mem_near_iff ..).mp near).2
  exact ⟨firstBox, secondBox,
    ⟨before, listed, listed', boxed, boxed', apart, reach, reaches, meets⟩,
    exists_firstBreach_iff.mpr ⟨layer, entry, least, shared, breaks⟩⟩

/-- **The check of distances finds the pairs of items that are too close.** -/
theorem exists_mem_foundOn_iff {search : Search Exact}
    (finds : ∀ neighbours region, (search neighbours region).Perm (neighbours.near region))
    (listed : site.catalog.entries .clearance = .ok entries)
    (impartial : IsImpartial entries site.design)
    (distinct : (site.design.items.map Item.id).Nodup) {pair : Sym2 Identity} :
    (∃ violation ∈ (checkBy search).foundOn site, violation.check = site.check ∧
        ∃ first second, violation.items = [first, second] ∧ s(first, second) = pair) ↔
      ∃ first ∈ site.design.items, ∃ second ∈ site.design.items, first.id ≠ second.id ∧
        TooClose site first second ∧ s(first.id, second.id) = pair := by
  constructor
  · rintro ⟨violation, member, -, firstId, secondId, named, rfl⟩
    obtain ⟨-, index, index', first, second, firstBox, secondBox, examined, layer, entry, least,
      breach, rfl⟩ := (mem_foundOn_iff finds listed).mp member
    obtain ⟨rfl, rfl⟩ : first.id = firstId ∧ second.id = secondId := by
      simpa [breachOn, Site.violation] using named
    refine ⟨first, List.mem_of_getElem? examined.listed, second,
      List.mem_of_getElem? examined.listed', fun same => ?_, ⟨examined.apart, firstBox, secondBox,
        examined.boxed, examined.boxed', layer, entry, least, breach.breaks⟩, rfl⟩
    exact absurd (eq_of_id_eq distinct examined.listed examined.listed' same)
      (Nat.ne_of_lt examined.before)
  · rintro ⟨first, member, second, member', differ, close, rfl⟩
    -- The pair is looked at from the side of whichever item comes first.
    have ordered {first second : Item Exact} {index index' : Nat} (before : index < index')
        (here : site.design.items[index]? = some first)
        (there : site.design.items[index']? = some second) (close : TooClose site first second) :
        ∃ violation ∈ (checkBy search).foundOn site,
          violation.check = site.check ∧ violation.items = [first.id, second.id] := by
      obtain ⟨firstBox, secondBox, examined, layer, entry, least, breach⟩ :=
        close.examined before here there
      obtain ⟨entries', known, counted⟩ := Catalog.mem_of_resolve breach.breaks.2.resolved
      obtain rfl := Except.ok.inj (listed.symm.trans known)
      exact ⟨_, (mem_foundOn_iff finds listed).mpr ⟨impartial.counts entry counted, index, index',
        first, second, firstBox, secondBox, examined, layer, entry, least, breach, rfl⟩, rfl, rfl⟩
    obtain ⟨index, here⟩ := List.mem_iff_getElem?.mp member
    obtain ⟨index', there⟩ := List.mem_iff_getElem?.mp member'
    rcases Nat.lt_trichotomy index index' with before | rfl | after
    · obtain ⟨violation, found, check, named⟩ := ordered before here there close
      exact ⟨violation, found, check, _, _, named, rfl⟩
    · obtain rfl := Option.some.inj (here.symm.trans there)
      exact absurd rfl differ
    · obtain ⟨violation, found, check, named⟩ :=
        ordered after there here (close.symm listed impartial member member')
      exact ⟨violation, found, check, _, _, named, Sym2.eq_swap⟩

end TooClose

/-! ### Reports -/

/-- The pairs of items that a report has a violation of the check of distances for. -/
def reportedPairs {K : Type} (report : Report K) : Set (Sym2 Identity) :=
  {pair | ∃ violation ∈ report.violations, violation.check = "clearance" ∧
    ∃ first second, violation.items = [first, second] ∧ s(first, second) = pair}

section Reports

variable [NumberText] {search : Search Exact}
  (finds : ∀ neighbours region, (search neighbours region).Perm (neighbours.near region))
  {session : Session Exact} (current : session.IsCurrent) (unset : session.signal = .never)
  (unlimited : session.settings.maxViolations = none)
  (standard : ∀ check ∈ session.checks, check ∈ Check.standardBy search)

include finds current unset unlimited standard

/-- **The reported pairs** are those of items that are too close, if the check of distances runs. -/
theorem mem_reportedPairs_iff (design : Design Exact)
    (impartial : IsImpartial (Catalog.entriesOf session.rules.rules .clearance) design)
    (distinct : (design.items.map Item.id).Nodup) (pair : Sym2 Identity) :
    pair ∈ reportedPairs (session.run design).2.report ↔
      checkBy search ∈ session.checks ∧
        Session.missing
          (Catalog.build session.rules.rules (session.checks.flatMap Check.needs))
          (checkBy search) = [] ∧
        ∃ first ∈ design.items, ∃ second ∈ design.items, first.id ≠ second.id ∧
          TooClose (siteFor session.rules session.checks session.settings design "clearance")
            first second ∧
          s(first.id, second.id) = pair := by
  have tours : ∀ check ∈ session.checks, check.IsTour :=
    fun check member => isTour_of_mem_standardBy (standard check member)
  have reported := Session.mem_violations_run_iff current unset unlimited tours design
  have listed (registered : checkBy search ∈ session.checks) :
      (siteFor session.rules session.checks session.settings design "clearance").catalog.entries
          .clearance = .ok (Catalog.entriesOf session.rules.rules .clearance) :=
    (Catalog.entries_build ..).trans (if_pos (List.mem_flatMap.mpr
      ⟨_, registered, List.mem_singleton_self _⟩))
  constructor
  · rintro ⟨violation, member, named, items⟩
    obtain ⟨check, registered, backed, member⟩ := (reported violation).mp member
    obtain rfl := check_eq_of_mem_foundOn (standard check registered) member named
    exact ⟨registered, backed,
      (exists_mem_foundOn_iff finds (listed registered) impartial distinct).mp
        ⟨violation, member, named, items⟩⟩
  · rintro ⟨registered, backed, close⟩
    obtain ⟨violation, member, named, items⟩ :=
      (exists_mem_foundOn_iff finds (listed registered) impartial distinct).mpr close
    exact ⟨violation, (reported violation).mpr ⟨_, registered, backed, member⟩, named, items⟩

/-- **The reported pairs do not depend on the order of the items.** In a session with the standard
checks, that has no limit and that nobody cancels, let the rules on distances that are enabled
count, and let their conditions hold alike for two items of a design on either side of a pair, on
every layer. If the items have different identities, the run on the design and the run on the same
items in any other order report the same unordered pairs. -/
theorem reported_pairs_eq_of_perm (design : Design Exact)
    (impartial : IsImpartial (Catalog.entriesOf session.rules.rules .clearance) design)
    (distinct : (design.items.map Item.id).Nodup) {items : List (Item Exact)}
    (reordered : items.Perm design.items) :
    reportedPairs (session.run { design with items }).2.report =
      reportedPairs (session.run design).2.report := by
  have impartial' : IsImpartial (Catalog.entriesOf session.rules.rules .clearance)
      { design with items } := by
    refine ⟨impartial.counts, fun entry known code condition first member second member' => ?_⟩
    exact impartial.alike entry known code condition first (reordered.mem_iff.mp member) second
      (reordered.mem_iff.mp member')
  have distinct' : (items.map Item.id).Nodup := (reordered.map Item.id).nodup_iff.mpr distinct
  ext pair
  rw [mem_reportedPairs_iff finds current unset unlimited standard _ impartial' distinct',
    mem_reportedPairs_iff finds current unset unlimited standard _ impartial distinct]
  simp only [reordered.mem_iff]
  constructor
  · rintro ⟨registered, backed, first, member, second, member', differ, close, same⟩
    exact ⟨registered, backed, first, member, second, member', differ,
      close.withItems design.items, same⟩
  · rintro ⟨registered, backed, first, member, second, member', differ, close, same⟩
    exact ⟨registered, backed, first, member, second, member', differ, close.withItems items, same⟩

end Reports

/-- The lower one of two pads. -/
def lowerPad : Item Exact := { pad "lower" (-1) (-1) 0 0 with id := .numbered 0 }

/-- The upper one, which meets the corner of the lower one. -/
def upperPad : Item Exact := { pad "upper" 0 0 1 1 with id := .numbered 1 }

/-- The two pads, the lower one first. -/
def lowerFirst : Design Exact := ⟨.nil, "two pads", {}, [lowerPad, upperPad]⟩

/-- The check of distances under the rule that keeps everything five apart. -/
noncomputable def apartSession [NumberText] : Session Exact where
  rules := { rules := [apart] }
  registrations := [⟨checkBy Neighbours.near, .registered⟩]

theorem isImpartial_apart [NumberText] (design : Design Exact) :
    IsImpartial (Catalog.entriesOf [apart] .clearance) design := by
  have only : ∀ entry ∈ Catalog.entriesOf [apart] .clearance, entry.rule = apart :=
    fun entry member => List.mem_singleton.mp (Catalog.mem_entriesOf_iff.mp member).1
  refine ⟨fun entry member => ?_, fun entry member code condition => ?_⟩
  · rw [only entry member]
    decide
  · rw [only entry member] at condition
    cases condition

theorem tooClose_pads [NumberText] (settings : Settings) :
    TooClose (siteFor { rules := [apart] } [checkBy Neighbours.near] settings lowerFirst
      "clearance") lowerPad upperPad := by
  have close : (⟨⟨⟨-1⟩, ⟨-1⟩⟩, ⟨⟨0⟩, ⟨0⟩⟩⟩ : Box Exact).gap ⟨⟨⟨0⟩, ⟨0⟩⟩, ⟨⟨1⟩, ⟨1⟩⟩⟩ < ⟨5⟩ := by
    rw [Exact.lt_iff, Exact.value_gap, Exact.value_separation, Real.sqrt_lt' (by norm_num)]
    norm_num
  exact ⟨rfl, _, _, rfl, rfl, 0, ⟨apart, ⟨.clearance, .bound (.atLeast ⟨5⟩), "apart", 0⟩⟩, ⟨5⟩,
    List.mem_cons_self, rfl, rfl, not_le.mpr ((Exact.lt_iff ..).mp close)⟩

/-- The two pads are reported, whichever of them comes first. -/
theorem reported_pairs_eq_of_perm_of_two_pads :
    letI := wholePart
    reportedPairs (apartSession.run { lowerFirst with items := [upperPad, lowerPad] }).2.report =
        reportedPairs (apartSession.run lowerFirst).2.report ∧
      s(lowerPad.id, upperPad.id) ∈ reportedPairs (apartSession.run lowerFirst).2.report := by
  let _ : NumberText := wholePart
  have current : apartSession.IsCurrent := Session.isCurrent_of_none rfl
  have standard : ∀ check ∈ apartSession.checks, check ∈ Check.standardBy Neighbours.near :=
    List.forall_mem_singleton.mpr List.mem_cons_self
  have impartial := isImpartial_apart lowerFirst
  have distinct : (lowerFirst.items.map Item.id).Nodup := by decide
  refine ⟨reported_pairs_eq_of_perm (fun _ _ => .refl _) current rfl rfl standard lowerFirst
    impartial distinct (.swap ..), ?_⟩
  refine (mem_reportedPairs_iff (fun _ _ => .refl _) current rfl rfl standard lowerFirst impartial
    distinct _).mpr ⟨List.mem_singleton_self _, rfl, lowerPad, List.mem_cons_self, upperPad,
      List.mem_cons_of_mem _ (List.mem_singleton_self _), by decide, tooClose_pads _, rfl⟩

end Clearance

end DesignRules

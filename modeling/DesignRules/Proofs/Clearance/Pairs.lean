/-
**Which pairs the clearance check reports.**

A pair that is looked at is judged on the layers that it shares, in the order of the first item's,
up to the first one whose minimum it does not keep. That layer alone counts: if its rule is ignored,
the pair is not reported, whatever the other layers say.

* `Breaks`, `FirstBreach`: a pair does not keep the minimum of a layer, and the first such layer.
* `Examined`: the pairs that a run looks at.
* `pair_eq`, `mem_withNeighbour_iff`, `mem_inspectBy_iff`, `mem_foundOn_iff`: what is found for a
  pair, at a neighbour, at an item, and by the whole check.
* `first_breach_decides_report`: which pairs a report is about.
* `ignored_rule_can_hide_violation`: an ignored rule can hide a violation of another one.
-/

import DesignRules.Proofs.Catalog.Entries
import DesignRules.Proofs.Session.Whole

namespace DesignRules

open Session (siteFor fresh)

variable {K : Type} [Scalar K]

namespace Clearance

/-! ### Layers of a pair -/

omit [Scalar K] in
theorem mem_sharedLayers_iff {first second : Item K} {layer : LayerId} :
    layer ∈ sharedLayers first second ↔ layer ∈ first.layers ∧ layer ∈ second.layers := by
  rw [sharedLayers, List.mem_filter, List.contains_iff_mem]

/-- Whether the constraint that counts for a pair on a layer has a minimum that a gap does not keep;
a gap that is no number keeps none. -/
structure Breaks (site : Site K) (first second : Item K) (gap : K) (layer : LayerId)
    (entry : Entry K) (least : K) : Prop where
  resolved : site.resolve .clearance first (some second) (some layer) = .ok (some entry)
  minimum : entry.constraint.min? = some least
  exceeds : ¬ least ≤ gap

/-- Whether a layer is the first of some layers on which a pair breaks the minimum that counts. -/
inductive FirstBreach (site : Site K) (first second : Item K) (gap : K) :
    List LayerId → LayerId → Entry K → K → Prop where
  | here {layer : LayerId} {layers : List LayerId} {entry : Entry K} {least : K} :
      Breaks site first second gap layer entry least →
        FirstBreach site first second gap (layer :: layers) layer entry least
  | later {kept layer : LayerId} {layers : List LayerId} {entry : Entry K} {least : K} :
      (∀ entry least, ¬ Breaks site first second gap kept entry least) →
        FirstBreach site first second gap layers layer entry least →
          FirstBreach site first second gap (kept :: layers) layer entry least

/-- What is reported of a pair on a layer. -/
def breachOn (site : Site K) (first second : Item K) (firstBox secondBox : Box K)
    (layer : LayerId) (entry : Entry K) (least : K) : Violation K :=
  site.violation entry
    (message site.design.stack first second layer (firstBox.gap secondBox) least) (some layer)
    (some (firstBox.joined secondBox)) [first.id, second.id]

/-- Whether a violation is what a pair breaks on the first of some layers on which it breaks
anything. -/
def IsFirstBreach (site : Site K) (first second : Item K) (firstBox secondBox : Box K)
    (layers : List LayerId) (violation : Violation K) : Prop :=
  ∃ layer entry least,
    FirstBreach site first second (firstBox.gap secondBox) layers layer entry least ∧
      violation = breachOn site first second firstBox secondBox layer entry least

variable {site : Site K} {entries : List (Entry K)}

omit [Scalar K] in
/-- Where nothing is looked at, nothing is found. -/
theorem finds_nothing {sought : Violation K → Prop} (never : ∀ violation, ¬ sought violation) :
    ∃ found, (.ok {} : Except RunError (Inspection K)) = .ok found ∧
      ∀ violation, violation ∈ found.violations ↔ sought violation :=
  ⟨{}, rfl, fun violation => iff_of_false List.not_mem_nil (never violation)⟩

section Pair

variable {first second : Item K} {gap : K} {layer : LayerId} {layers : List LayerId}
  {entry : Entry K} {least : K}

theorem FirstBreach.breaks (breach : FirstBreach site first second gap layers layer entry least) :
    layer ∈ layers ∧ Breaks site first second gap layer entry least := by
  induction breach with
  | here breaks => exact ⟨List.mem_cons_self, breaks⟩
  | later kept _ ih => exact ⟨List.mem_cons_of_mem _ ih.1, ih.2⟩

theorem Breaks.entry_eq {other : Entry K} {limit : K}
    (breaks : Breaks site first second gap layer entry least)
    (also : Breaks site first second gap layer other limit) : entry = other :=
  Option.some.inj (Except.ok.inj (breaks.resolved.symm.trans also.resolved))

variable (listed : site.catalog.entries .clearance = .ok entries)

include listed

theorem exists_resolve (first second : Item K) (layer : LayerId) :
    ∃ found, site.resolve .clearance first (some second) (some layer) = .ok found := by
  unfold Site.resolve Catalog.resolve
  rw [listed]
  exact ⟨_, rfl⟩

/-- **A pair on a layer**: it breaks the minimum that counts, or nothing is found. -/
theorem pairOn_eq (first second : Item K) (firstBox secondBox : Box K) (layer : LayerId) :
    (∃ entry least, Breaks site first second (firstBox.gap secondBox) layer entry least ∧
      pairOn site first second firstBox secondBox layer =
        .ok (some (breachOn site first second firstBox secondBox layer entry least))) ∨
    (∀ entry least, ¬ Breaks site first second (firstBox.gap secondBox) layer entry least) ∧
      pairOn site first second firstBox secondBox layer = .ok none := by
  obtain ⟨found, resolved⟩ := exists_resolve listed first second layer
  unfold pairOn
  rw [resolved]
  cases found with
  | none =>
    refine .inr ⟨fun entry least breaks => ?_, rfl⟩
    have same := breaks.resolved
    rw [resolved] at same
    cases same
  | some entry =>
    have counts {other : Entry K} {limit : K}
        (breaks : Breaks site first second (firstBox.gap secondBox) layer other limit) :
        other = entry := by
      have same := breaks.resolved
      rw [resolved] at same
      exact (Option.some.inj (Except.ok.inj same)).symm
    simp only [bind, Except.bind]
    cases minimum : entry.constraint.min? with
    | none =>
      refine .inr ⟨fun other limit breaks => ?_, rfl⟩
      have has := breaks.minimum
      rw [counts breaks, minimum] at has
      cases has
    | some least =>
      by_cases kept : least ≤ firstBox.gap secondBox
      · refine .inr ⟨fun other limit breaks => ?_, if_pos kept⟩
        have has := breaks.minimum
        rw [counts breaks, minimum, Option.some.injEq] at has
        exact breaks.exceeds (has ▸ kept)
      · exact .inl ⟨entry, least, ⟨resolved, minimum, kept⟩, if_neg kept⟩

/-- **A pair on some layers**: what is found is what it breaks on the first layer on which it breaks
anything. -/
theorem pair_eq (first second : Item K) (firstBox secondBox : Box K) (layers : List LayerId) :
    ∃ found, pair site first second firstBox secondBox layers = .ok found ∧
      ∀ violation, violation ∈ found.violations ↔
        IsFirstBreach site first second firstBox secondBox layers violation := by
  induction layers with
  | nil =>
    refine finds_nothing fun violation => ?_
    rintro ⟨layer, entry, least, breach, -⟩
    cases breach
  | cons layer layers ih =>
    rcases pairOn_eq listed first second firstBox secondBox layer with
      ⟨entry, least, breaks, paired⟩ | ⟨kept, paired⟩
    · refine ⟨{ violations := [breachOn site first second firstBox secondBox layer entry least]
                examined := 1 }, ?_, fun violation => ?_⟩
      · rw [pair, paired]
        rfl
      · rw [List.mem_singleton]
        constructor
        · rintro rfl
          exact ⟨layer, entry, least, .here breaks, rfl⟩
        · rintro ⟨layer', entry', least', breach, rfl⟩
          cases breach with
          | here also =>
            obtain rfl := breaks.entry_eq also
            obtain rfl : least = least' :=
              Option.some.inj (breaks.minimum.symm.trans also.minimum)
            rfl
          | later kept _ => exact absurd breaks (kept _ _)
    · obtain ⟨rest, others, finds⟩ := ih
      refine ⟨{ rest with examined := rest.examined + 1 }, ?_, fun violation => ?_⟩
      · rw [pair, paired, others]
        rfl
      · refine (finds violation).trans ?_
        constructor
        · rintro ⟨layer', entry, least, breach, rfl⟩
          exact ⟨layer', entry, least, .later kept breach, rfl⟩
        · rintro ⟨layer', entry, least, breach, rfl⟩
          cases breach with
          | here also => exact absurd also (kept _ _)
          | later _ breach => exact ⟨layer', entry, least, breach, rfl⟩

end Pair

/-! ### Pairs of a run -/

/-- Whether a run looks at the pair of items at two positions: both have boxes, they are not on one
net, and the second one is found in the window around the first. -/
structure Examined (site : Site K) (index index' : Nat) (first second : Item K)
    (firstBox secondBox : Box K) : Prop where
  before : index < index'
  listed : site.design.items[index]? = some first
  listed' : site.design.items[index']? = some second
  boxed : first.box? = some firstBox
  boxed' : second.box? = some secondBox
  apart : first.sameNet second = false
  near : ∃ reach, reach? site = .ok (some reach) ∧
    secondBox.upright.meets (firstBox.grown reach).upright = true

/-- **An item and a neighbour.** -/
theorem mem_withNeighbour_iff (listed : site.catalog.entries .clearance = .ok entries)
    (index : Nat) (item : Item K) (box : Box K) (neighbour : Nat × Box K) :
    ∃ found, withNeighbour site index item box neighbour = .ok found ∧
      ∀ violation, violation ∈ found.violations ↔
        index < neighbour.1 ∧
          ∃ other, site.design.items[neighbour.1]? = some other ∧ item.sameNet other = false ∧
            IsFirstBreach site item other box neighbour.2 (sharedLayers item other) violation := by
  unfold withNeighbour
  by_cases early : neighbour.1 ≤ index
  · rw [if_pos early]
    refine finds_nothing fun violation => ?_
    rintro ⟨later, -⟩
    exact absurd early (Nat.not_le_of_lt later)
  rw [if_neg early]
  have later : index < neighbour.1 := Nat.lt_of_not_le early
  cases listed' : site.design.items[neighbour.1]? with
  | none =>
    refine finds_nothing fun violation => ?_
    rintro ⟨-, other, there, -⟩
    cases there
  | some other =>
    by_cases same : item.sameNet other = true
    · simp only [if_pos same]
      refine finds_nothing fun violation => ?_
      rintro ⟨-, another, there, apart, -⟩
      obtain rfl := Option.some.inj there
      rw [same] at apart
      cases apart
    · simp only [if_neg same]
      obtain ⟨found, paired, finds⟩ :=
        pair_eq listed item other box neighbour.2 (sharedLayers item other)
      refine ⟨found, paired, fun violation => (finds violation).trans ?_⟩
      constructor
      · intro breach
        exact ⟨later, other, rfl, eq_false_of_ne_true same, breach⟩
      · rintro ⟨-, another, there, -, breach⟩
        obtain rfl := Option.some.inj there
        exact breach

section Search

variable {search : Search K}
  (finds : ∀ neighbours region, (search neighbours region).Perm (neighbours.near region))

include finds

/-- The pairs that are looked at from an item are those with the later items that the search finds
around it. -/
theorem examined_iff {reach : K} (reaches : reach? site = .ok (some reach)) {index : Nat}
    {item : Item K} (here : site.design.items[index]? = some item) {box : Box K}
    (boxed : item.box? = some box) {index' : Nat} {second : Item K} {secondBox : Box K} :
    Examined site index index' item second box secondBox ↔
      (index', secondBox) ∈ search (Neighbours.ofItems site.design.items) (box.grown reach) ∧
        index < index' ∧ site.design.items[index']? = some second ∧
          item.sameNet second = false := by
  rw [(finds _ _).mem_iff, Neighbours.mem_near_iff, Neighbours.mem_ofItems_iff]
  constructor
  · intro examined
    obtain ⟨reach', reaches', meets⟩ := examined.near
    obtain rfl : reach = reach' := Option.some.inj (Except.ok.inj (reaches.symm.trans reaches'))
    exact ⟨⟨⟨second, examined.listed', examined.boxed'⟩, meets⟩, examined.before,
      examined.listed', examined.apart⟩
  · rintro ⟨⟨⟨other, there', boxed'⟩, meets⟩, before, there, apart⟩
    obtain rfl : second = other := Option.some.inj (there.symm.trans there')
    exact ⟨before, here, there, boxed, boxed', apart, reach, reaches, meets⟩

/-- **An item**: what is found at it. -/
theorem mem_inspectBy_iff (listed : site.catalog.entries .clearance = .ok entries) {reach : K}
    (reaches : reach? site = .ok (some reach)) (index : Nat) (item : Item K) :
    ∃ found, inspectBy search site (Neighbours.ofItems site.design.items) reach index item =
        .ok found ∧
      (site.design.items[index]? = some item → ∀ violation, violation ∈ found.violations ↔
        ∃ index' second firstBox secondBox,
          Examined site index index' item second firstBox secondBox ∧
            IsFirstBreach site item second firstBox secondBox (sharedLayers item second)
              violation) := by
  unfold inspectBy
  cases boxed : item.box? with
  | none =>
    refine ⟨{}, rfl, fun _ violation => iff_of_false List.not_mem_nil ?_⟩
    rintro ⟨index', second, firstBox, secondBox, examined, -⟩
    rw [examined.boxed] at boxed
    cases boxed
  | some box =>
    have visits := mem_withNeighbour_iff listed index item box
    obtain ⟨found, visited⟩ := exists_mapM_eq_ok (withNeighbour site index item box)
      (search (Neighbours.ofItems site.design.items) (box.grown reach))
      fun neighbour _ => (visits neighbour).imp fun _ both => both.1
    refine ⟨combined found, ?_, fun here violation => ?_⟩
    · simp only [visited]
      rfl
    · rw [combined, List.mem_flatMap]
      constructor
      · rintro ⟨inspection, member, member'⟩
        obtain ⟨⟨index', secondBox⟩, near, visit⟩ := (mem_mapM_iff visited).mp member
        obtain ⟨inspection', visit', contains⟩ := visits (index', secondBox)
        obtain rfl : inspection = inspection' := Except.ok.inj (visit.symm.trans visit')
        obtain ⟨later, second, there, apart, breach⟩ := (contains violation).mp member'
        have examined := (examined_iff finds reaches here boxed).mpr ⟨near, later, there, apart⟩
        exact ⟨index', second, box, secondBox, examined, breach⟩
      · rintro ⟨index', second, firstBox, secondBox, examined, breach⟩
        obtain rfl : box = firstBox := Option.some.inj (boxed.symm.trans examined.boxed)
        obtain ⟨near, later, there, apart⟩ := (examined_iff finds reaches here boxed).mp examined
        obtain ⟨inspection, visit, contains⟩ := visits (index', secondBox)
        refine ⟨inspection, (mem_mapM_iff visited).mpr ⟨_, near, visit⟩, ?_⟩
        exact (contains violation).mpr ⟨later, second, there, apart, breach⟩

/-- **The check of distances** finds what the pairs that it looks at break on their first layers. -/
theorem mem_foundOn_iff (listed : site.catalog.entries .clearance = .ok entries)
    {violation : Violation K} :
    violation ∈ (checkBy search).foundOn site ↔
      violation.severity ≠ .ignore ∧
        ∃ index index' first second firstBox secondBox,
          Examined site index index' first second firstBox secondBox ∧
            IsFirstBreach site first second firstBox secondBox (sharedLayers first second)
              violation := by
  rw [Check.foundOn_eq (courseBy search) fun _ _ => rfl, mem_counted_iff, and_comm]
  refine and_congr_right fun _ => ?_
  have nothing (unreached : ∀ reach, reach? site ≠ .ok (some reach)) :
      ¬ ∃ index index' first second firstBox secondBox,
        Examined site index index' first second firstBox secondBox ∧
          IsFirstBreach site first second firstBox secondBox (sharedLayers first second)
            violation := by
    rintro ⟨index, index', first, second, firstBox, secondBox, examined, -⟩
    obtain ⟨reach, reaches, -⟩ := examined.near
    exact unreached reach reaches
  unfold courseBy
  cases reaches : reach? site with
  | error error => exact iff_of_false List.not_mem_nil (nothing (by simp [reaches]))
  | ok answer =>
    cases answer with
    | none => exact iff_of_false List.not_mem_nil (nothing (by simp [reaches]))
    | some reach =>
      have inspects := mem_inspectBy_iff finds listed reaches
      constructor
      · intro member
        obtain ⟨offset, item, found, here, inspected, contained⟩ := exists_of_mem_foundFrom member
        rw [Nat.zero_add] at inspected
        obtain ⟨found', inspected', contains⟩ := inspects offset item
        obtain rfl : found = found' := Except.ok.inj (inspected.symm.trans inspected')
        exact ⟨offset, (contains here violation).mp contained |>.imp fun index' rest =>
          ⟨item, rest⟩⟩
      · rintro ⟨index, index', first, second, firstBox, secondBox, examined, breach⟩
        obtain ⟨found, inspected, contains⟩ := inspects index first
        have member := (contains examined.listed violation).mpr
          ⟨index', second, firstBox, secondBox, examined, breach⟩
        rw [← Nat.zero_add index] at inspected
        refine mem_foundFrom (fun index item => ?_) examined.listed inspected member
        exact (inspects index item).imp fun _ both => both.1

/-! ### Reports -/

/-- Whether a violation is one that the check of distances finds for two items. -/
structure IsAbout (first second : Item K) (violation : Violation K) : Prop where
  check : violation.check = "clearance"
  kind : violation.kind = .clearance
  items : violation.items = [first.id, second.id]

omit [Scalar K] finds in
/-- Items with different identities are told apart by them. -/
theorem eq_of_id_eq {items : List (Item K)} (distinct : (items.map Item.id).Nodup)
    {index index' : Nat} {first second : Item K} (listed : items[index]? = some first)
    (listed' : items[index']? = some second) (same : first.id = second.id) :
    index = index' := by
  have here : (items.map Item.id)[index]? = some first.id := by
    rw [List.getElem?_map, listed, Option.map_some]
  have there : (items.map Item.id)[index']? = some first.id := by
    rw [List.getElem?_map, listed', Option.map_some, same]
  obtain ⟨bound, _⟩ := List.getElem?_eq_some_iff.mp here
  exact (List.getElem?_inj bound distinct).mp (here.trans there.symm)

omit finds in
/-- A pair that is looked at is known by the identities of its items, if no identity repeats. -/
theorem Examined.eq_of_ids (distinct : (site.design.items.map Item.id).Nodup)
    {index index' other other' : Nat} {first second third fourth : Item K}
    {firstBox secondBox thirdBox fourthBox : Box K}
    (examined : Examined site index index' first second firstBox secondBox)
    (also : Examined site other other' third fourth thirdBox fourthBox)
    (same : third.id = first.id) (same' : fourth.id = second.id) :
    third = first ∧ fourth = second ∧ thirdBox = firstBox ∧ fourthBox = secondBox := by
  obtain rfl := eq_of_id_eq distinct also.listed examined.listed same
  obtain rfl := eq_of_id_eq distinct also.listed' examined.listed' same'
  obtain rfl := Option.some.inj (also.listed.symm.trans examined.listed)
  obtain rfl := Option.some.inj (also.listed'.symm.trans examined.listed')
  exact ⟨rfl, rfl, Option.some.inj (also.boxed.symm.trans examined.boxed),
    Option.some.inj (also.boxed'.symm.trans examined.boxed')⟩

omit finds in
/-- The check of distances runs if there is a constraint on distances. -/
theorem missing_checkBy_eq_nil {rules : List (Rule K)} {needed : List ConstraintKind}
    (asked : .clearance ∈ needed) {entry : Entry K}
    (member : entry ∈ Catalog.entriesOf rules .clearance) :
    Session.missing (Catalog.build rules needed) (checkBy search) = [] := by
  refine List.filter_eq_nil_iff.mpr fun kind needs => ?_
  obtain rfl : kind = .clearance := List.mem_singleton.mp needs
  rw [Catalog.count_build, if_pos asked, beq_iff_eq, List.length_eq_zero_iff]
  exact List.ne_nil_of_mem member

omit finds in
theorem isAbout_breachOn {first second : Item K} {firstBox secondBox : Box K} {layer : LayerId}
    {entry : Entry K} {least : K} (named : site.check = "clearance")
    (kind : entry.constraint.kind = .clearance) :
    IsAbout first second (breachOn site first second firstBox secondBox layer entry least) :=
  ⟨named, kind, rfl⟩

omit finds in
/-- Of the standard checks only the one of distances finds violations that bear its name. -/
theorem check_eq_of_mem_foundOn {check : Check K} (standard : check ∈ Check.standardBy search)
    {rules : Rules K} {checks : List (Check K)} {settings : Settings} {design : Design K}
    {violation : Violation K}
    (found : violation ∈ check.foundOn (siteFor rules checks settings design check.name))
    (named : violation.check = "clearance") : check = checkBy search := by
  have other {inspect : Site K → Item K → Except RunError (Inspection K)} (name : String)
      (judges : Judges check inspect) (own : check.name = name) (differs : name ≠ "clearance") :
      check = checkBy search :=
    absurd (own.symm.trans ((check_of_mem_foundOn judges found).symm.trans named)) differs
  simp only [Check.standardBy, List.mem_cons, List.not_mem_nil, or_false] at standard
  rcases standard with rfl | rfl | rfl | rfl | rfl
  · rfl
  · exact other "track_width" .trackWidth rfl (by decide)
  · exact other "via_diameter" .viaDiameter rfl (by decide)
  · exact other "min_area" .minArea rfl (by decide)
  · exact other "disallow" .disallow rfl (by decide)

/-- **Which pairs a report is about.** On any document and design, with any standard checks in any
order, a report that has no limit and that nobody cancels has a violation for a pair that was looked
at if the first shared layer whose minimum the pair does not keep has a rule that is not ignored. If
the items have different identities, it has one only then. -/
theorem first_breach_decides_report (text : String) (design : Design K) (settings : Settings)
    (unlimited : settings.maxViolations = none) (checks : List (Check K))
    (standard : ∀ check ∈ checks, check ∈ Check.standardBy search)
    (registered : checkBy search ∈ checks) {index index' : Nat} {first second : Item K}
    {firstBox secondBox : Box K}
    (examined : Examined
      (siteFor (rulesOf (some text)) checks settings design "clearance") index index' first second
      firstBox secondBox) :
    ((∃ layer entry least,
        FirstBreach (siteFor (rulesOf (some text)) checks settings design "clearance") first second
          (firstBox.gap secondBox) (sharedLayers first second) layer entry least ∧
        entry.rule.severity ≠ .ignore) →
      ∃ violation ∈ ((fresh settings checks (some text)).run design).2.report.violations,
        IsAbout first second violation) ∧
    ((design.items.map Item.id).Nodup →
      (∃ violation ∈ ((fresh settings checks (some text)).run design).2.report.violations,
        IsAbout first second violation) →
      ∃ layer entry least,
        FirstBreach (siteFor (rulesOf (some text)) checks settings design "clearance") first second
          (firstBox.gap secondBox) (sharedLayers first second) layer entry least ∧
        entry.rule.severity ≠ .ignore) := by
  have tours : ∀ check ∈ checks, check.IsTour :=
    fun check member => isTour_of_mem_standardBy (standard check member)
  have needed : ConstraintKind.clearance ∈ checks.flatMap Check.needs :=
    List.mem_flatMap.mpr ⟨_, registered, List.mem_singleton_self _⟩
  have listed :
      (siteFor (rulesOf (some text)) checks settings design "clearance").catalog.entries .clearance =
        .ok (Catalog.entriesOf (rulesOf (some text)).rules .clearance) :=
    (Catalog.entries_build _ _ _).trans (if_pos needed)
  have reported := Session.mem_violations_fresh_run_iff unlimited tours (some text) design
  refine ⟨?_, ?_⟩
  · rintro ⟨layer, entry, least, breach, counts⟩
    obtain ⟨others, alsoListed, member⟩ := Catalog.mem_of_resolve breach.breaks.2.resolved
    obtain rfl := Except.ok.inj (listed.symm.trans alsoListed)
    have backed : Session.missing (Catalog.build (rulesOf (some text)).rules
        (checks.flatMap Check.needs)) (checkBy search) = [] :=
      missing_checkBy_eq_nil needed member
    have found : breachOn (siteFor (rulesOf (some text)) checks settings design "clearance") first
        second firstBox secondBox layer entry least ∈
          (checkBy search).foundOn
            (siteFor (rulesOf (some text)) checks settings design "clearance") :=
      (mem_foundOn_iff finds listed).mpr ⟨counts, index, index', first, second, firstBox,
        secondBox, examined, layer, entry, least, breach, rfl⟩
    refine ⟨_, (reported _).mpr ⟨checkBy search, registered, backed, found⟩, ?_⟩
    exact isAbout_breachOn rfl (Catalog.mem_entriesOf_iff.mp member).2.2.2
  · rintro distinct ⟨violation, member, about⟩
    obtain ⟨check, listed', -, found⟩ := (reported violation).mp member
    have own := check_eq_of_mem_foundOn (standard check listed') found about.check
    subst own
    obtain ⟨counts, index₀, index₁, first', second', firstBox', secondBox', examined', layer, entry,
      least, breach, rfl⟩ := (mem_foundOn_iff finds listed).mp found
    obtain ⟨firstId, secondId⟩ : first'.id = first.id ∧ second'.id = second.id := by
      simpa [breachOn, Site.violation] using about.items
    obtain ⟨rfl, rfl, rfl, rfl⟩ := examined.eq_of_ids distinct examined' firstId secondId
    exact ⟨layer, entry, least, breach, counts⟩

end Search

/-- A violation that is found for a pair is what it breaks on the first layer. -/
theorem exists_firstBreach_of_mem_pair (listed : site.catalog.entries .clearance = .ok entries)
    {first second : Item K} {firstBox secondBox : Box K} {layers : List LayerId}
    {found : Inspection K} {violation : Violation K}
    (paired : pair site first second firstBox secondBox layers = .ok found)
    (member : violation ∈ found.violations) :
    ∃ layer entry least,
      FirstBreach site first second (firstBox.gap secondBox) layers layer entry least ∧
        entry.rule.severity = violation.severity := by
  obtain ⟨found', paired', finds⟩ := pair_eq listed first second firstBox secondBox layers
  obtain rfl := Except.ok.inj (paired.symm.trans paired')
  obtain ⟨layer, entry, least, breach, rfl⟩ := (finds violation).mp member
  exact ⟨layer, entry, least, breach, rfl⟩

/-! ### Two vias -/

/-- A via from the layer with number zero to that with number two. -/
def through (number : Nat) (name : String) (x : Float) : Item Float :=
  { id := .numbered number, name, shape := .via ⟨0, 2, 1, ⟨x, 0.0⟩, 600000.0, 600000.0⟩ }

/-- One via. -/
def left : Item Float := through 0 "left" 0.0

/-- Another via, with a gap of four tenths of a millimetre to the first one. -/
def right : Item Float := through 1 "right" 1000000.0

/-- The box of the first via. -/
def leftBox : Box Float := ⟨⟨-300000.0, -300000.0⟩, ⟨300000.0, 300000.0⟩⟩

/-- The box of the second via. -/
def rightBox : Box Float := ⟨⟨700000.0, -300000.0⟩, ⟨1300000.0, 300000.0⟩⟩

/-- A design of the two vias. -/
def twoVias : Design Float :=
  { id := .nil
    name := "two vias"
    stack := ⟨[⟨0, "F.Cu", .conductor, ""⟩, ⟨1, "Via.Cut", .cut, ""⟩, ⟨2, "B.Cu", .conductor, ""⟩]⟩
    items := [left, right] }

/-- A rule for the front that the vias keep, and one for the back that they do not keep. -/
def loud : String :=
  "(rule front (layer F.Cu) (constraint clearance (min 0.1mm)))" ++
    "(rule back (layer B.Cu) (constraint clearance (min 1mm)))"

/-- A rule for the front that is ignored, and one for the back; the vias keep neither. -/
def quiet : String :=
  "(rule front (layer F.Cu) (severity ignore) (constraint clearance (min 1mm)))" ++
    "(rule back (layer B.Cu) (constraint clearance (min 1mm)))"

/-- The site of the check of distances on the two vias. -/
def viaSite (text : String) : Site Float :=
  siteFor (rulesOf (some text)) [checkBy Neighbours.near] {} twoVias "clearance"

/-- The pair is looked at under a document that asks for a millimetre. -/
theorem examined_two_vias {text : String}
    (reaches : reach? (viaSite text) = .ok (some 1000000.0)) :
    Examined (viaSite text) 0 1 left right leftBox rightBox where
  before := Nat.zero_lt_one
  listed := rfl
  listed' := rfl
  boxed := by decide +kernel
  boxed' := by decide +kernel
  apart := by decide
  near := ⟨1000000.0, reaches, by decide +kernel⟩

theorem first_breach_decides_report_of_two_vias :
    Examined (viaSite loud) 0 1 left right leftBox rightBox ∧
      ∃ violation ∈
          ((fresh {} [checkBy Neighbours.near] (some loud)).run twoVias).2.report.violations,
        IsAbout left right violation := by
  have examined : Examined (viaSite loud) 0 1 left right leftBox rightBox :=
    examined_two_vias (by decide +kernel)
  have counted :
      (pair (viaSite loud) left right leftBox rightBox (sharedLayers left right)).map
        (fun found => found.violations.map Violation.severity) = .ok [.error] := by decide +kernel
  have listed : (viaSite loud).catalog.entries .clearance =
      .ok (Catalog.entriesOf (rulesOf (some loud)).rules .clearance) :=
    (Catalog.entries_build _ _ _).trans (if_pos (by decide))
  have report := first_breach_decides_report (fun _ _ => .refl _) loud twoVias {} rfl
    [checkBy Neighbours.near] (List.forall_mem_singleton.mpr List.mem_cons_self)
    List.mem_cons_self examined
  refine ⟨examined, report.1 ?_⟩
  cases paired : pair (viaSite loud) left right leftBox rightBox (sharedLayers left right) with
  | error error =>
    rw [paired] at counted
    cases counted
  | ok found =>
    rw [paired] at counted
    have severities : found.violations.map Violation.severity = [.error] := Except.ok.inj counted
    obtain ⟨violation, member, severity⟩ : ∃ violation ∈ found.violations,
        violation.severity = .error :=
      List.mem_map.mp (severities ▸ List.mem_singleton_self _)
    obtain ⟨layer, entry, least, breach, same⟩ := exists_firstBreach_of_mem_pair listed paired member
    refine ⟨layer, entry, least, breach, ?_⟩
    rw [same, severity]
    decide

/-- **An ignored rule can hide a violation** of another rule on another layer. -/
theorem ignored_rule_can_hide_violation :
    ¬ ∀ (text : String) (design : Design Float) (index index' : Nat) (first second : Item Float)
      (firstBox secondBox : Box Float) (layer : LayerId) (entry : Entry Float) (least : Float),
      Examined (siteFor (rulesOf (some text)) [checkBy Neighbours.near] {} design "clearance") index
          index' first second firstBox secondBox →
        layer ∈ sharedLayers first second →
          Breaks (siteFor (rulesOf (some text)) [checkBy Neighbours.near] {} design "clearance") first
              second (firstBox.gap secondBox) layer entry least →
            entry.rule.severity ≠ .ignore →
              ∃ violation ∈
                  ((fresh {} [checkBy Neighbours.near] (some text)).run design).2.report.violations,
                IsAbout first second violation := by
  intro claim
  have silent :
      ((fresh {} [checkBy Neighbours.near] (some quiet)).run twoVias).2.report.violations = [] := by
    decide +kernel
  have examined : Examined (viaSite quiet) 0 1 left right leftBox rightBox :=
    examined_two_vias (by decide +kernel)
  have counts :
      ((viaSite quiet).resolve .clearance left (some right) (some 2)).map
        (fun found => found.map fun entry => (entry.constraint.min?, entry.rule.severity)) =
          .ok (some (some 1000000.0, .error)) := by decide +kernel
  cases resolved : (viaSite quiet).resolve .clearance left (some right) (some 2) with
  | error error =>
    rw [resolved] at counts
    cases counts
  | ok answer =>
    cases answer with
    | none =>
      rw [resolved] at counts
      cases counts
    | some entry =>
      rw [resolved] at counts
      obtain ⟨minimum, severity⟩ : entry.constraint.min? = some 1000000.0 ∧
          entry.rule.severity = .error :=
        Prod.mk.inj (Option.some.inj (Except.ok.inj counts))
      obtain ⟨violation, member, -⟩ := claim quiet twoVias 0 1 left right leftBox rightBox 2 entry
        1000000.0 examined (by decide) ⟨resolved, minimum, by decide +kernel⟩
        (by rw [severity]; decide)
      rw [silent] at member
      exact List.not_mem_nil member

end Clearance

end DesignRules

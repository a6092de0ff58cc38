/-
**Checks that judge each item alone.**

All checks but the one of distances ask, for one item after the other, for the constraint that
counts for it, and compare the item with it. What stands before the item or after it has no
influence. A track or a via is reported if it is out of bounds; an area is reported unless it
reaches the minimum, so an area that is no number is reported too.

* `Entry.IsBrokenBy`, `Entry.CannotTell`: the items that break a constraint, and those of which it
  cannot be told.
* `Site.verdict?`, `Judges.foundOn_eq_filterMap`: what a check says about an item, and what it
  records.
* `Site.exists_violationOf?_iff`: the items that are reported.
* `violations_of_judges`: the report of a run.
* `Session.items_are_judged_alone`: runs on items that are put together, and on single items.
* `Session.unbroken_item_can_be_reported`: an area that is no number.
-/

import DesignRules.Proofs.Rule.Consistency
import DesignRules.Proofs.Session.Account

namespace DesignRules

open Disallow (onlyLayer?)
open Session (fresh siteFor)

/-! ### Measures and what breaks a constraint -/

section Items

variable {K : Type} [Scalar K]

/-- What the constraints of a kind limit of a shape: the width of a track, the size of a via, the
area of a rectangle or a polygon. -/
def ConstraintKind.measure? (kind : ConstraintKind) (shape : Shape K) : Option K :=
  match kind, shape with
  | .trackWidth, .path track => some track.width
  | .viaDiameter, .via via => some via.size
  | .minArea, .rectangle rectangle => some rectangle.area
  | .minArea, .polygon polygon => some polygon.area
  | _, _ => none

/-- Whether an item breaks a constraint: its measure is below the minimum, or above the maximum
where one counts, or items of its kind are forbidden. -/
inductive Entry.IsBrokenBy (entry : Entry K) (kind : ConstraintKind) (item : Item K) : Prop where
  | below {measure least : K} :
      kind.measure? item.shape = some measure → entry.constraint.min? = some least →
      measure < least → IsBrokenBy entry kind item
  | above {measure most : K} :
      kind ≠ .minArea → kind.measure? item.shape = some measure →
      entry.constraint.max? = some most → most < measure → IsBrokenBy entry kind item
  | forbidden :
      kind = .disallow → entry.constraint.categories.contains item.kind.keyword = true →
      IsBrokenBy entry kind item

/-- Whether the area of an item cannot be told, where it has a minimum. -/
inductive Entry.CannotTell (entry : Entry K) (kind : ConstraintKind) (item : Item K) : Prop where
  | area {measure least : K} :
      kind = .minArea → kind.measure? item.shape = some measure →
      entry.constraint.min? = some least → Scalar.isNaN measure = true → CannotTell entry kind item

/-- What a check of constraints of a kind says about an item, whatever else the design has: a
violation of the constraint that counts for it on its only layer, if it has only one. -/
def Site.verdict? (site : Site K) (kind : ConstraintKind) (item : Item K) :
    Option (Violation K) :=
  match site.resolve kind item none (onlyLayer? item.layers) with
  | .ok (some entry) =>
    (site.violationOf? kind item entry).filter fun violation => violation.severity ≠ .ignore
  | _ => none

variable {check : Check K} {inspect : Site K → Item K → Except RunError (Inspection K)}
  (judges : Judges check inspect) {kind : ConstraintKind} (needed : check.needs = [kind])

include judges needed

/-- **What a check finds at an item** is what the constraint says that counts for it. -/
theorem Judges.exists_inspect {site : Site K} {item : Item K} {answer : Option (Entry K)}
    (resolved : site.resolve kind item none (onlyLayer? item.layers) = .ok answer) :
    ∃ found, inspect site item = .ok found ∧
      found.violations = (answer.bind (site.violationOf? kind item)).toList := by
  rcases judges.inspect_eq needed site item with ⟨passed, silent⟩ | judged
  · refine ⟨{}, passed, ?_⟩
    rw [silent]
    cases answer <;> rfl
  · rw [judged, resolved]
    exact ⟨_, rfl, rfl⟩

/-- What counts of it is the verdict on the item. -/
theorem Judges.exists_verdict {site : Site K} {item : Item K} {answer : Option (Entry K)}
    (resolved : site.resolve kind item none (onlyLayer? item.layers) = .ok answer) :
    ∃ found, inspect site item = .ok found ∧
      counted found.violations = (site.verdict? kind item).toList := by
  obtain ⟨found, inspected, violations⟩ := judges.exists_inspect needed resolved
  refine ⟨found, inspected, ?_⟩
  have said : site.verdict? kind item = answer.bind fun entry =>
      (site.violationOf? kind item entry).filter fun violation => violation.severity ≠ .ignore := by
    rw [Site.verdict?, resolved]
    cases answer <;> rfl
  rw [violations, said, counted]
  cases answer with
  | none => rfl
  | some entry => exact (Option.toList_filter ..).symm

/-- **Such a check records the verdicts on the items.** -/
theorem Judges.foundOn_eq_filterMap {site : Site K}
    (answers : ∀ item, ∃ answer,
      site.resolve kind item none (onlyLayer? item.layers) = .ok answer) :
    check.foundOn site = site.design.items.filterMap (site.verdict? kind) := by
  have recorded (items : List (Item K)) (index : Nat) :
      counted (foundFrom (fun _ item => inspect site item) index items) =
        items.filterMap (site.verdict? kind) := by
    induction items generalizing index with
    | nil => rfl
    | cons item rest ih =>
      obtain ⟨answer, resolved⟩ := answers item
      obtain ⟨found, inspected, verdict⟩ := judges.exists_verdict needed resolved
      rw [foundFrom, inspected, counted_append, verdict, ih]
      cases said : site.verdict? kind item <;> simp [said]
  rw [judges.foundOn_eq, recorded]

end Items

/-! ### Which items are reported -/

section Measured

variable {K : Type} [Scalar K] {kind : ConstraintKind} {entry : Entry K} {item : Item K}

/-- **What breaks a bound** is below its minimum or above its maximum. -/
theorem exists_breach?_iff {bound : Bound K} {measure : K} :
    (∃ breach, bound.breach? measure = some breach) ↔
      (∃ least, bound.min = some least ∧ measure < least) ∨
        ∃ most, bound.max = some most ∧ most < measure := by
  unfold Bound.breach?
  cases low : bound.min.filter fun least => measure < least with
  | some least =>
    obtain ⟨minimum, below⟩ := Option.filter_eq_some_iff.mp low
    exact iff_of_true ⟨_, rfl⟩ (.inl ⟨least, minimum, of_decide_eq_true below⟩)
  | none =>
    have reached : ¬ ∃ least, bound.min = some least ∧ measure < least := by
      rintro ⟨least, minimum, below⟩
      exact Option.filter_eq_none_iff.mp low least minimum (decide_eq_true below)
    rw [or_iff_right reached]
    simp [Option.map_eq_some_iff, Option.filter_eq_some_iff]

/-- The violations of a constraint with a bound. -/
theorem exists_bounded_iff {measure : K} (violation : Breach K → Violation K) :
    (∃ found, (do
        let bound ← entry.constraint.bound?
        let breach ← bound.breach? measure
        return violation breach) = some found) ↔
      (∃ least, entry.constraint.min? = some least ∧ measure < least) ∨
        ∃ most, entry.constraint.max? = some most ∧ most < measure := by
  unfold Constraint.min? Constraint.max?
  cases entry.constraint.bound? with
  | none => simp
  | some bound =>
    refine Iff.trans ?_ exists_breach?_iff
    show (∃ found, ((bound.breach? measure).bind fun breach => some (violation breach)) =
      some found) ↔ _
    cases bound.breach? measure with
    | none => simp
    | some breach => exact iff_of_true ⟨_, rfl⟩ ⟨_, rfl⟩

/-- The violations of a constraint with a minimum of areas. -/
theorem MinArea.exists_violation?_iff {site : Site K} {layer : LayerId} {area : K} :
    (∃ found, violation? site item layer area entry = some found) ↔
      ∃ least, entry.constraint.min? = some least ∧ ¬ least ≤ area := by
  unfold violation?
  cases entry.constraint.min? with
  | none => simp
  | some least =>
    by_cases reached : least ≤ area
    · simp [reached]
    · simp [reached]

namespace Entry

theorem isBrokenBy_iff {measure : K} (measured : kind.measure? item.shape = some measure) :
    entry.IsBrokenBy kind item ↔
      (∃ least, entry.constraint.min? = some least ∧ measure < least) ∨
        kind ≠ .minArea ∧ ∃ most, entry.constraint.max? = some most ∧ most < measure := by
  constructor
  · rintro (⟨same, minimum, below⟩ | ⟨other, same, maximum, above⟩ | ⟨rfl, -⟩)
    · obtain rfl := Option.some.inj (measured.symm.trans same)
      exact .inl ⟨_, minimum, below⟩
    · obtain rfl := Option.some.inj (measured.symm.trans same)
      exact .inr ⟨other, _, maximum, above⟩
    · cases measured
  · rintro (⟨least, minimum, below⟩ | ⟨other, most, maximum, above⟩)
    · exact .below measured minimum below
    · exact .above other measured maximum above

theorem isBrokenBy_disallow_iff :
    entry.IsBrokenBy .disallow item ↔
      entry.constraint.categories.contains item.kind.keyword = true := by
  constructor
  · rintro (⟨same, -, -⟩ | ⟨-, same, -, -⟩ | ⟨-, listed⟩)
    · cases same
    · cases same
    · exact listed
  · exact .forbidden rfl

theorem not_isBrokenBy (unmeasured : kind.measure? item.shape = none) (other : kind ≠ .disallow) :
    ¬ entry.IsBrokenBy kind item := by
  rintro (⟨same, -, -⟩ | ⟨-, same, -, -⟩ | ⟨forbids, -⟩)
  · cases unmeasured.symm.trans same
  · cases unmeasured.symm.trans same
  · exact other forbids

end Entry

/-- Nothing is said about items of which nothing is measured. -/
theorem Site.violationOf?_eq_none {site : Site K} (unmeasured : kind.measure? item.shape = none)
    (other : kind ≠ .disallow) : site.violationOf? kind item entry = none := by
  obtain ⟨id, name, net, netClass, shape⟩ := item
  cases kind with
  | clearance => rfl
  | disallow => exact absurd rfl other
  | trackWidth => cases shape <;> first | rfl | cases unmeasured
  | viaDiameter => cases shape <;> first | rfl | cases unmeasured
  | minArea => cases shape <;> first | rfl | cases unmeasured

/-- What is said about an item that is measured. -/
theorem Site.exists_violationOf?_iff_of_measure {site : Site K} {measure : K}
    (measured : kind.measure? item.shape = some measure) :
    (∃ violation, site.violationOf? kind item entry = some violation) ↔
      if kind = .minArea then ∃ least, entry.constraint.min? = some least ∧ ¬ least ≤ measure
      else (∃ least, entry.constraint.min? = some least ∧ measure < least) ∨
        ∃ most, entry.constraint.max? = some most ∧ most < measure := by
  obtain ⟨id, name, net, netClass, shape⟩ := item
  cases kind with
  | clearance => cases measured
  | disallow => cases measured
  | trackWidth =>
    cases shape with
    | path track =>
      cases measured
      exact exists_bounded_iff _
    | _ => cases measured
  | viaDiameter =>
    cases shape with
    | via via =>
      cases measured
      exact exists_bounded_iff _
    | _ => cases measured
  | minArea =>
    cases shape with
    | rectangle rectangle =>
      cases measured
      exact MinArea.exists_violation?_iff
    | polygon polygon =>
      cases measured
      exact MinArea.exists_violation?_iff
    | _ => cases measured

end Measured

/-! ### Areas that are no numbers -/

section Reported

variable {kind : ConstraintKind} {entry : Entry Float} {item : Item Float} {site : Site Float}

theorem Entry.not_cannotTell (other : kind ≠ .minArea) : ¬ entry.CannotTell kind item :=
  fun ⟨areas, _, _, _⟩ => other areas

/-- **What a check says about an item**, where minima are numbers: that it breaks its constraint, or
that its area cannot be told. -/
theorem Site.exists_violationOf?_iff
    (numbers : ∀ least, entry.constraint.min? = some least → Scalar.isNaN least = false) :
    (∃ violation, site.violationOf? kind item entry = some violation) ↔
      entry.IsBrokenBy kind item ∨ entry.CannotTell kind item := by
  cases measured : kind.measure? item.shape with
  | none =>
    by_cases forbids : kind = .disallow
    · subst forbids
      rw [Entry.isBrokenBy_disallow_iff, or_iff_left (Entry.not_cannotTell (by decide))]
      show (∃ violation, Disallow.violation? site item _ entry = some violation) ↔ _
      unfold Disallow.violation?
      by_cases listed : entry.constraint.categories.contains item.kind.keyword = true
      · rw [if_pos listed]
        exact iff_of_true ⟨_, rfl⟩ listed
      · rw [if_neg listed]
        exact iff_of_false (fun ⟨_, said⟩ => nomatch said) listed
    · refine iff_of_false ?_ ?_
      · rw [site.violationOf?_eq_none measured forbids]
        exact fun ⟨_, said⟩ => nomatch said
      · rintro (broken | ⟨-, same, -, -⟩)
        · exact Entry.not_isBrokenBy measured forbids broken
        · cases measured.symm.trans same
  | some measure =>
    rw [site.exists_violationOf?_iff_of_measure measured, Entry.isBrokenBy_iff measured]
    by_cases areas : kind = .minArea
    · subst areas
      rw [if_pos rfl]
      constructor
      · rintro ⟨least, minimum, exceeds⟩
        exact ((Decimal.not_le_iff (numbers least minimum)).mp exceeds).imp
          (fun below => .inl ⟨least, minimum, below⟩) (.area rfl measured minimum)
      · rintro ((⟨least, minimum, below⟩ | ⟨other, -⟩) | ⟨-, same, minimum, missing⟩)
        · exact ⟨least, minimum, (Decimal.not_le_iff (numbers least minimum)).mpr (.inl below)⟩
        · exact absurd rfl other
        · obtain rfl := Option.some.inj (measured.symm.trans same)
          exact ⟨_, minimum, (Decimal.not_le_iff (numbers _ minimum)).mpr (.inr missing)⟩
    · rw [if_neg areas, or_iff_left (Entry.not_cannotTell areas), and_iff_right areas]

end Reported

/-! ### Runs -/

section Runs

variable {K : Type} [Scalar K] {kind : ConstraintKind} {check : Check K}

theorem Site.verdict?_eq_some_iff {site : Site K} {item : Item K} {violation : Violation K} :
    site.verdict? kind item = some violation ↔
      ∃ entry, site.resolve kind item none (onlyLayer? item.layers) = .ok (some entry) ∧
        entry.rule.severity ≠ .ignore ∧ site.violationOf? kind item entry = some violation := by
  unfold verdict?
  split
  next entry resolved =>
    rw [Option.filter_eq_some_iff, decide_eq_true_eq]
    have severity (said : site.violationOf? kind item entry = some violation) :
        violation.severity = entry.rule.severity := by
      obtain ⟨message, layer, box, rfl⟩ := site.violationOf?_eq_some said
      rfl
    constructor
    · rintro ⟨said, counts⟩
      exact ⟨entry, resolved, severity said ▸ counts, said⟩
    · rintro ⟨other, same, counts, said⟩
      obtain rfl := Option.some.inj (Except.ok.inj (resolved.symm.trans same))
      exact ⟨said, severity said ▸ counts⟩
  next unanswered =>
    refine iff_of_false (fun said => nomatch said) ?_
    rintro ⟨entry, resolved, -⟩
    exact unanswered entry resolved

/-- A check is answered about a kind that it needs, if only with nothing. -/
theorem resolve_siteFor (needed : kind ∈ check.needs) (rules : Rules K) (settings : Settings)
    (design : Design K) (name : String) (first : Item K) (second : Option (Item K))
    (layer : Option LayerId) :
    (siteFor rules [check] settings design name).resolve kind first second layer =
      .ok ((Catalog.entriesOf rules.rules kind).find? fun entry =>
        entry.applies ⟨some first, second, layer, design.stack⟩) := by
  have asked : kind ∈ [check].flatMap Check.needs :=
    List.mem_flatMap.mpr ⟨check, List.mem_singleton_self check, needed⟩
  unfold Site.resolve Catalog.resolve
  show Except.map _ (Catalog.entries (Catalog.build rules.rules _) kind) = _
  rw [Catalog.entries_build, if_pos asked]
  rfl

variable {inspect : Site K → Item K → Except RunError (Inspection K)}

/-- **The report of a check that judges each item alone** lists the verdicts on the items. -/
theorem violations_of_judges (judges : Judges check inspect) (needed : check.needs = [kind])
    {settings : Settings} (unlimited : settings.maxViolations = none) (document? : Option String)
    (design : Design K) :
    ((fresh settings [check] document?).run design).2.report.violations =
      design.items.filterMap
        ((siteFor (rulesOf document?) [check] settings design check.name).verdict? kind) := by
  have asked : kind ∈ check.needs := needed ▸ List.mem_singleton_self kind
  have tour : ∀ other ∈ [check], other.IsTour := List.forall_mem_singleton.mpr judges.isTour
  rw [Session.violations_fresh_run unlimited tour, List.flatMap_singleton]
  split
  next backed =>
    exact judges.foundOn_eq_filterMap needed fun item =>
      ⟨_, resolve_siteFor asked _ _ _ _ item none _⟩
  next lacking =>
    obtain ⟨other, needs, none⟩ :=
      (Session.missing_build_ne_nil_iff (List.mem_singleton_self check)).mp lacking
    rw [needed] at needs
    obtain rfl := List.mem_singleton.mp needs
    refine (List.filterMap_eq_nil_iff.mpr fun item _ => ?_).symm
    rw [Site.verdict?, resolve_siteFor asked, none]
    rfl

end Runs

namespace Session

/-- What a check reports alone on some items, with the layers of a design. -/
def reportedOn (settings : Settings) (check : Check Float) (document? : Option String)
    (design : Design Float) (items : List (Item Float)) : List (Violation Float) :=
  ((fresh settings [check] document?).run { design with items }).2.report.violations

/-- The constraints that count have minima that are numbers. -/
theorem number_of_resolve_siteFor {kind : ConstraintKind} {check : Check Float}
    (needed : kind ∈ check.needs) {document? : Option String} {settings : Settings}
    {design : Design Float} {name : String} {item : Item Float} {layer : Option LayerId}
    {entry : Entry Float}
    (resolved : (siteFor (rulesOf document?) [check] settings design name).resolve kind item none
      layer = .ok (some entry)) {least : Float} (minimum : entry.constraint.min? = some least) :
    Scalar.isNaN least = false := by
  rw [resolve_siteFor needed] at resolved
  have counted := List.mem_of_find?_eq_some (Except.ok.inj resolved)
  cases document? with
  | none => cases counted
  | some text => exact Rules.number_of_mem_entriesOf counted minimum

theorem exists_judges {check : Check Float}
    (single : check ∈ [TrackWidth.check, ViaDiameter.check, MinArea.check, Disallow.check]) :
    ∃ inspect, Judges check inspect := by
  simp only [List.mem_cons, List.not_mem_nil, or_false] at single
  rcases single with rfl | rfl | rfl | rfl
  · exact ⟨_, .trackWidth⟩
  · exact ⟨_, .viaDiameter⟩
  · exact ⟨_, .minArea⟩
  · exact ⟨_, .disallow⟩

/-- **Each item is judged alone.** Let one of the checks of single items be registered, and let its
run be unlimited and not cancelled. The report on items that are put together is the reports on the
parts together: each item has at most one violation, whatever stands beside it. It has one exactly
if a constraint counts for it, on its own layer if it has only one, whose rule is not ignored and
which it breaks; or if this constraint has a minimum and the area of the item is no number. -/
theorem items_are_judged_alone (settings : Settings) (unlimited : settings.maxViolations = none)
    (check : Check Float)
    (single : check ∈ [TrackWidth.check, ViaDiameter.check, MinArea.check, Disallow.check])
    (kind : ConstraintKind) (needed : check.needs = [kind]) (document? : Option String)
    (design : Design Float) :
    let report := reportedOn settings check document? design
    let site := siteFor (rulesOf document?) [check] settings design check.name
    (∀ front back, report (front ++ back) = report front ++ report back) ∧
      ∃ verdict : Item Float → Option (Violation Float),
        (∀ items, report items = items.filterMap verdict) ∧
        (∀ item, (∃ violation, verdict item = some violation) ↔
          ∃ entry, site.resolve kind item none (onlyLayer? item.layers) = .ok (some entry) ∧
            entry.rule.severity ≠ .ignore ∧
            (entry.IsBrokenBy kind item ∨ entry.CannotTell kind item)) ∧
        ∀ item violation, verdict item = some violation →
          ∃ entry message layer box,
            site.resolve kind item none (onlyLayer? item.layers) = .ok (some entry) ∧
              violation = site.violation entry message layer box [item.id] := by
  intro report site
  have asked : kind ∈ check.needs := needed ▸ List.mem_singleton_self kind
  obtain ⟨inspect, judges⟩ := exists_judges single
  have all (items : List (Item Float)) : report items = items.filterMap (site.verdict? kind) :=
    violations_of_judges judges needed unlimited document? { design with items }
  have breaks {item : Item Float} {entry : Entry Float}
      (resolved : site.resolve kind item none (onlyLayer? item.layers) = .ok (some entry)) :
      (∃ violation, site.violationOf? kind item entry = some violation) ↔
        entry.IsBrokenBy kind item ∨ entry.CannotTell kind item :=
    Site.exists_violationOf?_iff fun _ => number_of_resolve_siteFor asked resolved
  refine ⟨fun front back => ?_, site.verdict? kind, all, fun item => ?_,
    fun item violation said => ?_⟩
  · rw [all, all, all, List.filterMap_append]
  · simp only [site.verdict?_eq_some_iff]
    constructor
    · rintro ⟨violation, entry, resolved, counts, said⟩
      exact ⟨entry, resolved, counts, (breaks resolved).mp ⟨violation, said⟩⟩
    · rintro ⟨entry, resolved, counts, broken⟩
      obtain ⟨violation, said⟩ := (breaks resolved).mpr broken
      exact ⟨violation, entry, resolved, counts, said⟩
  · obtain ⟨entry, resolved, -, said⟩ := site.verdict?_eq_some_iff.mp said
    obtain ⟨message, layer, box, rfl⟩ := site.violationOf?_eq_some said
    exact ⟨entry, message, layer, box, resolved, rfl⟩

/-- A design with a front layer and no items. -/
def frontOnly : Design Float :=
  { id := .nil, name := "front", stack := ⟨[⟨0, "F.Cu", .conductor, ""⟩]⟩, items := [] }

/-- A track of a millimetre on the front. -/
def trackOfWidth (width : Float) : Item Float :=
  { id := .nil, shape := .path ⟨0, [⟨0.0, 0.0⟩, ⟨1000000.0, 0.0⟩], width⟩ }

/-- A rule about tracks. -/
def atLeastThin : String := "(rule thin (constraint track_width (min 0.2mm)))"

/-- Only the first of the tracks is reported, whatever stands beside it. -/
theorem items_are_judged_alone_of_two_tracks :
    let report := reportedOn {} TrackWidth.check (some atLeastThin) frontOnly
    let site := siteFor (rulesOf (some atLeastThin)) [TrackWidth.check] {} frontOnly "track_width"
    report [trackOfWidth 100000.0, trackOfWidth 300000.0] =
        report [trackOfWidth 100000.0] ++ report [trackOfWidth 300000.0] ∧
      ∃ entry, site.resolve .trackWidth (trackOfWidth 100000.0) none (some 0) = .ok (some entry) ∧
        entry.IsBrokenBy .trackWidth (trackOfWidth 100000.0) := by
  intro report site
  obtain ⟨appends, verdict, lists, judged, -⟩ :=
    items_are_judged_alone {} rfl TrackWidth.check List.mem_cons_self .trackWidth rfl
      (some atLeastThin) frontOnly
  refine ⟨appends [trackOfWidth 100000.0] [trackOfWidth 300000.0], ?_⟩
  have reported : (reportedOn {} TrackWidth.check (some atLeastThin) frontOnly
      [trackOfWidth 100000.0]).length = 1 := by decide +kernel
  cases said : verdict (trackOfWidth 100000.0) with
  | none =>
    rw [lists, List.filterMap_cons_none said] at reported
    cases reported
  | some violation =>
    obtain ⟨entry, resolved, -, broken⟩ := (judged (trackOfWidth 100000.0)).mp ⟨violation, said⟩
    exact ⟨entry, resolved, broken.resolve_right (Entry.not_cannotTell (by decide))⟩

/-- A rectangle whose width is more than the greatest number, and which has no height. -/
def endlessStrip : Item Float :=
  { id := .nil, shape := .rectangle ⟨0, ⟨-1e308, 0.0⟩, ⟨1e308, 0.0⟩⟩ }

/-- **An item that breaks nothing can be reported**: the area of the strip is no number, and none
that is below the minimum. -/
theorem unbroken_item_can_be_reported :
    ¬ ∀ (document : String) (design : Design Float) (item : Item Float),
      reportedOn {} MinArea.check (some document) design [item] ≠ [] →
        ∃ entry, (siteFor (rulesOf (some document)) [MinArea.check] {} design "min_area").resolve
            .minArea item none (onlyLayer? item.layers) = .ok (some entry) ∧
          entry.IsBrokenBy .minArea item := by
  intro claim
  have reported : (reportedOn {} MinArea.check (some "(rule r (constraint min_area (min 1mm)))")
      frontOnly [endlessStrip]).length = 1 := by decide +kernel
  obtain ⟨entry, -, broken⟩ := claim _ frontOnly endlessStrip fun none => by
    rw [none] at reported
    cases reported
  have unknown : Scalar.isNaN (Rectangle.area ⟨0, ⟨-1e308, 0.0⟩, ⟨1e308, 0.0⟩⟩ : Float) = true := by
    decide +kernel
  rcases (Entry.isBrokenBy_iff rfl).mp broken with ⟨least, -, below⟩ | ⟨other, -⟩
  · rw [(Decimal.numbers_of_lt below).1] at unknown
    cases unknown
  · exact other rfl

end Session

end DesignRules

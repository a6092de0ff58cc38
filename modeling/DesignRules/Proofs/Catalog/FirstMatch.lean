/-
**The first constraint that applies counts.**

The constraints of a list of rules are ordered by their places: first by the position of the rule,
then by the position inside the rule. A search finds the first place whose constraint answers.

* `Place`, `entryAt?`: places and what is declared there.
* `placed`: the entries of a kind with their places, in the order of the places.
* `IsFirst`, `firstPlace?_eq_some_iff`: the first place that answers, and that the search finds it.
* `SameGate`: rules that differ only in what has no influence on the search.
* `resolve_build_first`: what a catalog answers.
-/

import DesignRules.Decimal.Scalar
import DesignRules.Proofs.Catalog.Entries
import Mathlib.Data.List.Forall2

namespace DesignRules

open Condition (Context)

/-! ### Places -/

/-- Where a constraint is declared. -/
structure Place where
  rule : Nat
  inside : Nat
  deriving DecidableEq, Repr

namespace Place

/-- Whether a place comes before another one. -/
def Before (place other : Place) : Prop :=
  place.rule < other.rule ∨ place.rule = other.rule ∧ place.inside < other.inside

theorem before_irrefl (place : Place) : ¬ place.Before place := by
  unfold Before
  omega

theorem Before.asymm {place other : Place} (before : place.Before other) :
    ¬ other.Before place := by
  unfold Before at *
  omega

end Place

variable {K : Type}

/-- The constraint at a place, with its rule. -/
def entryAt? (rules : List (Rule K)) (place : Place) : Option (Entry K) :=
  rules[place.rule]?.bind fun rule =>
    rule.constraints[place.inside]?.map fun constraint => ⟨rule, constraint⟩

theorem entryAt?_eq_some_iff {rules : List (Rule K)} {place : Place} {entry : Entry K} :
    entryAt? rules place = some entry ↔
      rules[place.rule]? = some entry.rule ∧
        entry.rule.constraints[place.inside]? = some entry.constraint := by
  obtain ⟨rule, constraint⟩ := entry
  simp only [entryAt?, Option.bind_eq_some_iff, Option.map_eq_some_iff, Entry.mk.injEq]
  constructor
  · rintro ⟨_, found, _, declared, rfl, rfl⟩
    exact ⟨found, declared⟩
  · rintro ⟨found, declared⟩
    exact ⟨rule, found, constraint, declared, rfl, rfl⟩

/-! ### The entries of a kind by place -/

/-- The constraints of a kind in a rule, with their places for a position of the rule. -/
def placedIn (kind : ConstraintKind) (rule : Rule K) (position : Nat) : List (Place × Entry K) :=
  (rule.constraints.zipIdx.filter fun declared => declared.1.kind == kind).map fun declared =>
    (⟨position, declared.2⟩, ⟨rule, declared.1⟩)

/-- The constraints of a kind in enabled rules, with their places. -/
def placed (rules : List (Rule K)) (kind : ConstraintKind) : List (Place × Entry K) :=
  (rules.zipIdx.filter fun listed => listed.1.enabled).flatMap fun listed =>
    placedIn kind listed.1 listed.2

theorem mem_placedIn_iff {kind : ConstraintKind} {rule : Rule K} {position : Nat} {place : Place}
    {entry : Entry K} :
    (place, entry) ∈ placedIn kind rule position ↔
      place.rule = position ∧ entry.rule = rule ∧
        rule.constraints[place.inside]? = some entry.constraint ∧ entry.constraint.kind = kind := by
  obtain ⟨number, inside⟩ := place
  obtain ⟨owner, constraint⟩ := entry
  simp only [placedIn, List.mem_map, List.mem_filter, List.mem_zipIdx_iff_getElem?, beq_iff_eq,
    Prod.mk.injEq, Place.mk.injEq, Entry.mk.injEq, Prod.exists]
  constructor
  · rintro ⟨_, _, ⟨declared, same⟩, ⟨rfl, rfl⟩, rfl, rfl⟩
    exact ⟨rfl, rfl, declared, same⟩
  · rintro ⟨rfl, rfl, declared, same⟩
    exact ⟨constraint, inside, ⟨declared, same⟩, ⟨rfl, rfl⟩, rfl, rfl⟩

theorem mem_placed_iff {rules : List (Rule K)} {kind : ConstraintKind} {place : Place}
    {entry : Entry K} :
    (place, entry) ∈ placed rules kind ↔
      entryAt? rules place = some entry ∧ entry.rule.enabled = true ∧
        entry.constraint.kind = kind := by
  simp only [placed, List.mem_flatMap, List.mem_filter, List.mem_zipIdx_iff_getElem?,
    mem_placedIn_iff, entryAt?_eq_some_iff, Prod.exists]
  constructor
  · rintro ⟨_, _, ⟨listed, enabled⟩, rfl, rfl, declared, same⟩
    exact ⟨⟨listed, declared⟩, enabled, same⟩
  · rintro ⟨⟨listed, declared⟩, enabled, same⟩
    exact ⟨entry.rule, place.rule, ⟨listed, enabled⟩, rfl, rfl, declared, same⟩

/-- The positions of a list increase along it. -/
theorem pairwise_zipIdx {α : Type} (list : List α) :
    list.zipIdx.Pairwise fun first second => first.2 < second.2 := by
  have positions : (list.zipIdx.map Prod.snd).Pairwise (· < ·) := by
    rw [List.zipIdx_map_snd]
    exact List.pairwise_lt_range'
  exact List.pairwise_map.mp positions

/-- **The entries of a kind are listed in the order of their places.** -/
theorem pairwise_placed (rules : List (Rule K)) (kind : ConstraintKind) :
    (placed rules kind).Pairwise fun first second => first.1.Before second.1 := by
  rw [placed, List.pairwise_flatMap]
  constructor
  · rintro ⟨rule, position⟩ -
    rw [placedIn, List.pairwise_map]
    exact ((pairwise_zipIdx _).filter _).imp fun later => .inr ⟨rfl, later⟩
  · refine ((pairwise_zipIdx rules).filter _).imp ?_
    rintro ⟨rule, position⟩ ⟨other, further⟩ later ⟨place, entry⟩ member ⟨place', entry'⟩ member'
    obtain ⟨rfl, -⟩ := mem_placedIn_iff.mp member
    obtain ⟨rfl, -⟩ := mem_placedIn_iff.mp member'
    exact .inl later

/-- What has a place in the list of a kind is what a catalog lists for it. -/
theorem map_snd_placed (rules : List (Rule K)) (kind : ConstraintKind) :
    (placed rules kind).map Prod.snd = Catalog.entriesOf rules kind := by
  have inside (rule : Rule K) (position : Nat) : (placedIn kind rule position).map Prod.snd =
      (rule.constraintsOf kind).map fun constraint => ⟨rule, constraint⟩ := by
    rw [placedIn, List.map_map, Rule.constraintsOf]
    conv_rhs => rw [← List.zipIdx_map_fst 0 rule.constraints, List.filter_map, List.map_map]
    rfl
  rw [placed, List.map_flatMap]
  simp only [inside]
  rw [Catalog.entriesOf]
  conv_rhs => rw [← List.zipIdx_map_fst 0 rules, List.filter_map, List.flatMap_map]
  rfl

/-! ### The first place that answers -/

section Search

variable [Scalar K]

/-- Whether an entry answers for a kind: its rule is enabled, admits the layer and has no condition
that fails. -/
structure Entry.Answers (kind : ConstraintKind) (context : Context K) (entry : Entry K) : Prop where
  enabled : entry.rule.enabled = true
  same : entry.constraint.kind = kind
  layer : entry.rule.admitsLayer context.stack context.layer = true
  condition : ∀ code, entry.rule.condition = some code → code.holds context = true

/-- Whether the constraint at a place answers for a kind. -/
def AnswersAt (rules : List (Rule K)) (kind : ConstraintKind) (context : Context K)
    (place : Place) : Prop :=
  ∃ entry, entryAt? rules place = some entry ∧ entry.Answers kind context

/-- Whether a place is the first one that answers. -/
structure IsFirst (rules : List (Rule K)) (kind : ConstraintKind) (context : Context K)
    (place : Place) : Prop where
  answers : AnswersAt rules kind context place
  least : ∀ other, AnswersAt rules kind context other → ¬ other.Before place

theorem applies_iff {entry : Entry K} {context : Context K} :
    entry.applies context = true ↔
      entry.rule.admitsLayer context.stack context.layer = true ∧
        ∀ code, entry.rule.condition = some code → code.holds context = true := by
  rw [Entry.applies, Bool.and_eq_true, Option.all_eq_true]

/-- The listed entries that apply are the ones that answer. -/
theorem answersAt_iff {rules : List (Rule K)} {kind : ConstraintKind} {context : Context K}
    {place : Place} :
    AnswersAt rules kind context place ↔
      ∃ entry, (place, entry) ∈ placed rules kind ∧ entry.applies context = true := by
  constructor
  · rintro ⟨entry, found, enabled, same, layer, condition⟩
    exact ⟨entry, mem_placed_iff.mpr ⟨found, enabled, same⟩, applies_iff.mpr ⟨layer, condition⟩⟩
  · rintro ⟨entry, member, applies⟩
    obtain ⟨found, enabled, same⟩ := mem_placed_iff.mp member
    obtain ⟨layer, condition⟩ := applies_iff.mp applies
    exact ⟨entry, found, enabled, same, layer, condition⟩

omit [Scalar K] in
/-- In a list in the order of the places, a search finds the accepted entry with the first place. -/
theorem find?_eq_some_iff_of_pairwise {listed : List (Place × Entry K)}
    (ordered : listed.Pairwise fun first second => first.1.Before second.1)
    {accepts : Place × Entry K → Bool} {found : Place × Entry K} :
    listed.find? accepts = some found ↔
      found ∈ listed ∧ accepts found = true ∧
        ∀ other ∈ listed, accepts other = true → ¬ other.1.Before found.1 := by
  induction listed with
  | nil => simp
  | cons head rest ih =>
    obtain ⟨before, ordered⟩ := List.pairwise_cons.mp ordered
    by_cases accepted : accepts head = true
    · rw [List.find?_cons_of_pos accepted, Option.some.injEq]
      constructor
      · rintro rfl
        refine ⟨List.mem_cons_self, accepted, fun other member _ => ?_⟩
        rcases List.mem_cons.mp member with rfl | later
        · exact other.1.before_irrefl
        · exact (before other later).asymm
      · rintro ⟨member, -, least⟩
        rcases List.mem_cons.mp member with rfl | later
        · rfl
        · exact absurd (before found later) (least head List.mem_cons_self accepted)
    · rw [List.find?_cons_of_neg accepted, ih ordered]
      constructor
      · rintro ⟨member, found, least⟩
        refine ⟨List.mem_cons_of_mem _ member, found, fun other listed applies => ?_⟩
        rcases List.mem_cons.mp listed with rfl | later
        · exact absurd applies accepted
        · exact least other later applies
      · rintro ⟨member, found, least⟩
        rcases List.mem_cons.mp member with rfl | later
        · exact absurd found accepted
        · exact ⟨later, found, fun other listed => least other (List.mem_cons_of_mem _ listed)⟩

/-- The first place that answers, as a search through the listed entries finds it. -/
def firstPlace? (rules : List (Rule K)) (kind : ConstraintKind) (context : Context K) :
    Option Place :=
  ((placed rules kind).find? fun listed => listed.2.applies context).map Prod.fst

/-- **The search finds the first place that answers.** -/
theorem firstPlace?_eq_some_iff {rules : List (Rule K)} {kind : ConstraintKind}
    {context : Context K} {place : Place} :
    firstPlace? rules kind context = some place ↔ IsFirst rules kind context place := by
  rw [firstPlace?, Option.map_eq_some_iff]
  constructor
  · rintro ⟨⟨_, entry⟩, found, rfl⟩
    obtain ⟨member, applies, least⟩ :=
      (find?_eq_some_iff_of_pairwise (pairwise_placed rules kind)).mp found
    refine ⟨answersAt_iff.mpr ⟨entry, member, applies⟩, fun other answers => ?_⟩
    obtain ⟨rival, listed, accepted⟩ := answersAt_iff.mp answers
    exact least (other, rival) listed accepted
  · rintro ⟨answers, least⟩
    obtain ⟨entry, member, applies⟩ := answersAt_iff.mp answers
    refine ⟨(place, entry), ?_, rfl⟩
    rw [find?_eq_some_iff_of_pairwise (pairwise_placed rules kind)]
    refine ⟨member, applies, fun other listed accepted => ?_⟩
    exact least other.1 (answersAt_iff.mpr ⟨other.2, listed, accepted⟩)

theorem firstPlace?_eq_none_iff {rules : List (Rule K)} {kind : ConstraintKind}
    {context : Context K} :
    firstPlace? rules kind context = none ↔ ∀ place, ¬ AnswersAt rules kind context place := by
  rw [firstPlace?, Option.map_eq_none_iff, List.find?_eq_none]
  constructor
  · intro rejected place answers
    obtain ⟨entry, member, applies⟩ := answersAt_iff.mp answers
    exact rejected (place, entry) member applies
  · rintro silent ⟨place, entry⟩ member applies
    exact silent place (answersAt_iff.mpr ⟨entry, member, applies⟩)

/-- What is found is what is declared at the first place. -/
theorem find?_entriesOf (rules : List (Rule K)) (kind : ConstraintKind) (context : Context K) :
    ((Catalog.entriesOf rules kind).find? fun entry => entry.applies context) =
      (firstPlace? rules kind context).bind (entryAt? rules) := by
  rw [← map_snd_placed, List.find?_map, firstPlace?]
  show ((placed rules kind).find? fun listed => listed.2.applies context).map Prod.snd = _
  cases found : (placed rules kind).find? fun listed => listed.2.applies context with
  | none => rfl
  | some listed =>
    have declared := (mem_placed_iff.mp (List.mem_of_find?_eq_some found)).1
    exact declared.symm

/-- A catalog answers with what is declared at the first place. -/
theorem resolve_build (rules : List (Rule K)) (requested : List ConstraintKind)
    (kind : ConstraintKind) (context : Context K) :
    (Catalog.build rules requested).resolve kind context =
      if kind ∈ requested then .ok ((firstPlace? rules kind context).bind (entryAt? rules))
      else .error (.unrequested kind) := by
  rw [Catalog.resolve, Catalog.entries_build]
  by_cases asked : kind ∈ requested
  · rw [if_pos asked, if_pos asked, Except.map, find?_entriesOf]
  · rw [if_neg asked, if_neg asked, Except.map]

end Search

/-! ### What has no influence -/

/-- Whether a rule has constraints of a kind. -/
def Rule.declares (kind : ConstraintKind) (rule : Rule K) : Bool :=
  rule.constraints.any fun constraint => constraint.kind == kind

/-- Whether two rules declare a kind at the same places, with the same switch, condition and filter
if they declare it at all. What the constraints demand, and all else about the rules, may differ. -/
structure Rule.SameGate (kind : ConstraintKind) (rule other : Rule K) : Prop where
  places : (rule.constraints.map fun constraint => constraint.kind == kind) =
    other.constraints.map fun constraint => constraint.kind == kind
  gate : rule.declares kind = true → rule.enabled = other.enabled ∧
    rule.condition = other.condition ∧ rule.layer = other.layer

theorem Rule.declares_eq_any_map (kind : ConstraintKind) (rule : Rule K) :
    rule.declares kind =
      (rule.constraints.map fun constraint => constraint.kind == kind).any id := by
  rw [List.any_map]
  rfl

theorem Rule.SameGate.symm {kind : ConstraintKind} {rule other : Rule K}
    (gates : rule.SameGate kind other) : other.SameGate kind rule := by
  refine ⟨gates.places.symm, fun declares => ?_⟩
  rw [Rule.declares_eq_any_map, ← gates.places, ← Rule.declares_eq_any_map] at declares
  obtain ⟨enabled, condition, layer⟩ := gates.gate declares
  exact ⟨enabled.symm, condition.symm, layer.symm⟩

/-- Each element of a list has its counterpart at the same position of a related list. -/
theorem exists_getElem?_of_forall₂ {α β : Type} {related : α → β → Prop} {first : List α}
    {second : List β} (pairs : List.Forall₂ related first second) {position : Nat} {element : α}
    (found : first[position]? = some element) :
    ∃ counterpart, second[position]? = some counterpart ∧ related element counterpart := by
  induction pairs generalizing position with
  | nil => cases found
  | cons pair _ ih =>
    cases position with
    | zero =>
      cases found
      exact ⟨_, rfl, pair⟩
    | succ position => exact ih found

/-- A constraint of a kind has its counterpart at the same place. -/
theorem Rule.SameGate.exists_constraint {kind : ConstraintKind} {rule other : Rule K}
    (gates : rule.SameGate kind other) {inside : Nat} {constraint : Constraint K}
    (declared : rule.constraints[inside]? = some constraint) (same : constraint.kind = kind) :
    ∃ counterpart, other.constraints[inside]? = some counterpart ∧ counterpart.kind = kind := by
  have places := congrArg (fun list : List Bool => list[inside]?) gates.places
  rw [List.getElem?_map, List.getElem?_map, declared, Option.map_some, same, beq_self_eq_true]
    at places
  obtain ⟨counterpart, found, equal⟩ := Option.map_eq_some_iff.mp places.symm
  exact ⟨counterpart, found, eq_of_beq equal⟩

section Influence

variable [Scalar K]

theorem answersAt_of_sameGate {kind : ConstraintKind} {rules others : List (Rule K)}
    (gates : List.Forall₂ (Rule.SameGate kind) rules others) {context : Context K} {place : Place}
    (answers : AnswersAt rules kind context place) : AnswersAt others kind context place := by
  obtain ⟨⟨rule, constraint⟩, found, enabled, same, layer, condition⟩ := answers
  obtain ⟨listed, declared⟩ := entryAt?_eq_some_iff.mp found
  obtain ⟨other, listed', gate⟩ := exists_getElem?_of_forall₂ gates listed
  obtain ⟨counterpart, declared', same'⟩ := gate.exists_constraint declared same
  have declares : rule.declares kind = true :=
    List.any_eq_true.mpr ⟨constraint, List.mem_of_getElem? declared, beq_iff_eq.mpr same⟩
  obtain ⟨sameSwitch, sameCondition, sameFilter⟩ := gate.gate declares
  refine ⟨⟨other, counterpart⟩, entryAt?_eq_some_iff.mpr ⟨listed', declared'⟩, ?_, same', ?_, ?_⟩
  · exact sameSwitch.symm.trans enabled
  · show other.admitsLayer context.stack context.layer = true
    unfold Rule.admitsLayer at layer ⊢
    rw [← sameFilter]
    exact layer
  · intro code conditional
    exact condition code (sameCondition.trans conditional)

/-- Rule lists with the same gates answer at the same places. -/
theorem firstPlace?_of_sameGate {kind : ConstraintKind} {rules others : List (Rule K)}
    (gates : List.Forall₂ (Rule.SameGate kind) rules others) (context : Context K) :
    firstPlace? rules kind context = firstPlace? others kind context := by
  have back : List.Forall₂ (Rule.SameGate kind) others rules :=
    List.Forall₂.flip (gates.imp fun _ _ gate => gate.symm)
  ext place
  rw [firstPlace?_eq_some_iff, firstPlace?_eq_some_iff]
  constructor
  · rintro ⟨answers, least⟩
    exact ⟨answersAt_of_sameGate gates answers, fun other rival =>
      least other (answersAt_of_sameGate back rival)⟩
  · rintro ⟨answers, least⟩
    exact ⟨answersAt_of_sameGate back answers, fun other rival =>
      least other (answersAt_of_sameGate gates rival)⟩

omit [Scalar K] in
theorem constraintsOf_of_not_declares {kind : ConstraintKind} {rule : Rule K}
    (silent : rule.declares kind = false) : rule.constraintsOf kind = [] := by
  rw [Rule.declares, List.any_eq_false] at silent
  exact List.filter_eq_nil_iff.mpr silent

omit [Scalar K] in
/-- Rules without a constraint of the kind contribute nothing to its entries. -/
theorem entriesOf_filter_declares (rules : List (Rule K)) (kind : ConstraintKind) :
    Catalog.entriesOf (rules.filter (Rule.declares kind)) kind = Catalog.entriesOf rules kind := by
  induction rules with
  | nil => rfl
  | cons rule rules ih =>
    unfold Catalog.entriesOf at *
    by_cases declares : rule.declares kind = true
    · rw [List.filter_cons_of_pos declares, List.filter_cons, List.filter_cons]
      by_cases enabled : rule.enabled = true
      · rw [if_pos enabled, if_pos enabled, List.flatMap_cons, List.flatMap_cons, ih]
      · rw [if_neg enabled, if_neg enabled, ih]
    · rw [List.filter_cons_of_neg declares, List.filter_cons, ih]
      by_cases enabled : rule.enabled = true
      · have nothing := constraintsOf_of_not_declares (eq_false_of_ne_true declares)
        rw [if_pos enabled, List.flatMap_cons, nothing, List.map_nil, List.nil_append]
      · rw [if_neg enabled]

/-- **The first constraint that answers counts.** A search for a kind fails exactly if the kind was
not asked for. Otherwise it finds what is declared at the first place that answers, and nothing
exactly if no place answers; what the constraints demand has no influence on the place, and the
rules without a constraint of the kind have none on the answer. -/
theorem resolve_build_first (rules : List (Rule K)) (requested : List ConstraintKind)
    (kind : ConstraintKind) (context : Context K) :
    ((Catalog.build rules requested).resolve kind context = .error (.unrequested kind) ↔
      kind ∉ requested) ∧
    (kind ∈ requested →
      (∀ entry, (Catalog.build rules requested).resolve kind context = .ok (some entry) ↔
        ∃ place, IsFirst rules kind context place ∧ entryAt? rules place = some entry) ∧
      ((Catalog.build rules requested).resolve kind context = .ok none ↔
        ∀ place, ¬ AnswersAt rules kind context place) ∧
      (∀ others, List.Forall₂ (Rule.SameGate kind) rules others → ∃ place? : Option Place,
        (Catalog.build rules requested).resolve kind context =
          .ok (place?.bind (entryAt? rules)) ∧
        (Catalog.build others requested).resolve kind context =
          .ok (place?.bind (entryAt? others))) ∧
      (Catalog.build (rules.filter (Rule.declares kind)) requested).resolve kind context =
        (Catalog.build rules requested).resolve kind context) := by
  constructor
  · rw [resolve_build]
    by_cases asked : kind ∈ requested
    · simp [asked]
    · simp [asked]
  · intro asked
    refine ⟨fun entry => ?_, ?_, fun others gates => ?_, ?_⟩
    · rw [resolve_build, if_pos asked, Except.ok.injEq, Option.bind_eq_some_iff]
      simp only [firstPlace?_eq_some_iff]
    · rw [resolve_build, if_pos asked, Except.ok.injEq, ← firstPlace?_eq_none_iff]
      cases first : firstPlace? rules kind context with
      | none => simp
      | some place =>
        obtain ⟨entry, declared, -⟩ := (firstPlace?_eq_some_iff.mp first).answers
        simp [declared]
    · refine ⟨firstPlace? rules kind context, ?_, ?_⟩
      · rw [resolve_build, if_pos asked]
      · rw [resolve_build, if_pos asked, firstPlace?_of_sameGate gates]
    · rw [Catalog.resolve, Catalog.resolve, Catalog.entries_build, Catalog.entries_build,
        entriesOf_filter_declares]

/-- A rule that is disabled, and one whose second constraint is its first clearance. -/
def retiredAndWide : List (Rule Float) :=
  [{ name := "retired", priority := 1, enabled := false
     constraints := [⟨.clearance, .bound (.atLeast 1.0), "retired", 1⟩] },
   { name := "wide", priority := 2
     constraints := [⟨.trackWidth, .bound (.atLeast 1.0), "wide", 2⟩,
       ⟨.clearance, .bound (.atLeast 2.0), "wide", 2⟩,
       ⟨.clearance, .bound (.atLeast 3.0), "wide", 2⟩] }]

/-- The rules with another clearance, and with another width before it. -/
def retiredAndTight : List (Rule Float) :=
  [{ name := "retired", priority := 1, enabled := false
     constraints := [⟨.clearance, .bound (.atLeast 1.0), "retired", 1⟩] },
   { name := "tight", priority := 2
     constraints := [⟨.viaDiameter, .bound (.atLeast 9.0), "tight", 2⟩,
       ⟨.clearance, .bound (.atLeast 0.5), "tight", 2⟩,
       ⟨.clearance, .bound (.atLeast 3.0), "tight", 2⟩] }]

/-- In both lists the second constraint of the second rule counts. -/
theorem resolve_build_first_of_wide :
    (∃ entry, entryAt? retiredAndWide ⟨1, 1⟩ = some entry ∧
      (Catalog.build retiredAndWide [.minArea, .clearance, .clearance]).resolve .clearance
        { stack := {} } = .ok (some entry)) ∧
    ∃ place? : Option Place,
      (Catalog.build retiredAndWide [.minArea, .clearance, .clearance]).resolve .clearance
        { stack := {} } = .ok (place?.bind (entryAt? retiredAndWide)) ∧
      (Catalog.build retiredAndTight [.minArea, .clearance, .clearance]).resolve .clearance
        { stack := {} } = .ok (place?.bind (entryAt? retiredAndTight)) := by
  have asked : ConstraintKind.clearance ∈ [ConstraintKind.minArea, .clearance, .clearance] := by
    decide
  have gates : List.Forall₂ (Rule.SameGate .clearance) retiredAndWide retiredAndTight :=
    .cons ⟨by decide, fun _ => ⟨rfl, rfl, rfl⟩⟩
      (.cons ⟨by decide, fun _ => ⟨rfl, rfl, rfl⟩⟩ .nil)
  have first : IsFirst retiredAndWide .clearance { stack := {} } ⟨1, 1⟩ := by
    refine ⟨⟨_, rfl, rfl, rfl, rfl, fun code conditional => by cases conditional⟩, ?_⟩
    rintro ⟨rule, inside⟩ ⟨entry, declared, enabled, same, -, -⟩ before
    obtain ⟨listed, found⟩ := entryAt?_eq_some_iff.mp declared
    rcases before with earlier | ⟨rfl, earlier⟩
    · obtain rfl : rule = 0 := Nat.lt_one_iff.mp earlier
      rw [← Option.some.inj listed] at enabled
      cases enabled
    · obtain rfl : inside = 0 := Nat.lt_one_iff.mp earlier
      rw [← Option.some.inj listed] at found
      rw [← Option.some.inj found] at same
      cases same
  obtain ⟨found, -, shared, -⟩ := (resolve_build_first retiredAndWide
    [.minArea, .clearance, .clearance] .clearance { stack := {} }).2 asked
  exact ⟨⟨_, rfl, (found _).mpr ⟨⟨1, 1⟩, first, rfl⟩⟩, shared retiredAndTight gates⟩

end Influence

end DesignRules

/-
**The worst limit of a kind bounds every answer.**

Among limits that are numbers, being more extreme is a strict order in which limits that are not
ordered are equal. So the search for the worst limit ends with the first entry that attains it, and
no entry, whatever it applies to, can answer with a limit beyond it.

* `Extreme.Bounds`: whether a limit is not beyond another one.
* `Leads`: the first entry that attains the worst limit of a list.
* `leads_foldl`: the search keeps the leading entry of what it has seen.
* `worst_bounds_every_answer`: what a catalog answers.
-/

import DesignRules.Decimal.Scalar
import DesignRules.Proofs.Catalog.Extreme
import DesignRules.Proofs.Decimal.Order

namespace DesignRules

open Decimal

/-! ### Comparing limits -/

/-- Whether the second limit does not lie beyond the first one. -/
def Extreme.Bounds {K : Type} [Scalar K] (extreme : Extreme) (limit rival : K) : Prop :=
  match extreme with
  | .largestMin => rival ≤ limit
  | .largestMax => rival ≤ limit
  | .smallestMin => limit ≤ rival
  | .smallestMax => limit ≤ rival

namespace Extreme

variable {extreme : Extreme} {limit current rival : Float}

theorem prefers_self (extreme : Extreme) (limit : Float) :
    extreme.prefers limit limit = false := by
  cases extreme with
  | _ => exact decide_eq_false (not_lt_self limit)

theorem prefers_trans (first : extreme.prefers limit current = true)
    (second : extreme.prefers current rival = true) : extreme.prefers limit rival = true := by
  cases extreme with
  | largestMin | largestMax =>
    exact decide_eq_true (lt_of_lt_of_lt (of_decide_eq_true second) (of_decide_eq_true first))
  | smallestMin | smallestMax =>
    exact decide_eq_true (lt_of_lt_of_lt (of_decide_eq_true first) (of_decide_eq_true second))

/-- Of two numbers, what is not more extreme than the other one is bounded by it. -/
theorem prefers_eq_false_iff (number : Scalar.isNaN limit = false)
    (other : Scalar.isNaN rival = false) :
    extreme.prefers rival limit = false ↔ extreme.Bounds limit rival := by
  cases extreme with
  | largestMin | largestMax => exact decide_eq_false_iff_not.trans (not_lt_iff_le number other)
  | smallestMin | smallestMax => exact decide_eq_false_iff_not.trans (not_lt_iff_le other number)

/-- What is more extreme than a limit is more extreme than all that the limit bounds. -/
theorem prefers_of_bounds (number : Scalar.isNaN rival = false)
    (preferred : extreme.prefers limit current = true) (bounded : extreme.Bounds current rival) :
    extreme.prefers limit rival = true := by
  cases extreme with
  | largestMin | largestMax =>
    exact decide_eq_true (lt_of_le_of_lt_of_number number bounded (of_decide_eq_true preferred))
  | smallestMin | smallestMax =>
    exact decide_eq_true (lt_of_lt_of_le_of_number number (of_decide_eq_true preferred) bounded)

/-- A limit that is less extreme is another one. -/
theorem ne_of_prefers (preferred : extreme.prefers limit rival = true) :
    (rival == limit) = false := by
  cases extreme with
  | largestMin | largestMax => exact beq_eq_false_of_lt (of_decide_eq_true preferred)
  | smallestMin | smallestMax => exact beq_eq_false_of_gt (of_decide_eq_true preferred)

/-- A constraint with forbidden words has no limit. -/
theorem limit?_of_bound? {K : Type} (extreme : Extreme) {constraint : Constraint K}
    (categorical : constraint.bound? = none) : extreme.limit? constraint = none := by
  cases extreme with
  | _ => simp only [limit?, Constraint.min?, Constraint.max?, categorical, Option.bind_none]

end Extreme

namespace Catalog

variable {extreme : Extreme} {entries : List (Entry Float)} {limit : Float} {kept : Entry Float}

/-! ### The leading entry -/

/-- Whether all limits of some entries are numbers. -/
def Numeric (extreme : Extreme) (entries : List (Entry Float)) : Prop :=
  ∀ entry ∈ entries, ∀ limit, extreme.limit? entry.constraint = some limit →
    Scalar.isNaN limit = false

instance (extreme : Extreme) (entries : List (Entry Float)) :
    Decidable (Numeric extreme entries) :=
  inferInstanceAs (Decidable (∀ entry ∈ entries, ∀ limit ∈ extreme.limit? entry.constraint,
    Scalar.isNaN limit = false))

/-- Whether the limits of some entries are all less extreme than another one. -/
def Trails (extreme : Extreme) (entries : List (Entry Float)) (limit : Float) : Prop :=
  ∀ entry ∈ entries, ∀ rival, extreme.limit? entry.constraint = some rival →
    extreme.prefers limit rival = true

/-- Whether an entry with a limit stands behind entries with less extreme limits only. -/
def Leads (extreme : Extreme) (entries : List (Entry Float)) (limit : Float)
    (kept : Entry Float) : Prop :=
  ∃ before after, entries = before ++ kept :: after ∧ Trails extreme before limit

theorem Leads.append (leads : Leads extreme entries limit kept) (entry : Entry Float) :
    Leads extreme (entries ++ [entry]) limit kept := by
  obtain ⟨before, after, rfl, trails⟩ := leads
  refine ⟨before, after ++ [entry], ?_, trails⟩
  rw [List.append_assoc, List.cons_append]

theorem best_foldl (extreme : Extreme) (entries : List (Entry Float)) :
    IsBest extreme entries (entries.foldl (better extreme) none) :=
  isBest_foldl (extreme.prefers_self) (fun _ _ _ => Extreme.prefers_trans) entries

/-- A limit more extreme than the best one is more extreme than all. -/
theorem trails_of_isBest (numeric : Numeric extreme entries) {current : Float}
    (best : IsBest extreme entries (some (current, kept)))
    (preferred : extreme.prefers limit current = true) : Trails extreme entries limit := by
  obtain ⟨member, has, most⟩ := best
  intro entry listed rival limited
  have number := numeric entry listed rival limited
  refine Extreme.prefers_of_bounds number preferred ?_
  exact (Extreme.prefers_eq_false_iff (numeric kept member current has) number).mp
    (most entry listed rival limited)

/-- What one step of the search ends with: what it had, or the new entry. -/
theorem better_eq_some {best : Option (Float × Entry Float)} {entry : Entry Float}
    (found : better extreme best entry = some (limit, kept)) :
    best = some (limit, kept) ∨
      entry = kept ∧ ∀ current, best.map Prod.fst = some current →
        extreme.prefers limit current = true := by
  unfold better at found
  cases limited : extreme.limit? entry.constraint with
  | none =>
    rw [limited] at found
    exact .inl found
  | some candidate =>
    rw [limited] at found
    cases best with
    | none =>
      obtain ⟨rfl, rfl⟩ := Prod.mk.inj (Option.some.inj found)
      refine .inr ⟨rfl, fun current missing => ?_⟩
      cases missing
    | some state =>
      obtain ⟨current, holder⟩ := state
      by_cases preferred : extreme.prefers candidate current = true
      · simp only [if_pos preferred] at found
        obtain ⟨rfl, rfl⟩ := Prod.mk.inj (Option.some.inj found)
        refine .inr ⟨rfl, fun other same => ?_⟩
        rw [← Option.some.inj same]
        exact preferred
      · simp only [if_neg preferred] at found
        exact .inl found

/-- **The search keeps the leading entry.** -/
theorem leads_foldl (numeric : Numeric extreme entries)
    (found : entries.foldl (better extreme) none = some (limit, kept)) :
    Leads extreme entries limit kept := by
  induction entries using List.reverseRecOn generalizing limit kept with
  | nil => cases found
  | append_singleton entries entry ih =>
    have front : Numeric extreme entries := fun other listed =>
      numeric other (List.mem_append_left _ listed)
    have best := best_foldl extreme entries
    rw [List.foldl_append, List.foldl_cons, List.foldl_nil] at found
    rcases better_eq_some found with before | ⟨rfl, preferred⟩
    · exact (ih front before).append entry
    · refine ⟨entries, [], rfl, ?_⟩
      cases reached : entries.foldl (better extreme) none with
      | none =>
        rw [reached] at best
        intro other listed rival limited
        rw [best other listed] at limited
        cases limited
      | some state =>
        rw [reached] at best preferred
        exact trails_of_isBest front best (preferred state.1 rfl)

/-! ### What a catalog answers -/

variable {catalog : Catalog Float} {kind : ConstraintKind}

/-- What a catalog answers is the leading entry, and none of the kind has a limit beyond its. -/
theorem leads_of_worst (listed : catalog.entries kind = .ok entries)
    (numeric : Numeric extreme entries) (found : catalog.worst kind extreme = .ok (some kept)) :
    ∃ limit, extreme.limit? kept.constraint = some limit ∧ Leads extreme entries limit kept ∧
      ∀ entry ∈ entries, ∀ rival, extreme.limit? entry.constraint = some rival →
        extreme.Bounds limit rival := by
  rw [worst, listed] at found
  obtain ⟨⟨limit, _⟩, reached, rfl⟩ := Option.map_eq_some_iff.mp (Except.ok.inj found)
  have best := best_foldl extreme entries
  rw [reached] at best
  obtain ⟨member, has, most⟩ := best
  refine ⟨limit, has, leads_foldl numeric reached, fun entry other rival limited => ?_⟩
  exact (Extreme.prefers_eq_false_iff (numeric _ member limit has)
    (numeric entry other rival limited)).mp (most entry other rival limited)

theorem worst_eq_foldl (listed : catalog.entries kind = .ok entries) :
    catalog.worst kind extreme = .ok ((entries.foldl (better extreme) none).map Prod.snd) := by
  rw [worst, listed]
  rfl

/-- A catalog answers with nothing just if no entry of the kind has a limit. -/
theorem worst_eq_none_iff (listed : catalog.entries kind = .ok entries) :
    catalog.worst kind extreme = .ok none ↔
      ∀ entry ∈ entries, extreme.limit? entry.constraint = none := by
  have best := best_foldl extreme entries
  rw [worst_eq_foldl listed, Except.ok.injEq, Option.map_eq_none_iff]
  cases reached : entries.foldl (better extreme) none with
  | none =>
    rw [reached] at best
    exact ⟨fun _ => best, fun _ => rfl⟩
  | some state =>
    rw [reached] at best
    refine ⟨fun missing => (Option.some_ne_none _ missing).elim, fun unlimited => ?_⟩
    have limited := best.2.1
    rw [unlimited state.2 best.1] at limited
    cases limited

/-- A catalog answers with an entry just if some entry of the kind has a limit. -/
theorem exists_worst_iff (listed : catalog.entries kind = .ok entries) :
    (∃ kept, catalog.worst kind extreme = .ok (some kept)) ↔
      ∃ entry ∈ entries, ∃ limit, extreme.limit? entry.constraint = some limit := by
  have missing : catalog.worst kind extreme = .ok none ↔
      ∀ entry ∈ entries, extreme.limit? entry.constraint = none := worst_eq_none_iff listed
  rw [worst_eq_foldl listed] at missing ⊢
  constructor
  · rintro ⟨kept, found⟩
    by_contra unlimited
    have none : ∀ entry ∈ entries, extreme.limit? entry.constraint = none := fun entry member =>
      Option.eq_none_iff_forall_ne_some.mpr fun limit limited =>
        unlimited ⟨entry, member, limit, limited⟩
    rw [missing.mpr none] at found
    cases found
  · rintro ⟨entry, member, limit, limited⟩
    cases reached : (entries.foldl (better extreme) none).map Prod.snd with
    | none =>
      rw [reached] at missing
      rw [missing.mp rfl entry member] at limited
      cases limited
    | some kept => exact ⟨kept, rfl⟩

/-- **The worst limit of a kind bounds every answer.** If the compared limits of a kind are numbers,
its catalog answers with an entry exactly if some entry has the limit, which none with forbidden
words has. No entry has a limit beyond the one of the answer, and none before the answer has an
equal one; so whatever the search for some objects finds is bounded by it. -/
theorem worst_bounds_every_answer (catalog : Catalog Float) (kind : ConstraintKind)
    (extreme : Extreme) (entries : List (Entry Float))
    (listed : catalog.entries kind = .ok entries) (numeric : Numeric extreme entries) :
    ((∃ kept, catalog.worst kind extreme = .ok (some kept)) ↔
      ∃ entry ∈ entries, ∃ limit, extreme.limit? entry.constraint = some limit) ∧
    (catalog.worst kind extreme = .ok none ↔
      ∀ entry ∈ entries, extreme.limit? entry.constraint = none) ∧
    (∀ entry ∈ entries, entry.constraint.bound? = none →
      extreme.limit? entry.constraint = none) ∧
    (∀ kept, catalog.worst kind extreme = .ok (some kept) →
      ∃ limit, extreme.limit? kept.constraint = some limit ∧
        (∀ entry ∈ entries, ∀ rival, extreme.limit? entry.constraint = some rival →
          extreme.Bounds limit rival) ∧
        ∃ before after, entries = before ++ kept :: after ∧
          ∀ entry ∈ before, ∀ rival, extreme.limit? entry.constraint = some rival →
            (rival == limit) = false) ∧
    ∀ context answer rival, catalog.resolve kind context = .ok (some answer) →
      extreme.limit? answer.constraint = some rival →
        ∃ kept limit, catalog.worst kind extreme = .ok (some kept) ∧
          extreme.limit? kept.constraint = some limit ∧ extreme.Bounds limit rival := by
  refine ⟨exists_worst_iff listed, worst_eq_none_iff listed,
    fun entry _ categorical => extreme.limit?_of_bound? categorical, fun kept found => ?_,
    fun context answer rival resolved limited => ?_⟩
  · obtain ⟨limit, has, ⟨before, after, split, trails⟩, bounds⟩ :=
      leads_of_worst listed numeric found
    refine ⟨limit, has, bounds, before, after, split, fun entry member other limited => ?_⟩
    exact Extreme.ne_of_prefers (trails entry member other limited)
  · obtain ⟨others, same, member⟩ := mem_of_resolve resolved
    obtain rfl : others = entries := Except.ok.inj (same.symm.trans listed)
    obtain ⟨kept, found⟩ := (exists_worst_iff listed).mpr ⟨answer, member, rival, limited⟩
    obtain ⟨limit, has, -, bounds⟩ := leads_of_worst listed numeric found
    exact ⟨kept, limit, found, has, bounds answer member rival limited⟩

/-- Rules with three clearances, two of them the greatest, and with forbidden words. -/
def tiedRules : List (Rule Float) :=
  [{ name := "narrow", priority := 1
     constraints := [⟨.clearance, .bound (.atLeast 0.1), "narrow", 1⟩,
       ⟨.disallow, .categories ["via"], "narrow", 1⟩] },
   { name := "first", priority := 2
     constraints := [⟨.clearance, .bound { max := some 5.0 }, "first", 2⟩,
       ⟨.clearance, .bound (.atLeast 0.3), "first", 2⟩] },
   { name := "second", priority := 3
     constraints := [⟨.clearance, .bound (.atLeast 0.3), "second", 3⟩] }]

/-- The earlier one of the two greatest clearances is the answer, and bounds all others. -/
theorem worst_bounds_every_answer_of_tied :
    (build tiedRules [.disallow, .clearance]).entries .clearance =
        .ok (entriesOf tiedRules .clearance) ∧
      Numeric .largestMin (entriesOf tiedRules .clearance) ∧
      ∃ kept, (build tiedRules [.disallow, .clearance]).worst .clearance .largestMin =
          .ok (some kept) ∧ kept.rule.name = "first" ∧
        ∃ limit, Extreme.largestMin.limit? kept.constraint = some limit ∧
          (∀ entry ∈ entriesOf tiedRules .clearance, ∀ rival,
            Extreme.largestMin.limit? entry.constraint = some rival → rival ≤ limit) ∧
          ∃ before after, entriesOf tiedRules .clearance = before ++ kept :: after ∧
            ∀ entry ∈ before, ∀ rival,
              Extreme.largestMin.limit? entry.constraint = some rival →
                (rival == limit) = false := by
  have listed : (build tiedRules [.disallow, .clearance]).entries .clearance =
      .ok (entriesOf tiedRules .clearance) := rfl
  have numeric : Numeric .largestMin (entriesOf tiedRules .clearance) := by decide +kernel
  obtain ⟨-, -, -, leading, -⟩ :=
    worst_bounds_every_answer _ .clearance .largestMin _ listed numeric
  exact ⟨listed, numeric, _, rfl, rfl, leading _ rfl⟩

end Catalog

end DesignRules

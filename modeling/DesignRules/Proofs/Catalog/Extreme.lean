/-
**The most extreme limit of a kind.**

The search keeps the best limit that it has met. As long as being more extreme is a strict order, no
limit of the kind is more extreme than what it ends with, whatever rule declares it.

* `IsBest`: what the best entry of a list is.
* `isBest_better`, `isBest_foldl`: one step of the search, and all of it.
* `exists_isBest_of_worst`: what a catalog answers.
-/

import DesignRules.Proofs.Catalog.Entries
import Mathlib.Data.List.Induction

namespace DesignRules.Catalog

variable {K : Type} [Scalar K]

/-- Whether a limit is one of the entries' limits and none of them is more extreme; without a limit,
whether no entry has one. -/
def IsBest (extreme : Extreme) (entries : List (Entry K)) : Option (K × Entry K) → Prop
  | none => ∀ entry ∈ entries, extreme.limit? entry.constraint = none
  | some (limit, kept) => kept ∈ entries ∧ extreme.limit? kept.constraint = some limit ∧
      ∀ entry ∈ entries, ∀ rival, extreme.limit? entry.constraint = some rival →
        extreme.prefers rival limit = false

variable {extreme : Extreme}

/-- The best entry stays best beside entries without a limit. -/
theorem IsBest.append_unlimited {entries : List (Entry K)} {best : Option (K × Entry K)}
    (isBest : IsBest extreme entries best) {entry : Entry K}
    (unlimited : extreme.limit? entry.constraint = none) :
    IsBest extreme (entries ++ [entry]) best := by
  cases best with
  | none => exact List.forall_mem_append.mpr ⟨isBest, List.forall_mem_singleton.mpr unlimited⟩
  | some found =>
    obtain ⟨member, has, most⟩ := isBest
    refine ⟨List.mem_append_left _ member, has, ?_⟩
    refine List.forall_mem_append.mpr ⟨most, List.forall_mem_singleton.mpr ?_⟩
    intro rival limited
    rw [unlimited] at limited
    cases limited

section Order

variable (irreflexive : ∀ a : K, extreme.prefers a a = false)
  (transitive : ∀ a b c : K, extreme.prefers a b = true → extreme.prefers b c = true →
    extreme.prefers a c = true)

include irreflexive transitive

/-- **One more entry**: the better one of it and the best so far is the best. -/
theorem isBest_better {entries : List (Entry K)} {best : Option (K × Entry K)}
    (isBest : IsBest extreme entries best) (entry : Entry K) :
    IsBest extreme (entries ++ [entry]) (better extreme best entry) := by
  unfold better
  cases limited : extreme.limit? entry.constraint with
  | none => exact isBest.append_unlimited limited
  | some limit =>
    have last : entry ∈ entries ++ [entry] :=
      List.mem_append_right _ (List.mem_singleton_self entry)
    have itself : ∀ rival, extreme.limit? entry.constraint = some rival →
        extreme.prefers rival limit = false := by
      intro rival has
      rw [limited, Option.some.injEq] at has
      rw [has]
      exact irreflexive rival
    cases best with
    | none =>
      refine ⟨last, limited, List.forall_mem_append.mpr ⟨?_, List.forall_mem_singleton.mpr itself⟩⟩
      intro other member rival has
      rw [isBest other member] at has
      cases has
    | some found =>
      obtain ⟨current, kept⟩ := found
      obtain ⟨member, keptHas, most⟩ := isBest
      by_cases preferred : extreme.prefers limit current = true
      · simp only [if_pos preferred]
        refine ⟨last, limited,
          List.forall_mem_append.mpr ⟨?_, List.forall_mem_singleton.mpr itself⟩⟩
        -- what beats the new limit would have beaten the old one
        intro other listed rival has
        refine eq_false_of_ne_true fun beats => ?_
        have worse := most other listed rival has
        rw [transitive rival limit current beats preferred] at worse
        cases worse
      · simp only [if_neg preferred]
        refine ⟨List.mem_append_left _ member, keptHas,
          List.forall_mem_append.mpr ⟨most, List.forall_mem_singleton.mpr ?_⟩⟩
        intro rival has
        rw [limited, Option.some.injEq] at has
        rw [← has]
        exact eq_false_of_ne_true preferred

/-- **All entries**: what the search ends with is the best of them. -/
theorem isBest_foldl (entries : List (Entry K)) :
    IsBest extreme entries (entries.foldl (better extreme) none) := by
  induction entries using List.reverseRecOn with
  | nil =>
    intro entry member
    cases member
  | append_singleton entries entry ih =>
    rw [List.foldl_append]
    exact isBest_better irreflexive transitive ih entry

/-- A catalog answers with its best entry. -/
theorem exists_isBest_of_worst {catalog : Catalog K} {kind : ConstraintKind}
    {entries : List (Entry K)} (listed : catalog.entries kind = .ok entries) :
    ∃ best, IsBest extreme entries best ∧
      catalog.worst kind extreme = .ok (best.map Prod.snd) := by
  refine ⟨_, isBest_foldl irreflexive transitive entries, ?_⟩
  rw [worst, listed]
  rfl

end Order

end DesignRules.Catalog

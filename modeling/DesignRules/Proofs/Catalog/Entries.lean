/-
**The entries of a catalog.**

* `entries_build`, `count_build`: a catalog has entries for the kinds that it was built for, and no
  other ones.
* `mem_entriesOf_iff`: which entries these are.
* `mem_of_resolve`: whatever a search finds is one of them.
-/

import DesignRules.Catalog
import DesignRules.Proofs.Results
import Mathlib.Data.List.Basic

namespace DesignRules.Catalog

variable {K : Type}

theorem mem_entriesOf_iff {rules : List (Rule K)} {kind : ConstraintKind} {entry : Entry K} :
    entry ∈ entriesOf rules kind ↔
      entry.rule ∈ rules ∧ entry.rule.enabled = true ∧
        entry.constraint ∈ entry.rule.constraints ∧ entry.constraint.kind = kind := by
  obtain ⟨rule, constraint⟩ := entry
  simp only [entriesOf, Rule.constraintsOf, List.mem_flatMap, List.mem_filter, List.mem_map,
    Entry.mk.injEq, beq_iff_eq]
  constructor
  · rintro ⟨_, ⟨member, enabled⟩, _, ⟨declared, same⟩, rfl, rfl⟩
    exact ⟨member, enabled, declared, same⟩
  · rintro ⟨member, enabled, declared, same⟩
    exact ⟨rule, ⟨member, enabled⟩, constraint, ⟨declared, same⟩, rfl, rfl⟩

/-- A catalog lists just the kinds that it was built for. -/
theorem lookup_build (rules : List (Rule K)) (requested : List ConstraintKind)
    (kind : ConstraintKind) :
    (build rules requested).lists.lookup kind =
      if kind ∈ requested then some (entriesOf rules kind) else none := by
  by_cases asked : kind ∈ requested
  · rw [if_pos asked]
    refine List.lookup_graph (entriesOf rules) ?_
    rw [List.mem_filter, List.contains_iff_mem]
    exact ⟨ConstraintKind.mem_all kind, asked⟩
  · rw [if_neg asked, build, List.lookup_eq_none_iff]
    intro listed member
    obtain ⟨other, wanted, rfl⟩ := List.mem_map.mp member
    rw [List.mem_filter, List.contains_iff_mem] at wanted
    rw [bne_iff_ne]
    rintro rfl
    exact asked wanted.2

/-- The entries of a kind are those of the enabled rules, whatever else is asked for. -/
theorem entries_build (rules : List (Rule K)) (requested : List ConstraintKind)
    (kind : ConstraintKind) :
    (build rules requested).entries kind =
      if kind ∈ requested then .ok (entriesOf rules kind) else .error (.unrequested kind) := by
  unfold entries
  rw [lookup_build]
  by_cases asked : kind ∈ requested
  · rw [if_pos asked, if_pos asked]
  · rw [if_neg asked, if_neg asked]

theorem count_build (rules : List (Rule K)) (requested : List ConstraintKind)
    (kind : ConstraintKind) :
    (build rules requested).count kind =
      if kind ∈ requested then (entriesOf rules kind).length else 0 := by
  unfold count
  rw [lookup_build]
  by_cases asked : kind ∈ requested
  · rw [if_pos asked, if_pos asked, Option.getD_some]
  · rw [if_neg asked, if_neg asked]
    rfl

variable [Scalar K]

/-- What a search finds is an entry of the kind. -/
theorem mem_of_resolve {catalog : Catalog K} {kind : ConstraintKind}
    {context : Condition.Context K} {entry : Entry K}
    (found : catalog.resolve kind context = .ok (some entry)) :
    ∃ entries, catalog.entries kind = .ok entries ∧ entry ∈ entries := by
  obtain ⟨entries, listed, first⟩ := map_eq_ok_iff.mp found
  exact ⟨entries, listed, List.mem_of_find?_eq_some first⟩

end DesignRules.Catalog

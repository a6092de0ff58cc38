/-
**Which hiding entries are reported.**

Every entry that applies to everything hides the entries of its kind after it, whether or not it is
hidden itself. A catalog reports the first of them for each kind and leaves the other ones out.

* `Catalog.listed`, `Catalog.hiders`: the entries of a kind, and those that hide others.
* `Diagnostic.Names`: a piece of information about a kind that names an entry's rule.
* `Catalog.noticesAbout`, `Catalog.noticesAbout_build`: what is reported about a kind.
* `Catalog.first_hider_is_reported`: one diagnostic for the first hiding entry, and none for others.
* `Catalog.later_hider_is_not_reported`: a kind with two hiding entries.
-/

import DesignRules.Proofs.Catalog.Shadow

namespace DesignRules

variable {K : Type}

/-- Whether a diagnostic is a piece of information about a kind that names the rule of an entry. -/
structure Diagnostic.Names (kind : ConstraintKind) (entry : Entry K) (diagnostic : Diagnostic) :
    Prop where
  level : diagnostic.level = .info
  rule : diagnostic.rule = some entry.rule.name
  about : diagnostic.IsAbout kind

namespace Catalog

/-- The entries of a kind; none for one that was not asked for. -/
def listed (catalog : Catalog K) (kind : ConstraintKind) : List (Entry K) :=
  (catalog.lists.lookup kind).getD []

/-- The entries of a list that apply to everything and have another entry after them. -/
def hiders (entries : List (Entry K)) : List (Entry K) :=
  entries.dropLast.filter fun entry => entry.rule.isUnconditional

open scoped Classical in
/-- What a catalog reports about a kind. -/
noncomputable def noticesAbout (catalog : Catalog K) (kind : ConstraintKind) : List Diagnostic :=
  catalog.shadowing.filter fun diagnostic => diagnostic.IsAbout kind

theorem mem_noticesAbout_iff {catalog : Catalog K} {kind : ConstraintKind}
    {diagnostic : Diagnostic} :
    diagnostic ∈ catalog.noticesAbout kind ↔
      diagnostic ∈ catalog.shadowing ∧ diagnostic.IsAbout kind := by
  simp only [noticesAbout, List.mem_filter, decide_eq_true_eq]

/-! ### Hiding entries -/

section Lists

variable {entries before after : List (Entry K)} {entry : Entry K}

theorem mem_hiders_iff :
    entry ∈ hiders entries ↔
      ∃ before after, entries = before ++ entry :: after ∧ entry.IsOpen ∧ after ≠ [] := by
  rw [hiders, List.mem_filter, ← Entry.isOpen_iff]
  constructor
  · rintro ⟨member, isOpen⟩
    obtain ⟨before, after, split⟩ := List.append_of_mem member
    have whole : entries ≠ [] := by
      rintro rfl
      cases member
    refine ⟨before, after ++ [entries.getLast whole], ?_, isOpen, by simp⟩
    calc entries = entries.dropLast ++ [entries.getLast whole] :=
          (List.dropLast_append_getLast whole).symm
      _ = before ++ entry :: (after ++ [entries.getLast whole]) := by rw [split]; simp
  · rintro ⟨before, after, rfl, isOpen, follows⟩
    refine ⟨?_, isOpen⟩
    rw [List.dropLast_append_of_ne_nil (List.cons_ne_nil _ _),
      List.dropLast_cons_of_ne_nil follows]
    exact List.mem_append_right before List.mem_cons_self

/-- The first entry that applies to everything is the first hiding one, if others follow it. -/
theorem head?_hiders_of_firstOpen (opens : FirstOpen entries before entry after)
    (follows : after ≠ []) : (hiders entries).head? = some entry := by
  have closed : before.filter (fun entry => entry.rule.isUnconditional) = [] :=
    List.filter_eq_nil_iff.mpr fun earlier member unconditional =>
      opens.least earlier member (Entry.isOpen_iff.mpr unconditional)
  rw [hiders, opens.split, List.dropLast_append_of_ne_nil (List.cons_ne_nil _ _),
    List.dropLast_cons_of_ne_nil follows, List.filter_append, closed, List.nil_append,
    List.filter_cons, if_pos (Entry.isOpen_iff.mp opens.isOpen), List.head?_cons]

/-- **What is reported about a list** names its first hiding entry. -/
theorem forall₂_names_shadow? (kind : ConstraintKind) (entries : List (Entry K)) :
    List.Forall₂ (Diagnostic.Names kind) ((hiders entries).take 1)
      (shadow? kind entries).toList := by
  rw [List.take_one]
  cases reported : shadow? kind entries with
  | some diagnostic =>
    obtain ⟨before, entry, after, opens, follows, rfl⟩ := shadow?_eq_some_iff.mp reported
    rw [head?_hiders_of_firstOpen opens follows]
    exact .cons ⟨rfl, rfl, after.length, rfl⟩ .nil
  | none =>
    have none : hiders entries = [] := by
      refine List.eq_nil_iff_forall_not_mem.mpr fun entry member => ?_
      obtain ⟨before, after, rfl, isOpen, follows⟩ := mem_hiders_iff.mp member
      obtain ⟨earlier, first, later, opens, more⟩ := exists_firstOpen_of_follows isOpen follows
      rw [shadow?_eq_some_iff.mpr ⟨earlier, first, later, opens, more, rfl⟩] at reported
      cases reported
    rw [none]
    exact .nil

end Lists

/-! ### Catalogs -/

section Catalogs

variable (rules : List (Rule K)) (requested : List ConstraintKind) (kind : ConstraintKind)

theorem listed_build :
    (build rules requested).listed kind =
      if kind ∈ requested then entriesOf rules kind else [] := by
  rw [listed, lookup_build]
  by_cases asked : kind ∈ requested
  · rw [if_pos asked, if_pos asked, Option.getD_some]
  · rw [if_neg asked, if_neg asked, Option.getD_none]

/-- **What a catalog reports about a kind** is what is reported about its entries. -/
theorem noticesAbout_build :
    (build rules requested).noticesAbout kind =
      (shadow? kind ((build rules requested).listed kind)).toList := by
  have single : ((build rules requested).noticesAbout kind).Pairwise fun _ _ => False := by
    refine List.pairwise_filter.mpr ((pairwise_shadowing_build rules requested kind).imp ?_)
    exact fun apart first second => apart ⟨by simpa using first, by simpa using second⟩
  have member (diagnostic : Diagnostic) :
      diagnostic ∈ (build rules requested).noticesAbout kind ↔
        shadow? kind ((build rules requested).listed kind) = some diagnostic := by
    rw [mem_noticesAbout_iff, mem_shadowing_build_iff, listed_build]
    by_cases asked : kind ∈ requested
    · simp [asked]
    · simp [asked, shadow?]
  cases reported : shadow? kind ((build rules requested).listed kind) with
  | none =>
    refine List.eq_nil_iff_forall_not_mem.mpr fun diagnostic here => ?_
    rw [member, reported] at here
    cases here
  | some diagnostic =>
    have here := (member diagnostic).mpr reported
    generalize (build rules requested).noticesAbout kind = notices at single here
    cases notices with
    | nil => cases here
    | cons first others =>
      cases others with
      | nil => rw [List.mem_singleton.mp here, Option.toList_some]
      | cons second others => exact (List.rel_of_pairwise_cons single List.mem_cons_self).elim

/-- **Only the first hiding entry is reported.** About each kind a catalog reports one piece of
information for the first entry of the kind that has neither a condition nor a filter and comes
before another one, naming its rule, and none for the other entries of this sort. So there is one
for each of them exactly if there are not two. -/
theorem first_hider_is_reported :
    List.Forall₂ (Diagnostic.Names kind)
      ((hiders ((build rules requested).listed kind)).take 1)
      ((build rules requested).noticesAbout kind) ∧
    (List.Forall₂ (Diagnostic.Names kind) (hiders ((build rules requested).listed kind))
        ((build rules requested).noticesAbout kind) ↔
      (hiders ((build rules requested).listed kind)).length ≤ 1) := by
  have first := forall₂_names_shadow? kind ((build rules requested).listed kind)
  rw [← noticesAbout_build] at first
  refine ⟨first, fun every => ?_, fun few => ?_⟩
  · rw [every.length_eq, ← first.length_eq]
    exact List.length_take_le _ _
  · rwa [List.take_of_length_le few] at first

end Catalogs

/-- A rule without condition and filter, and its clearance. -/
def wideEntry (name : String) (priority : Nat) : Entry Float :=
  let clearance : Constraint Float := ⟨.clearance, .bound (.atLeast 1.0), name, priority⟩
  { rule := { name, priority, constraints := [clearance] }, constraint := clearance }

/-- Three rules without conditions and filters, each with a clearance. -/
def threeWide : List (Rule Float) :=
  [(wideEntry "a" 0).rule, (wideEntry "b" 1).rule, (wideEntry "c" 2).rule]

/-- **A later hiding entry is not reported.** The second rule comes before the third one just as the
first does, but no diagnostic names it. -/
theorem later_hider_is_not_reported :
    ¬ ∀ entry ∈ hiders ((build threeWide [.clearance]).listed .clearance),
        ∃ diagnostic ∈ (build threeWide [.clearance]).shadowing,
          diagnostic.Names .clearance entry := by
  intro every
  have second : wideEntry "b" 1 ∈ hiders ((build threeWide [.clearance]).listed .clearance) := by
    decide +kernel
  obtain ⟨diagnostic, reported, names⟩ := every _ second
  have first : ∀ diagnostic ∈ (build threeWide [.clearance]).shadowing,
      diagnostic.rule = some "a" := by
    decide +kernel
  have same : some "b" = some "a" := names.rule.symm.trans (first diagnostic reported)
  exact absurd same (by decide)

end Catalog

end DesignRules

/-
**Entries that no search reaches.**

An entry whose rule has neither a condition nor a filter applies to everything, so a search that
comes to it stops there. The first such entry of a kind hides all entries of the kind after it, and
that is what a catalog reports.

* `Entry.IsOpen`, `FirstOpen`: entries that apply to everything, and the first of a list.
* `shadow?_eq_some_iff`: what is reported about a list.
* `Diagnostic.IsAbout`, `Diagnostic.IsAbout.kind_eq`: the kind that a message names.
* `FirstOpen.exists_found`: where a search stops.
* `hidden_entries_are_unreachable`: what a catalog reports as hidden is never found.
-/

import DesignRules.Proofs.Catalog.FirstMatch
import Mathlib.Data.List.TakeWhile

namespace DesignRules

open Condition (Context)

variable {K : Type}

/-! ### Entries that apply to everything -/

/-- Whether the rule of an entry has neither a condition nor a filter. -/
def Entry.IsOpen (entry : Entry K) : Prop :=
  entry.rule.condition = none ∧ entry.rule.layer = none

theorem Entry.isOpen_iff {entry : Entry K} :
    entry.IsOpen ↔ entry.rule.isUnconditional = true := by
  simp [Entry.IsOpen, Rule.isUnconditional]

theorem Entry.IsOpen.applies [Scalar K] {entry : Entry K} (isOpen : entry.IsOpen)
    (context : Context K) : entry.applies context = true := by
  obtain ⟨unconditional, unfiltered⟩ := isOpen
  refine applies_iff.mpr ⟨?_, fun code conditional => ?_⟩
  · unfold Rule.admitsLayer
    rw [unfiltered]
  · rw [unconditional] at conditional
    cases conditional

/-- **The first entry that applies to everything**, with those before it and after it. -/
structure FirstOpen (entries before : List (Entry K)) (entry : Entry K) (after : List (Entry K)) :
    Prop where
  split : entries = before ++ entry :: after
  least : ∀ earlier ∈ before, ¬ earlier.IsOpen
  isOpen : entry.IsOpen

section Lists

variable {entries before after : List (Entry K)} {entry : Entry K}

theorem dropWhile_eq_cons_iff :
    (entries.dropWhile fun entry => !entry.rule.isUnconditional) = entry :: after ↔
      ∃ before, FirstOpen entries before entry after := by
  constructor
  · intro left
    have parts := List.takeWhile_append_dropWhile
      (p := fun entry : Entry K => !entry.rule.isUnconditional) (l := entries)
    have stops := List.head?_dropWhile_not
      (fun entry : Entry K => !entry.rule.isUnconditional) entries
    rw [left] at parts stops
    refine ⟨_, parts.symm, fun earlier member isOpen => ?_, Entry.isOpen_iff.mpr ?_⟩
    · have closed := List.mem_takeWhile_imp member
      rw [Entry.isOpen_iff.mp isOpen] at closed
      cases closed
    · simpa using stops
  · rintro ⟨before, rfl, least, isOpen⟩
    rw [List.dropWhile_append_of_pos, List.dropWhile_cons_of_neg]
    · simp [Entry.isOpen_iff.mp isOpen]
    · intro earlier member
      simpa [Entry.isOpen_iff] using least earlier member

/-- A list with an entry that applies to everything has a first one. -/
theorem exists_firstOpen (isOpen : entry.IsOpen) (member : entry ∈ entries) :
    ∃ before first after, FirstOpen entries before first after := by
  cases left : entries.dropWhile fun entry => !entry.rule.isUnconditional with
  | nil =>
    have closed := List.dropWhile_eq_nil_iff.mp left entry member
    rw [Entry.isOpen_iff.mp isOpen] at closed
    cases closed
  | cons first after =>
    obtain ⟨before, opens⟩ := dropWhile_eq_cons_iff.mp left
    exact ⟨before, first, after, opens⟩

/-- If others follow an entry that applies to everything, others follow the first one. -/
theorem exists_firstOpen_of_follows (isOpen : entry.IsOpen) (follows : after ≠ []) :
    ∃ earlier first later,
      FirstOpen (before ++ entry :: after) earlier first later ∧ later ≠ [] := by
  obtain ⟨earlier, first, later, opens⟩ :=
    exists_firstOpen isOpen (List.mem_append_right before List.mem_cons_self)
  refine ⟨earlier, first, later, opens, ?_⟩
  rintro rfl
  -- otherwise the entry is among those before the first
  obtain ⟨inner, last, rfl⟩ := (List.eq_nil_or_concat' after).resolve_left follows
  have same : (before ++ entry :: inner) ++ [last] = earlier ++ [first] := by
    rw [← opens.split, List.append_assoc]
    rfl
  obtain ⟨rfl, -⟩ := List.append_inj' same rfl
  exact opens.least entry (List.mem_append_right before List.mem_cons_self) isOpen

/-! ### What is reported -/

namespace Catalog

/-- **What is reported about the entries of a kind.** -/
theorem shadow?_eq_some_iff {kind : ConstraintKind} {diagnostic : Diagnostic} :
    shadow? kind entries = some diagnostic ↔
      ∃ before entry after, FirstOpen entries before entry after ∧ after ≠ [] ∧
        ⟨.info, some entry.rule.line, some entry.rule.name, shadowMessage kind after.length⟩ =
          diagnostic := by
  constructor
  · intro reported
    unfold shadow? at reported
    cases left : entries.dropWhile fun entry => !entry.rule.isUnconditional with
    | nil =>
      rw [left] at reported
      cases reported
    | cons entry after =>
      rw [left] at reported
      obtain ⟨before, opens⟩ := dropWhile_eq_cons_iff.mp left
      cases after with
      | nil => cases reported
      | cons next after =>
        exact ⟨before, entry, _, opens, List.cons_ne_nil _ _, Option.some.inj reported⟩
  · rintro ⟨before, entry, after, opens, follows, rfl⟩
    rw [shadow?, dropWhile_eq_cons_iff.mpr ⟨before, opens⟩]
    cases after with
    | nil => exact absurd rfl follows
    | cons next after => rfl

end Catalog

/-! ### Where a search stops -/

/-- **A search stops at the first entry that applies to everything**, or before it. -/
theorem FirstOpen.exists_found [Scalar K] (opens : FirstOpen entries before entry after)
    (context : Context K) :
    ∃ passed found others, before ++ [entry] = passed ++ found :: others ∧
      (∀ skipped ∈ passed, skipped.applies context = false) ∧ found.applies context = true ∧
        entries.find? (fun entry => entry.applies context) = some found := by
  have stops : ((before ++ [entry]).find? fun entry => entry.applies context).isSome = true := by
    refine List.find?_isSome.mpr ⟨entry, by simp, opens.isOpen.applies context⟩
  obtain ⟨found, here⟩ := Option.isSome_iff_exists.mp stops
  obtain ⟨applies, passed, others, split, skips⟩ := List.find?_eq_some_iff_append.mp here
  refine ⟨passed, found, others, split, fun skipped member => ?_, applies, ?_⟩
  · simpa using skips skipped member
  · rw [opens.split, List.append_cons, List.find?_append, here]
    rfl

end Lists

/-! ### The kinds of messages -/

/-- Whether a diagnostic tells how many constraints of a kind are hidden. -/
def Diagnostic.IsAbout (kind : ConstraintKind) (diagnostic : Diagnostic) : Prop :=
  ∃ hidden, diagnostic.message = Catalog.shadowMessage kind hidden

/-- Where the keyword of a kind stands in a message. -/
theorem exists_shadowMessage_eq (kind : ConstraintKind) (hidden : Nat) :
    ∃ rest, Catalog.shadowMessage kind hidden = "unconditional " ++ (kind.keyword ++ rest) := by
  unfold Catalog.shadowMessage
  generalize toString hidden = number
  generalize kind.keyword = word
  simp only [String.append_assoc]
  exact ⟨_, rfl⟩

/-- A message is about one kind, which the first letter of its keyword tells. -/
theorem Diagnostic.IsAbout.kind_eq {kind other : ConstraintKind} {diagnostic : Diagnostic}
    (about : diagnostic.IsAbout kind) (again : diagnostic.IsAbout other) : kind = other := by
  obtain ⟨hidden, message⟩ := about
  obtain ⟨count, same⟩ := again
  obtain ⟨rest, spelled⟩ := exists_shadowMessage_eq kind hidden
  obtain ⟨rest', spelled'⟩ := exists_shadowMessage_eq other count
  rw [← message, same, spelled'] at spelled
  have letters := congrArg String.toList spelled
  simp only [String.toList_append] at letters
  have worded (kind : ConstraintKind) : kind.keyword.toList ≠ [] := by cases kind <;> decide
  have letter := congrArg List.head? (List.append_cancel_left letters)
  rw [List.head?_append_of_ne_nil _ (worded other), List.head?_append_of_ne_nil _ (worded kind)]
    at letter
  revert letter
  cases kind <;> cases other <;> decide

/-! ### Catalogs -/

section Catalogs

variable (rules : List (Rule K)) (requested : List ConstraintKind)

/-- What a catalog reports, kind by kind. -/
theorem shadowing_build :
    (Catalog.build rules requested).shadowing =
      (ConstraintKind.all.filter requested.contains).filterMap fun kind =>
        Catalog.shadow? kind (Catalog.entriesOf rules kind) := by
  rw [Catalog.shadowing, Catalog.build, List.filterMap_map]
  rfl

theorem isAbout_of_shadow? {kind : ConstraintKind} {entries : List (Entry K)}
    {diagnostic : Diagnostic} (reported : Catalog.shadow? kind entries = some diagnostic) :
    diagnostic.IsAbout kind := by
  obtain ⟨_, _, after, -, -, rfl⟩ := Catalog.shadow?_eq_some_iff.mp reported
  exact ⟨after.length, rfl⟩

/-- **What a catalog reports about a kind** is what is reported about its entries. -/
theorem mem_shadowing_build_iff {kind : ConstraintKind} {diagnostic : Diagnostic} :
    diagnostic ∈ (Catalog.build rules requested).shadowing ∧ diagnostic.IsAbout kind ↔
      kind ∈ requested ∧
        Catalog.shadow? kind (Catalog.entriesOf rules kind) = some diagnostic := by
  rw [shadowing_build, List.mem_filterMap]
  constructor
  · rintro ⟨⟨other, member, reported⟩, about⟩
    obtain rfl := about.kind_eq (isAbout_of_shadow? reported)
    exact ⟨by simpa using (List.mem_filter.mp member).2, reported⟩
  · rintro ⟨asked, reported⟩
    have listed : kind ∈ ConstraintKind.all.filter requested.contains :=
      List.mem_filter.mpr ⟨ConstraintKind.mem_all kind, by simpa using asked⟩
    exact ⟨⟨kind, listed, reported⟩, isAbout_of_shadow? reported⟩

/-- A catalog reports about each kind at most once. -/
theorem pairwise_shadowing_build (kind : ConstraintKind) :
    (Catalog.build rules requested).shadowing.Pairwise fun first second =>
      ¬ (first.IsAbout kind ∧ second.IsAbout kind) := by
  have distinct : ConstraintKind.all.Nodup := by decide
  rw [shadowing_build, List.pairwise_filterMap]
  refine (distinct.filter _).imp ?_
  rintro kind' other apart first reported second again ⟨about, also⟩
  exact apart ((about.kind_eq (isAbout_of_shadow? reported)).symm.trans
    (also.kind_eq (isAbout_of_shadow? again)))

/-- **Hidden entries are unreachable.** A catalog reports about a kind exactly if an entry of the
kind without condition and filter is followed by another entry, and it does so once. What it reports
names the rule and the line of the first such entry and the number of entries after it; in every
context a search for the kind finds a constraint, which is this entry or one before it. -/
theorem hidden_entries_are_unreachable [Scalar K] (kind : ConstraintKind) :
    ((∃ diagnostic ∈ (Catalog.build rules requested).shadowing, diagnostic.IsAbout kind) ↔
      ∃ before entry after,
        (Catalog.build rules requested).entries kind = .ok (before ++ entry :: after) ∧
          entry.IsOpen ∧ after ≠ []) ∧
    ((Catalog.build rules requested).shadowing.Pairwise fun first second =>
      ¬ (first.IsAbout kind ∧ second.IsAbout kind)) ∧
    ∀ diagnostic ∈ (Catalog.build rules requested).shadowing, diagnostic.IsAbout kind →
      ∃ entries before entry after, (Catalog.build rules requested).entries kind = .ok entries ∧
        FirstOpen entries before entry after ∧
        diagnostic =
          ⟨.info, some entry.rule.line, some entry.rule.name,
            Catalog.shadowMessage kind after.length⟩ ∧
        ∀ context, ∃ passed found others, before ++ [entry] = passed ++ found :: others ∧
          (∀ skipped ∈ passed, skipped.applies context = false) ∧ found.applies context = true ∧
            (Catalog.build rules requested).resolve kind context = .ok (some found) := by
  have listed {entries : List (Entry K)} :
      (Catalog.build rules requested).entries kind = .ok entries ↔
        kind ∈ requested ∧ Catalog.entriesOf rules kind = entries := by
    rw [Catalog.entries_build]
    by_cases asked : kind ∈ requested <;> simp [asked]
  refine ⟨?reported, pairwise_shadowing_build rules requested kind, ?unreachable⟩
  case reported =>
    constructor
    · rintro ⟨diagnostic, member, about⟩
      obtain ⟨asked, reported⟩ :=
        (mem_shadowing_build_iff rules requested).mp ⟨member, about⟩
      obtain ⟨before, entry, after, opens, follows, -⟩ :=
        Catalog.shadow?_eq_some_iff.mp reported
      exact ⟨before, entry, after, listed.mpr ⟨asked, opens.split⟩, opens.isOpen, follows⟩
    · rintro ⟨before, entry, after, here, isOpen, follows⟩
      obtain ⟨asked, same⟩ := listed.mp here
      obtain ⟨earlier, first, later, opens, more⟩ := exists_firstOpen_of_follows isOpen follows
      rw [← same] at opens
      obtain ⟨diagnostic, reported⟩ : ∃ diagnostic,
          Catalog.shadow? kind (Catalog.entriesOf rules kind) = some diagnostic :=
        ⟨_, Catalog.shadow?_eq_some_iff.mpr ⟨earlier, first, later, opens, more, rfl⟩⟩
      exact ⟨diagnostic, (mem_shadowing_build_iff rules requested).mpr ⟨asked, reported⟩⟩
  case unreachable =>
    intro diagnostic member about
    obtain ⟨asked, reported⟩ := (mem_shadowing_build_iff rules requested).mp ⟨member, about⟩
    obtain ⟨before, entry, after, opens, -, rfl⟩ := Catalog.shadow?_eq_some_iff.mp reported
    refine ⟨_, before, entry, after, listed.mpr ⟨asked, rfl⟩, opens, rfl, fun context => ?_⟩
    obtain ⟨passed, found, others, split, skips, applies, stops⟩ := opens.exists_found context
    refine ⟨passed, found, others, split, skips, applies, ?_⟩
    rw [Catalog.resolve, listed.mpr ⟨asked, rfl⟩, Except.map, stops]

end Catalogs

/-- The first of two constraints in a rule hides the second one. -/
theorem hidden_entries_are_unreachable_of_wide :
    (Catalog.build retiredAndWide [.clearance]).shadowing =
      [⟨.info, some 0, some "wide",
        "unconditional clearance constraint shadows 1 later clearance entr(ies)"⟩] ∧
    ∀ context, ∃ found,
      (Catalog.build retiredAndWide [.clearance]).resolve .clearance context =
        .ok (some found) := by
  have shadowing : (Catalog.build retiredAndWide [.clearance]).shadowing =
      [⟨.info, some 0, some "wide",
        "unconditional clearance constraint shadows 1 later clearance entr(ies)"⟩] := by
    decide +kernel
  obtain ⟨-, -, unreachable⟩ :=
    hidden_entries_are_unreachable retiredAndWide [.clearance] .clearance
  obtain ⟨_, _, _, _, -, -, -, searches⟩ :=
    unreachable _ (shadowing ▸ List.mem_singleton_self _) ⟨1, by decide +kernel⟩
  refine ⟨shadowing, fun context => ?_⟩
  obtain ⟨_, found, _, -, -, -, resolved⟩ := searches context
  exact ⟨found, resolved⟩

end DesignRules

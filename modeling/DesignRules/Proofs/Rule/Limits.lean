/-
**What the parts of a constraint clause say.**

Each part of a bound gives a limit, and the last one with a word counts. So nothing is lost if the
surplus of the parts is left out.

* `IsLimit`, `Bound.declare`, `foldlM_add_eq_ok_iff`: the parts of a bound, all at once.
* `demandOfParts`, `exists_parts`: the parts of a constraint clause.
* `demandOf_condensedClause`: a constraint clause without its surplus.
-/

import DesignRules.Proofs.Results
import DesignRules.Proofs.Rule.Condensed

namespace DesignRules

open RuleText (Form)
open RuleText.Form

/-! ### Bounds -/

section Bounds

variable {K : Type} [Scalar K] {kind : ConstraintKind} {part : Form} {parts : List Form}
  {before after : Bound K}

/-- The limit that a part of a bound gives, if it begins with a word. -/
def limitOf? (kind : ConstraintKind) (word : String) (part : Form) : Option K :=
  if part.head? = some word then
    part.argument?.bind fun text => (limitValue kind text).toOption
  else none

theorem limitOf?_eq_some_iff {word : String} {limit : K} :
    limitOf? kind word part = some limit ↔
      part.head? = some word ∧ ∃ text, part.argument? = some text ∧
        limitValue kind text = .ok limit := by
  unfold limitOf?
  split
  · rename_i head
    simp only [head, true_and, Option.bind_eq_some_iff, toOption_eq_some_iff]
  · rename_i other
    exact ⟨nofun, fun given => absurd given.1 other⟩

variable (K) in
/-- Whether a part of a bound gives a limit. -/
def IsLimit (kind : ConstraintKind) (part : Form) : Prop :=
  ∃ word ∈ limitWords, ∃ limit : K, limitOf? kind word part = some limit

/-- A bound with the limits that some parts give. -/
def Bound.declare (kind : ConstraintKind) (bound : Bound K) (parts : List Form) : Bound K where
  min := (parts.filterMap (limitOf? kind "min")).getLast?.or bound.min
  opt := (parts.filterMap (limitOf? kind "opt")).getLast?.or bound.opt
  max := (parts.filterMap (limitOf? kind "max")).getLast?.or bound.max

theorem Bound.declare_append (front back : List Form) :
    (before.declare kind front).declare kind back = before.declare kind (front ++ back) := by
  simp only [declare, List.filterMap_append, List.getLast?_append, Option.or_assoc]

/-- A part that gives a limit is taken into the bound. -/
theorem add_of_isLimit (gives : IsLimit K kind part) :
    Bound.add kind before part = .ok (before.declare kind [part]) := by
  obtain ⟨word, listed, limit, given⟩ := gives
  obtain ⟨head, text, written, valued⟩ := limitOf?_eq_some_iff.mp given
  have none {other : String} (different : word ≠ other) :
      (limitOf? kind other part : Option K) = none :=
    if_neg fun same => different (Option.some.inj (head.symm.trans same))
  have set : Bound.add kind before part = before.set kind word limit := by
    rw [Bound.add, head, written]
    exact congrArg (· >>= before.set kind word) valued
  simp only [limitWords, List.mem_cons, List.not_mem_nil, or_false] at listed
  rcases listed with rfl | rfl | rfl
  · rw [set]
    simp [Bound.set, Bound.declare, given, none]
  · rw [set]
    simp [Bound.set, Bound.declare, given, none]
  · rw [set]
    simp [Bound.set, Bound.declare, given, none]

/-- A part that is taken into a bound gives a limit. -/
theorem isLimit_of_add (added : Bound.add kind before part = .ok after) : IsLimit K kind part := by
  unfold Bound.add at added
  split at added
  · cases added
  rename_i word head
  split at added
  · cases added
  rename_i text written
  obtain ⟨limit, valued, set⟩ := bind_eq_ok_iff.mp added
  refine ⟨word, ?_, limit, limitOf?_eq_some_iff.mpr ⟨head, text, written, valued⟩⟩
  unfold Bound.set at set
  split at set
  · decide
  · decide
  · decide
  · cases set

/-- **The parts of a bound** are read if each gives a limit; the last of each word counts. -/
theorem foldlM_add_eq_ok_iff :
    parts.foldlM (Bound.add kind) before = .ok after ↔
      (∀ part ∈ parts, IsLimit K kind part) ∧ after = before.declare kind parts := by
  induction parts generalizing before with
  | nil =>
    have same : before.declare kind [] = before := by simp [Bound.declare]
    rw [same]
    exact ⟨fun read => ⟨fun _ => nofun, (Except.ok.inj read).symm⟩, fun read => read.2 ▸ rfl⟩
  | cons part parts ih =>
    rw [List.foldlM_cons, bind_eq_ok_iff, List.forall_mem_cons]
    constructor
    · rintro ⟨middle, added, rest⟩
      have gives := isLimit_of_add added
      obtain rfl := Except.ok.inj ((add_of_isLimit gives).symm.trans added)
      obtain ⟨others, rfl⟩ := ih.mp rest
      exact ⟨⟨gives, others⟩, Bound.declare_append [part] parts⟩
    · rintro ⟨⟨gives, others⟩, rfl⟩
      exact ⟨_, add_of_isLimit gives, ih.mpr ⟨others, (Bound.declare_append [part] parts).symm⟩⟩

/-- A limit does not depend on what follows the first argument of a part. -/
theorem limitOf?_trimmed (word : String) :
    (limitOf? kind word part.trimmed : Option K) = limitOf? kind word part := by
  unfold limitOf?
  rw [head?_trimmed]
  split
  · rename_i head
    rw [argument?_trimmed head]
  · rfl

theorem isLimit_trimmed (gives : IsLimit K kind part) : IsLimit K kind part.trimmed := by
  obtain ⟨word, listed, limit, given⟩ := gives
  exact ⟨word, listed, limit, (limitOf?_trimmed word).trans given⟩

/-- A part that begins with a word gives its limit for that word. -/
theorem isSome_limitOf? {word : String} (gives : IsLimit K kind part)
    (head : part.head? = some word) : (limitOf? kind word part : Option K).isSome := by
  obtain ⟨other, -, limit, given⟩ := gives
  obtain rfl : other = word :=
    Option.some.inj ((limitOf?_eq_some_iff.mp given).1.symm.trans head)
  exact Option.isSome_iff_exists.mpr ⟨limit, given⟩

/-- The limits of a bound stay if its parts are condensed. -/
theorem Bound.declare_current (gives : ∀ part ∈ parts, IsLimit K kind part) :
    before.declare kind (current (parts.map trimmed)) = before.declare kind parts := by
  have last (word : String) :
      ((current (parts.map trimmed)).filterMap (limitOf? kind word : Form → Option K)).getLast? =
        (parts.filterMap (limitOf? kind word)).getLast? := by
    refine getLast?_current_map word head?_trimmed (fun part => limitOf?_trimmed word)
      (fun part given => ?_) (List.pairwise_of_forall_mem_list fun _ _ later listed _ head => ?_)
    · obtain ⟨limit, given⟩ := Option.isSome_iff_exists.mp given
      exact (limitOf?_eq_some_iff.mp given).1
    · exact isSome_limitOf? (gives later listed) head
  simp only [Bound.declare, last]

end Bounds

/-! ### Constraints -/

section Constraints

variable {K : Type} [Scalar K] {kind : ConstraintKind} {clause : Form} {parts : List Form}
  {demand : Demand K}

/-- The demand of the parts of a constraint. -/
def demandOfParts (kind : ConstraintKind) (parts : List Form) :
    Except ConstraintFault (Demand K) :=
  if kind.isCategorical then categoryDemand kind parts else boundDemand kind parts

theorem demandOf_eq {word : String} {quoted : Bool} {line : Nat}
    (arguments : clause.arguments = .atom word quoted line :: parts)
    (known : ConstraintKind.ofKeyword? word = some kind) :
    (demandOf clause : Except ConstraintFault (ConstraintKind × Demand K)) =
      (demandOfParts kind parts).map (Prod.mk kind) := by
  have written : clause.argument? = some word := by
    rw [Form.argument?, arguments]
    rfl
  have named : kindOf clause = .ok kind := by
    rw [kindOf, written]
    dsimp only
    rw [known]
  rw [demandOf, named, arguments, demandOfParts]
  show (if kind.isCategorical = true then
      categoryDemand kind parts >>= fun demand => pure (kind, demand)
    else boundDemand kind parts >>= fun demand => pure (kind, demand)) = _
  split
  · cases (categoryDemand kind parts : Except ConstraintFault (Demand K)) <;> rfl
  · cases (boundDemand kind parts : Except ConstraintFault (Demand K)) <;> rfl

theorem exists_parts (demanded : demandOf clause = .ok (kind, demand)) :
    ∃ word quoted line parts, clause.arguments = .atom word quoted line :: parts ∧
      ConstraintKind.ofKeyword? word = some kind ∧ demandOfParts kind parts = .ok demand := by
  obtain ⟨found, named, rest⟩ := bind_eq_ok_iff.mp demanded
  unfold kindOf at named
  split at named
  · cases named
  rename_i word written
  obtain ⟨quoted, line, parts, arguments⟩ := exists_first written
  split at named
  · rename_i other known
    obtain rfl : other = found := Except.ok.inj named
    rw [demandOf_eq arguments known] at demanded
    obtain ⟨read, given, same⟩ := map_eq_ok_iff.mp demanded
    obtain ⟨rfl, rfl⟩ := Prod.mk.inj same
    exact ⟨word, quoted, line, parts, arguments, known, given⟩
  · cases named

omit [Scalar K] in
theorem atoms_of_categoryDemand (demanded : categoryDemand kind parts = .ok demand) :
    ∀ part ∈ parts, ∃ text, part.atom? = some text := by
  obtain ⟨words, spelled, -⟩ := bind_eq_ok_iff.mp demanded
  intro part listed
  obtain ⟨word, read⟩ := exists_of_mapM_eq_ok spelled part listed
  unfold keywordOf at read
  split at read
  · cases read
  · rename_i text written
    exact ⟨text, written⟩

theorem limits_of_boundDemand (demanded : boundDemand kind parts = .ok demand) :
    ∀ part ∈ parts, IsLimit K kind part := by
  obtain ⟨bound, folded, -⟩ := bind_eq_ok_iff.mp demanded
  exact (foldlM_add_eq_ok_iff.mp folded).1

/-- A part of a constraint is an atom or gives a limit. -/
theorem atom_or_isLimit (demanded : demandOfParts kind parts = .ok demand) :
    ∀ part ∈ parts, (∃ text, part.atom? = some text) ∨ IsLimit K kind part := by
  intro part listed
  unfold demandOfParts at demanded
  split at demanded
  · exact .inl (atoms_of_categoryDemand demanded part listed)
  · exact .inr (limits_of_boundDemand demanded part listed)

/-- The parts of a bound without their surplus give the same limits. -/
theorem foldlM_current {bound : Bound K}
    (folded : parts.foldlM (Bound.add kind) {} = .ok bound) :
    (current (parts.map trimmed)).foldlM (Bound.add kind) {} = .ok bound := by
  obtain ⟨gives, rfl⟩ := foldlM_add_eq_ok_iff.mp folded
  refine foldlM_add_eq_ok_iff.mpr ⟨fun part left => ?_, (Bound.declare_current gives).symm⟩
  obtain ⟨other, listed, rfl⟩ := List.mem_map.mp ((current_sublist _).subset left)
  exact isLimit_trimmed (gives other listed)

/-- **The demand of a constraint** stays if the surplus of its parts is left out. -/
theorem demandOfParts_current (demanded : demandOfParts kind parts = .ok demand) :
    demandOfParts kind (current (parts.map trimmed)) = .ok demand := by
  unfold demandOfParts at demanded ⊢
  split at demanded
  · rename_i categorical
    rw [if_pos categorical, current_of_atoms (atoms_of_categoryDemand demanded)]
    exact demanded
  · rename_i other
    obtain ⟨bound, folded, returned⟩ := bind_eq_ok_iff.mp demanded
    rw [if_neg other]
    exact bind_eq_ok_iff.mpr ⟨bound, foldlM_current folded, returned⟩

/-- **A constraint clause** says the same without its surplus. -/
theorem demandOf_condensedClause (head : clause.head? = some "constraint")
    (demanded : demandOf clause = .ok (kind, demand)) :
    demandOf clause.condensedClause = .ok (kind, demand) := by
  obtain ⟨word, quoted, line, parts, arguments, known, given⟩ := exists_parts demanded
  have left := arguments_condensedClause head arguments
  rw [demandOf_eq left known, demandOfParts_current given]
  rfl

end Constraints

end DesignRules

/-
**Rules without their surplus.**

Of a clause only the first arguments are read, and of several clauses with the same head, but for
constraints, only the last one counts; so do the parts of a bound. The rest is surplus.

* `Form.current`: the forms that no later one replaces.
* `Form.trimmed`, `Form.condensedClause`, `Form.condensed`: a part, a clause and a rule without
  surplus.
* `Form.IsUsedInFull`: rules that have none.
* `filterMap_current`, `getLast?_current_map`, `any_current`: what can be told from the forms that
  are left.
-/

import DesignRules.Proofs.Rule.Clauses
import Mathlib.Data.List.Basic
import Mathlib.Data.List.Pairwise

namespace DesignRules

/-! ### Forms without surplus -/

namespace RuleText.Form

/-- A list with other arguments. -/
def withArguments (form : Form) (arguments : List Form) : Form :=
  match form with
  | .list (first :: _) line => .list (first :: arguments) line
  | form => form

/-- Whether a later form stands in the place of an earlier one. -/
def isReplacedBy (earlier later : Form) : Bool :=
  earlier.head?.isSome && earlier.head? != some "constraint" && later.head? == earlier.head?

/-- The forms of a list that no later one replaces. -/
def current : List Form → List Form
  | [] => []
  | form :: forms =>
    if forms.any form.isReplacedBy then current forms else form :: current forms

/-- A form with its first argument only. -/
def trimmed (form : Form) : Form := form.withArguments (form.arguments.take 1)

/-- A clause with what is read of it. -/
def condensedClause (clause : Form) : Form :=
  match clause.head? with
  | some "constraint" =>
    clause.withArguments
      (clause.arguments.take 1 ++ current ((clause.arguments.drop 1).map trimmed))
  | some "disabled" => clause.withArguments []
  | _ => clause.trimmed

/-- **A rule with what is read of it.** -/
def condensed (form : Form) : Form :=
  if form.isRule then
    form.withArguments
      (form.arguments.take 1 ++ current ((form.arguments.drop 1).map condensedClause))
  else form

/-- Whether a form has one argument, which is an atom. -/
def HasOneAtom (form : Form) : Prop :=
  ∃ text quoted line, form.arguments = [.atom text quoted line]

/-- The words with which the parts of a bound begin. -/
def limitWords : List String := ["min", "opt", "max"]

/-- Whether a clause has no argument that is not read: conditions, layers and severities have one
atom each, so has each part of a bound, which is no part twice, and `disabled` has nothing. -/
structure ClauseIsUsedInFull (clause : Form) : Prop where
  single : ∀ word ∈ ["condition", "layer", "severity"], clause.head? = some word →
    clause.HasOneAtom
  parts : clause.head? = some "constraint" →
    (∀ part ∈ clause.arguments, ∀ word ∈ limitWords, part.head? = some word → part.HasOneAtom) ∧
      clause.arguments.Pairwise fun earlier later => earlier.isReplacedBy later = false
  bare : clause.head? = some "disabled" → clause.arguments = []

/-- **Whether a rule has no part that is not read**: its clauses are used in full and no word but
`constraint` begins two of them. -/
structure IsUsedInFull (form : Form) : Prop where
  clauses : ∀ clause ∈ form.clauses, clause.ClauseIsUsedInFull
  once : form.clauses.Pairwise fun earlier later => earlier.isReplacedBy later = false

section Arguments

variable {form : Form} {word : String} {forms : List Form}

theorem line_withArguments (form : Form) (forms : List Form) :
    (form.withArguments forms).line = form.line := by
  unfold withArguments
  split <;> rfl

theorem head?_withArguments (form : Form) (forms : List Form) :
    (form.withArguments forms).head? = form.head? := by
  unfold withArguments
  split
  · rename_i first rest line
    cases first with
    | atom text quoted line => cases quoted <;> rfl
    | list items line => rfl
  · rfl

theorem arguments_withArguments (head : form.head? = some word) (forms : List Form) :
    (form.withArguments forms).arguments = forms := by
  unfold withArguments
  split
  · rfl
  · rename_i empty
    cases form with
    | atom text quoted line => cases head
    | list items line =>
      cases items with
      | nil => cases head
      | cons first rest => exact absurd rfl (empty first rest line)

theorem withArguments_arguments (form : Form) : form.withArguments form.arguments = form := by
  unfold withArguments
  split <;> rfl

theorem exists_first (written : form.argument? = some word) :
    ∃ quoted line rest, form.arguments = .atom word quoted line :: rest := by
  obtain ⟨first, begins, text⟩ := Option.bind_eq_some_iff.mp written
  obtain ⟨rest, arguments⟩ := List.head?_eq_some_iff.mp begins
  cases first with
  | atom other quoted line =>
    obtain rfl : other = word := Option.some.inj text
    exact ⟨quoted, line, rest, arguments⟩
  | list items line => cases text

theorem head?_trimmed (form : Form) : form.trimmed.head? = form.head? := head?_withArguments _ _

theorem argument?_trimmed (head : form.head? = some word) :
    form.trimmed.argument? = form.argument? := by
  rw [argument?, argument?, trimmed, arguments_withArguments head]
  cases form.arguments <;> rfl

theorem hasOneAtom_trimmed {text : String} (head : form.head? = some word)
    (written : form.argument? = some text) : form.trimmed.HasOneAtom := by
  obtain ⟨quoted, line, rest, arguments⟩ := exists_first written
  refine ⟨text, quoted, line, ?_⟩
  rw [trimmed, arguments_withArguments head, arguments]
  rfl

theorem trimmed_of_hasOneAtom (one : form.HasOneAtom) : form.trimmed = form := by
  obtain ⟨text, quoted, line, arguments⟩ := one
  have all : form.arguments.take 1 = form.arguments := by rw [arguments]; rfl
  rw [trimmed, all, withArguments_arguments]

theorem head?_of_atom {text : String} (written : form.atom? = some text) :
    form.head? = none := by
  cases form with
  | atom text quoted line => rfl
  | list items line => cases written

theorem trimmed_of_atom {text : String} (written : form.atom? = some text) :
    form.trimmed = form := by
  cases form with
  | atom text quoted line => rfl
  | list items line => cases written

theorem condensedClause_of_constraint (head : form.head? = some "constraint") :
    form.condensedClause = form.withArguments
      (form.arguments.take 1 ++ current ((form.arguments.drop 1).map trimmed)) := by
  simp only [condensedClause, head]

theorem arguments_condensedClause (head : form.head? = some "constraint") {first : Form}
    (arguments : form.arguments = first :: forms) :
    form.condensedClause.arguments = first :: current (forms.map trimmed) := by
  rw [condensedClause_of_constraint head, arguments_withArguments head, arguments]
  rfl

theorem condensedClause_of_disabled (head : form.head? = some "disabled") :
    form.condensedClause = form.withArguments [] := by
  simp only [condensedClause, head]

theorem condensedClause_of_other (head : form.head? = some word)
    (noConstraint : word ≠ "constraint") (notDisabled : word ≠ "disabled") :
    form.condensedClause = form.trimmed := by
  unfold condensedClause
  split
  · rename_i constraint
    exact absurd (Option.some.inj (head.symm.trans constraint)) noConstraint
  · rename_i disabled
    exact absurd (Option.some.inj (head.symm.trans disabled)) notDisabled
  · rfl

theorem head?_condensedClause (clause : Form) : clause.condensedClause.head? = clause.head? := by
  unfold condensedClause
  split
  · exact head?_withArguments _ _
  · exact head?_withArguments _ _
  · exact head?_trimmed _

end Arguments

/-! ### Forms that no later one replaces -/

section Current

variable {form : Form} {forms : List Form}

theorem isReplacedBy_iff {earlier later : Form} :
    earlier.isReplacedBy later = true ↔
      ∃ word, word ≠ "constraint" ∧ earlier.head? = some word ∧ later.head? = some word := by
  unfold isReplacedBy
  cases earlier.head? with
  | none => simp
  | some word =>
    simp only [Option.isSome_some, Bool.true_and, Bool.and_eq_true, bne_iff_ne, ne_eq,
      Option.some.injEq, beq_iff_eq]
    constructor
    · exact fun replaced => ⟨word, replaced.1, rfl, replaced.2⟩
    · rintro ⟨_, other, rfl, head⟩
      exact ⟨other, head⟩

theorem current_cons_of_replaced (replaced : forms.any form.isReplacedBy = true) :
    current (form :: forms) = current forms := if_pos replaced

theorem current_cons_of_last (last : forms.any form.isReplacedBy = false) :
    current (form :: forms) = form :: current forms := if_neg (ne_true_of_eq_false last)

theorem current_sublist (forms : List Form) : (current forms).Sublist forms := by
  induction forms with
  | nil => exact .slnil
  | cons form forms ih =>
    cases replaced : forms.any form.isReplacedBy with
    | true =>
      rw [current_cons_of_replaced replaced]
      exact ih.cons form
    | false =>
      rw [current_cons_of_last replaced]
      exact ih.cons_cons form

/-- None of the forms that are left is replaced. -/
theorem pairwise_current (forms : List Form) :
    (current forms).Pairwise fun earlier later => earlier.isReplacedBy later = false := by
  induction forms with
  | nil => exact .nil
  | cons form forms ih =>
    cases replaced : forms.any form.isReplacedBy with
    | true =>
      rw [current_cons_of_replaced replaced]
      exact ih
    | false =>
      rw [current_cons_of_last replaced, List.pairwise_cons]
      refine ⟨fun other left => eq_false_of_ne_true ?_, ih⟩
      exact List.any_eq_false.mp replaced other ((current_sublist forms).subset left)

theorem current_of_pairwise
    (once : forms.Pairwise fun earlier later => earlier.isReplacedBy later = false) :
    current forms = forms := by
  induction forms with
  | nil => rfl
  | cons form forms ih =>
    obtain ⟨alone, once⟩ := List.pairwise_cons.mp once
    have last : forms.any form.isReplacedBy = false :=
      List.any_eq_false.mpr fun other listed => ne_true_of_eq_false (alone other listed)
    rw [current_cons_of_last last, ih once]

/-- Atoms have no surplus. -/
theorem current_of_atoms (atoms : ∀ form ∈ forms, ∃ text, form.atom? = some text) :
    current (forms.map trimmed) = forms := by
  have same : forms.map trimmed = forms := by
    refine (List.map_congr_left fun form listed => ?_).trans (List.map_id forms)
    obtain ⟨text, written⟩ := atoms form listed
    exact trimmed_of_atom written
  rw [same]
  refine current_of_pairwise (List.pairwise_of_forall_mem_list fun earlier listed later _ => ?_)
  obtain ⟨text, written⟩ := atoms earlier listed
  rw [isReplacedBy, head?_of_atom written]
  rfl

variable {α : Type} {value : Form → Option α}

/-- Forms without a value can be left out. -/
theorem filterMap_current (dropped : forms.Pairwise fun earlier later =>
      earlier.isReplacedBy later = true → value earlier = none) :
    (current forms).filterMap value = forms.filterMap value := by
  induction forms with
  | nil => rfl
  | cons form forms ih =>
    obtain ⟨here, dropped⟩ := List.pairwise_cons.mp dropped
    cases replaced : forms.any form.isReplacedBy with
    | true =>
      obtain ⟨other, listed, replaces⟩ := List.any_eq_true.mp replaced
      rw [current_cons_of_replaced replaced, ih dropped, List.filterMap_cons_none]
      exact here other listed replaces
    | false =>
      rw [current_cons_of_last replaced, List.filterMap_cons, List.filterMap_cons, ih dropped]

/-- The last value stays if forms are left out that others with a value replace. -/
theorem getLast?_filterMap_current (kept : forms.Pairwise fun earlier later =>
      earlier.isReplacedBy later = true → (value earlier).isSome → (value later).isSome) :
    ((current forms).filterMap value).getLast? = (forms.filterMap value).getLast? := by
  induction forms with
  | nil => rfl
  | cons form forms ih =>
    obtain ⟨here, kept⟩ := List.pairwise_cons.mp kept
    have split (rest : List Form) : ((form :: rest).filterMap value).getLast? =
        (rest.filterMap value).getLast?.or (value form) := by
      rw [List.filterMap_cons]
      cases value form <;> simp [List.getLast?_cons]
    cases replaced : forms.any form.isReplacedBy with
    | false => rw [current_cons_of_last replaced, split, split, ih kept]
    | true =>
      obtain ⟨other, listed, replaces⟩ := List.any_eq_true.mp replaced
      rw [current_cons_of_replaced replaced, ih kept, split]
      cases given : value form with
      | none => rw [Option.or_none]
      | some found =>
        have some : (value form).isSome = true := by rw [given]; rfl
        obtain ⟨later, given⟩ := Option.isSome_iff_exists.mp (here other listed replaces some)
        have member : later ∈ forms.filterMap value := List.mem_filterMap.mpr ⟨other, listed, given⟩
        rw [List.getLast?_eq_some_getLast (List.ne_nil_of_mem member), Option.some_or]

theorem any_current {p : Form → Bool} (kept : forms.Pairwise fun earlier later =>
      earlier.isReplacedBy later = true → p earlier = true → p later = true) :
    (current forms).any p = forms.any p := by
  induction forms with
  | nil => rfl
  | cons form forms ih =>
    obtain ⟨here, kept⟩ := List.pairwise_cons.mp kept
    cases replaced : forms.any form.isReplacedBy with
    | false => rw [current_cons_of_last replaced, List.any_cons, List.any_cons, ih kept]
    | true =>
      obtain ⟨other, listed, replaces⟩ := List.any_eq_true.mp replaced
      rw [current_cons_of_replaced replaced, ih kept, List.any_cons, Bool.eq_iff_iff,
        Bool.or_eq_true, iff_or_self]
      exact fun has => List.any_eq_true.mpr ⟨other, listed, here other listed replaces has⟩

/-- Changes that keep the heads can be made before or after. -/
theorem current_map {change : Form → Form} (heads : ∀ form, (change form).head? = form.head?) :
    current (forms.map change) = (current forms).map change := by
  have same (earlier : Form) (others : List Form) :
      (others.map change).any (change earlier).isReplacedBy = others.any earlier.isReplacedBy := by
    rw [List.any_map]
    congr 1
    funext later
    simp only [Function.comp, isReplacedBy, heads]
  induction forms with
  | nil => rfl
  | cons form forms ih =>
    rw [List.map_cons]
    cases replaced : forms.any form.isReplacedBy with
    | true =>
      rw [current_cons_of_replaced ((same form forms).trans replaced),
        current_cons_of_replaced replaced, ih]
    | false =>
      rw [current_cons_of_last ((same form forms).trans replaced), current_cons_of_last replaced,
        ih, List.map_cons]

/-- Changes that keep heads and values. -/
theorem filterMap_current_map {change : Form → Form}
    (heads : ∀ form, (change form).head? = form.head?)
    (values : ∀ form ∈ forms, value (change form) = value form) :
    (current (forms.map change)).filterMap value = (current forms).filterMap value := by
  rw [current_map heads, List.filterMap_map]
  exact List.filterMap_congr fun form left => values form ((current_sublist forms).subset left)

/-- The last value of the forms with a word stays, if a form that replaces another one has a
value. -/
theorem getLast?_current_map {change : Form → Form} (word : String)
    (heads : ∀ form, (change form).head? = form.head?)
    (values : ∀ form, value (change form) = value form)
    (begins : ∀ form, (value form).isSome → form.head? = some word)
    (kept : forms.Pairwise fun earlier later =>
      earlier.head? = some word → later.head? = some word → (value later).isSome) :
    ((current (forms.map change)).filterMap value).getLast? =
      (forms.filterMap value).getLast? := by
  rw [filterMap_current_map heads fun form _ => values form]
  refine getLast?_filterMap_current (kept.imp fun {earlier later} kept replaced given => ?_)
  obtain ⟨shared, -, head, headLater⟩ := isReplacedBy_iff.mp replaced
  have first := begins earlier given
  exact kept first (headLater.trans (head.symm.trans first))

end Current

end RuleText.Form

end DesignRules

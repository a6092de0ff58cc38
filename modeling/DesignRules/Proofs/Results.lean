/-
**Chains of results.**

What a chain of steps that may fail says about its steps.

* `bind_eq_ok_iff`, `map_eq_ok_iff`: a chain succeeds exactly if each of its steps does.
* `toOption_eq_some_iff`: what is left of a result without its error.
* `map_eq_map_iff`: when two results agree in what is read off them.
* `exists_mapM_eq_ok`, `exists_of_mapM_eq_ok`, `mem_mapM_iff`: steps over a list, each of which
  succeeds.
-/

import Mathlib.Data.List.Basic

namespace DesignRules

variable {ε α β : Type}

theorem bind_eq_ok_iff {first : Except ε α} {next : α → Except ε β} {result : β} :
    (first >>= next) = .ok result ↔ ∃ middle, first = .ok middle ∧ next middle = .ok result := by
  cases first with
  | error cause => simp [bind, Except.bind]
  | ok middle => simp [bind, Except.bind]

theorem map_eq_ok_iff {first : Except ε α} {change : α → β} {result : β} :
    first.map change = .ok result ↔ ∃ middle, first = .ok middle ∧ change middle = result := by
  cases first with
  | error cause => simp [Except.map]
  | ok middle => simp [Except.map]

theorem toOption_eq_some_iff {first : Except ε α} {result : α} :
    first.toOption = some result ↔ first = .ok result := by
  cases first with
  | error cause => simp [Except.toOption]
  | ok middle => simp [Except.toOption]

theorem map_eq_map_iff {first second : Except ε α} {change : α → β} :
    first.map change = second.map change ↔
      (∃ cause, first = .error cause ∧ second = .error cause) ∨
        ∃ left right, first = .ok left ∧ second = .ok right ∧ change left = change right := by
  cases first with
  | error cause =>
    cases second with
    | error other => simp [Except.map, eq_comm]
    | ok right => simp [Except.map]
  | ok left =>
    cases second with
    | error other => simp [Except.map]
    | ok right => simp [Except.map]

theorem exists_mapM_eq_ok (step : α → Except ε β) (inputs : List α)
    (succeeds : ∀ input ∈ inputs, ∃ output, step input = .ok output) :
    ∃ outputs, inputs.mapM step = .ok outputs := by
  induction inputs with
  | nil => exact ⟨[], rfl⟩
  | cons input rest ih =>
    obtain ⟨output, first⟩ := succeeds input List.mem_cons_self
    obtain ⟨outputs, others⟩ := ih fun other member => succeeds other (List.mem_cons_of_mem _ member)
    refine ⟨output :: outputs, ?_⟩
    rw [List.mapM_cons, first, others]
    rfl

theorem exists_of_mapM_eq_ok {step : α → Except ε β} {inputs : List α} {outputs : List β}
    (succeeded : inputs.mapM step = .ok outputs) :
    ∀ input ∈ inputs, ∃ output, step input = .ok output := by
  induction inputs generalizing outputs with
  | nil => exact fun _ => nofun
  | cons input rest ih =>
    rw [List.mapM_cons] at succeeded
    obtain ⟨output, first, succeeded⟩ := bind_eq_ok_iff.mp succeeded
    obtain ⟨others, later, -⟩ := bind_eq_ok_iff.mp succeeded
    exact List.forall_mem_cons.mpr ⟨⟨output, first⟩, ih later⟩

/-- What steps over a list give is what they give at its elements. -/
theorem mem_mapM_iff {step : α → Except ε β} {inputs : List α} {outputs : List β}
    (succeeded : inputs.mapM step = .ok outputs) {output : β} :
    output ∈ outputs ↔ ∃ input ∈ inputs, step input = .ok output := by
  induction inputs generalizing outputs with
  | nil =>
    obtain rfl : [] = outputs := Except.ok.inj succeeded
    simp
  | cons input rest ih =>
    rw [List.mapM_cons] at succeeded
    obtain ⟨here, first, succeeded⟩ := bind_eq_ok_iff.mp succeeded
    obtain ⟨others, later, joined⟩ := bind_eq_ok_iff.mp succeeded
    obtain rfl : here :: others = outputs := Except.ok.inj joined
    have head : step input = .ok output ↔ output = here := by
      rw [first, Except.ok.injEq, eq_comm]
    rw [List.mem_cons, List.exists_mem_cons_iff, ih later, head]

end DesignRules

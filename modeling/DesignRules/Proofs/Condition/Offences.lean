/-
**The first offence of a condition.**

A tree has no code just if one of its references is wrong, and what is wrong with it is what is
wrong with the first of them in the order in which they are written. Every reference is spelled by
tokens of its phrase, and keeps the offset of the first of them.

* `failure?`: the error of a result.
* `Reference.fault?`: what is wrong with a reference.
* `failure?_instructions`: what is wrong with a tree.
* `Reference.callee`, `Derives.spelledIn`: the tokens of a reference.
-/

import DesignRules.Proofs.Condition.Lowering
import DesignRules.Proofs.Condition.Phrases
import DesignRules.Proofs.Condition.Tree

namespace DesignRules

/-! ### Errors of results -/

section Failure

variable {ε α β γ : Type}

/-- The error of a result, if it has one. -/
def failure? : Except ε α → Option ε
  | .error cause => some cause
  | .ok _ => none

theorem failure?_eq_some_iff {result : Except ε α} {cause : ε} :
    failure? result = some cause ↔ result = .error cause := by
  cases result <;> simp [failure?]

theorem failure?_eq_none_iff {result : Except ε α} :
    failure? result = none ↔ ∃ value, result = .ok value := by
  cases result <;> simp [failure?]

/-- The last step of a chain that cannot fail. -/
theorem failure?_bind_pure (first : Except ε α) (change : α → β) :
    failure? (first >>= fun value => pure (change value)) = failure? first := by
  cases first <;> rfl

/-- Two steps, the second of which does not look at the first. -/
theorem failure?_bind_bind_pure (first : Except ε α) (second : Except ε β) (join : α → β → γ) :
    failure? (first >>= fun a => second >>= fun b => pure (join a b)) =
      (failure? first).or (failure? second) := by
  cases first <;> cases second <;> rfl

end Failure

namespace Condition

/-! ### References -/

/-- What is wrong with a call of what a name stands for. -/
def callFault? (builtin? : Option Builtin) (name : String) (found offset : Nat) : Option Fault :=
  match builtin? with
  | none => some ⟨.unknownFunction, offset, name⟩
  | some builtin =>
    if found = builtin.arity then none else some ⟨.arity builtin.arity found, offset, name⟩

/-- What is wrong with a reference: an object that stands alone, a name before a point that is no
slot, a function that is not known, a method that is not known or not called on an object, or a
wrong number of arguments. -/
def Reference.fault? (slots : SlotTable) : Reference → Option Fault
  | .name word offset =>
    if (slots.find? word).any Slot.isObject then some ⟨.slotNeedsField, offset, word⟩ else none
  | .field slot _ offset =>
    if (slots.find? slot).isNone then some ⟨.unknownSlot, offset, slot⟩ else none
  | .method slot word arity offset =>
    match slots.find? slot with
    | none => some ⟨.unknownSlot, offset, slot⟩
    | some receiver =>
      callFault? (if receiver.isObject then Builtin.find? true word else none) word arity offset
  | .call word arity offset => callFault? (Builtin.find? false word) word arity offset

/-- A function is found by its own name. -/
theorem name_of_find? {isMethod : Bool} {name : String} {builtin : Builtin}
    (found : Builtin.find? isMethod name = some builtin) : builtin.name = name := by
  have listed := mem_of_find? found
  have own : ∀ entry ∈ Builtin.methods ++ Builtin.functions, entry.2.name = entry.1 := by decide
  cases isMethod with
  | true => exact own (name, builtin) (List.mem_append_left _ listed)
  | false => exact own (name, builtin) (List.mem_append_right _ listed)

theorem functionNamed_eq (name : String) (offset : Nat) :
    functionNamed name offset =
      (Builtin.find? false name).elim (.error ⟨.unknownFunction, offset, name⟩) .ok := by
  unfold functionNamed
  cases Builtin.find? false name <;> rfl

theorem methodNamed_eq (slot : Slot) (name : String) (offset : Nat) :
    methodNamed slot name offset =
      (if slot.isObject then Builtin.find? true name else none).elim
        (.error ⟨.unknownFunction, offset, name⟩) .ok := by
  unfold methodNamed
  cases slot.isObject <;> cases Builtin.find? true name <;> rfl

/-- What is wrong with a call, and then with its arguments. -/
theorem failure?_given {α β : Type} {builtin? : Option Builtin} {name : String}
    (named : ∀ builtin ∈ builtin?, builtin.name = name) (count offset : Nat)
    (arguments : Except Fault α) (join : Builtin → α → β) :
    failure? ((builtin?.elim (.error ⟨.unknownFunction, offset, name⟩) Except.ok) >>=
        fun builtin => checkArity builtin count offset >>=
          fun _ => arguments >>= fun before => pure (join builtin before)) =
      (callFault? builtin? name count offset).or (failure? arguments) := by
  cases builtin? with
  | none => rfl
  | some builtin =>
    have own : builtin.name = name := named builtin rfl
    show failure? (checkArity builtin count offset >>= _) = _
    unfold checkArity callFault?
    by_cases fits : count = builtin.arity
    · rw [if_pos fits]
      dsimp only
      rw [if_pos fits, Option.none_or]
      exact failure?_bind_pure arguments _
    · rw [if_neg fits]
      dsimp only
      rw [if_neg fits, own]
      rfl

variable {K : Type} [Scalar K]

theorem failure?_argumentInstructions {slots : SlotTable} {arguments : List Expression}
    (each : ∀ argument ∈ arguments,
      failure? (argument.instructions slots : Except Fault (List (Instruction K))) =
        argument.references.findSome? (Reference.fault? slots)) :
    failure? (argumentInstructions slots arguments : Except Fault (List (Instruction K))) =
      (argumentReferences arguments).findSome? (Reference.fault? slots) := by
  induction arguments with
  | nil => rfl
  | cons argument arguments ih =>
    rw [argumentInstructions, failure?_bind_bind_pure, argumentReferences, List.findSome?_append,
      each argument List.mem_cons_self,
      ih fun other member => each other (List.mem_cons_of_mem _ member)]

/-- **What is wrong with a tree** is what is wrong with its first reference that is wrong. -/
theorem failure?_instructions (slots : SlotTable) (tree : Expression) :
    failure? (tree.instructions slots : Except Fault (List (Instruction K))) =
      tree.references.findSome? (Reference.fault? slots) := by
  induction tree with
  | number quantity => rfl
  | text content => rfl
  | name name offset =>
    rw [Expression.instructions, failure?_bind_pure, Expression.references,
      List.findSome?_singleton, Reference.fault?, nameInstruction]
    cases slots.find? name with
    | none => rfl
    | some slot => cases slot <;> rfl
  | field slot field offset =>
    rw [Expression.instructions, failure?_bind_pure, Expression.references,
      List.findSome?_singleton, Reference.fault?, SlotTable.resolve]
    cases slots.find? slot <;> rfl
  | method slot name arguments offset ih =>
    rw [Expression.instructions, Expression.references, ← List.singleton_append,
      List.findSome?_append, List.findSome?_singleton, Reference.fault?, SlotTable.resolve,
      ← failure?_argumentInstructions ih]
    cases slots.find? slot with
    | none => rfl
    | some receiver =>
      simp only [methodNamed_eq]
      refine failure?_given (fun builtin found => ?_) _ _ _ _
      split at found
      · exact name_of_find? found
      · cases found
  | call name arguments offset ih =>
    rw [Expression.instructions, Expression.references, ← List.singleton_append,
      List.findSome?_append, List.findSome?_singleton, Reference.fault?,
      ← failure?_argumentInstructions ih,
      functionNamed_eq]
    exact failure?_given (fun _ => name_of_find?) _ _ _ _
  | unary operator operand ih =>
    rw [Expression.instructions, failure?_bind_pure, ih, Expression.references]
  | binary operator left right leftIh rightIh =>
    rw [Expression.instructions, failure?_bind_bind_pure, leftIh, rightIh, Expression.references,
      List.findSome?_append]

/-! ### The tokens of references -/

/-- What a reference is to. -/
def Reference.callee : Reference → Callee
  | .name word _ => .function word
  | .field slot member _ => .member slot member
  | .method slot member _ _ => .member slot member
  | .call word _ _ => .function word

/-- The offset that a reference keeps. -/
def Reference.offset : Reference → Nat
  | .name _ offset => offset
  | .field _ _ offset => offset
  | .method _ _ _ offset => offset
  | .call _ _ offset => offset

/-- Whether all of some references are spelled by tokens in a row of a phrase, and keep the offset
of the first of these. -/
def SpelledIn (phrase : List Lexeme) (references : List Reference) : Prop :=
  ∀ reference ∈ references, ∃ tokens, tokens <:+: phrase ∧
    reference.callee.Spelled tokens reference.offset

theorem SpelledIn.mono {phrase whole : List Lexeme} {references : List Reference}
    (spelled : SpelledIn phrase references) (inside : phrase <:+: whole) :
    SpelledIn whole references := by
  intro reference member
  obtain ⟨tokens, part, spells⟩ := spelled reference member
  exact ⟨tokens, part.trans inside, spells⟩

theorem spelledIn_append {phrase : List Lexeme} {front back : List Reference} :
    SpelledIn phrase (front ++ back) ↔ SpelledIn phrase front ∧ SpelledIn phrase back :=
  List.forall_mem_append

theorem spelledIn_alone {callee : Callee} {phrase : List Lexeme} {offset : Nat}
    (spelled : callee.Spelled phrase offset) :
    SpelledIn phrase (callee.alone offset).references := by
  cases callee <;> exact List.forall_mem_singleton.mpr ⟨phrase, List.infix_rfl, spelled⟩

theorem spelledIn_applied {callee : Callee} {phrase listed : List Lexeme} {offset : Nat}
    {arguments : List Expression} (spelled : callee.Spelled phrase offset)
    (given : SpelledIn listed (argumentReferences arguments)) {whole : List Lexeme}
    (front : phrase <:+: whole) (inside : listed <:+: whole) :
    SpelledIn whole (callee.applied arguments offset).references := by
  cases callee <;>
    exact List.forall_mem_cons.mpr ⟨⟨phrase, front, spelled⟩, given.mono inside⟩

/-- **The references of a tree are spelled by tokens of its phrase.** -/
theorem Derives.spelledIn {category : Category} {phrase : List Lexeme} {tree : Expression}
    (derives : Derives category phrase tree) : SpelledIn phrase tree.references := by
  refine Derives.formInduction
    (motive_1 := fun _ phrase tree => SpelledIn phrase tree.references)
    (motive_2 := fun listed arguments => SpelledIn listed (argumentReferences arguments))
    (fun _ => id) (fun _ => List.forall_mem_nil _) (fun _ => List.forall_mem_nil _)
    spelledIn_alone ?group ?empty ?applied ?unary ?binary ?last ?more derives
  case group =>
    intro phrase tree opening closing _ _ inner
    exact inner.mono ⟨[opening], [closing], by simp⟩
  case empty =>
    intro callee phrase offset opening closing spelled _ _
    have none : SpelledIn [] (argumentReferences []) := List.forall_mem_nil _
    exact spelledIn_applied spelled none (List.prefix_append _ _).isInfix List.nil_infix
  case applied =>
    intro callee phrase offset opening closing listed arguments spelled _ _ given
    exact spelledIn_applied spelled given ⟨[], opening :: listed ++ [closing], by simp⟩
      ⟨phrase ++ [opening], [closing], by simp⟩
  case unary =>
    intro operator phrase tree lexeme _ inner
    exact inner.mono (List.suffix_cons lexeme phrase).isInfix
  case binary =>
    intro operator left right a b lexeme _ first second
    exact spelledIn_append.mpr ⟨first.mono (List.prefix_append _ _).isInfix,
      second.mono ⟨left ++ [lexeme], [], by simp⟩⟩
  case last =>
    intro phrase argument inner
    exact spelledIn_append.mpr ⟨inner, List.forall_mem_nil _⟩
  case more =>
    intro phrase rest argument arguments comma _ first others
    exact spelledIn_append.mpr ⟨first.mono (List.prefix_append _ _).isInfix,
      others.mono ⟨phrase ++ [comma], [], by simp⟩⟩

end Condition

end DesignRules

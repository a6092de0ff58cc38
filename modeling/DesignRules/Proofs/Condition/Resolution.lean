/-
**Which conditions have no code.**

A reference offends if what it names is not there, stands alone where it may not, or is called with
a wrong number of arguments; fields do not matter. The references of a tree that was read from a
text keep offsets that grow, so the first offence is the one with the least offset.

* `Offends`, `offends_iff`: the references that offend, and the fault of each of them.
* `pairwise_offset_of_ofText`: offsets grow in the order of a text.
* `Expression.fieldless`: a tree without the names of its fields.
* `fails_at_least_offence`: when a text with a tree has no code, and what its fault is.
-/

import DesignRules.Proofs.Condition.Faults

namespace DesignRules.Condition

/-! ### References that offend -/

/-- **A reference that offends**, with its fault. -/
inductive Offends (slots : SlotTable) : Reference → Fault → Prop where
  | fieldOfNoSlot {slot field : String} {offset : Nat} :
      slots.find? slot = none →
      Offends slots (.field slot field offset) ⟨.unknownSlot, offset, slot⟩
  | methodOfNoSlot {slot name : String} {count offset : Nat} :
      slots.find? slot = none →
      Offends slots (.method slot name count offset) ⟨.unknownSlot, offset, slot⟩
  | bareObject {word : String} {slot : Slot} {offset : Nat} :
      slots.find? word = some slot → slot.isObject = true →
      Offends slots (.name word offset) ⟨.slotNeedsField, offset, word⟩
  | methodOfLayer {slot name : String} {count offset : Nat} :
      slots.find? slot = some .layer →
      Offends slots (.method slot name count offset) ⟨.unknownFunction, offset, name⟩
  | unknownMethod {slot name : String} {receiver : Slot} {count offset : Nat} :
      slots.find? slot = some receiver → Builtin.find? true name = none →
      Offends slots (.method slot name count offset) ⟨.unknownFunction, offset, name⟩
  | unknownFunction {name : String} {count offset : Nat} :
      Builtin.find? false name = none →
      Offends slots (.call name count offset) ⟨.unknownFunction, offset, name⟩
  | methodArity {slot name : String} {receiver : Slot} {builtin : Builtin} {count offset : Nat} :
      slots.find? slot = some receiver → receiver.isObject = true →
      Builtin.find? true name = some builtin → count ≠ builtin.arity →
      Offends slots (.method slot name count offset) ⟨.arity builtin.arity count, offset, name⟩
  | functionArity {name : String} {builtin : Builtin} {count offset : Nat} :
      Builtin.find? false name = some builtin → count ≠ builtin.arity →
      Offends slots (.call name count offset) ⟨.arity builtin.arity count, offset, name⟩

theorem callFault?_eq_some_iff {builtin? : Option Builtin} {name : String} {found offset : Nat}
    {fault : Fault} :
    callFault? builtin? name found offset = some fault ↔
      builtin? = none ∧ fault = ⟨.unknownFunction, offset, name⟩ ∨
        ∃ builtin, builtin? = some builtin ∧ found ≠ builtin.arity ∧
          fault = ⟨.arity builtin.arity found, offset, name⟩ := by
  unfold callFault?
  cases builtin? with
  | none => simp [eq_comm]
  | some builtin => by_cases fits : found = builtin.arity <;> simp [fits, eq_comm]

variable {slots : SlotTable} {reference : Reference} {fault : Fault}

theorem Offends.fault?_eq (offends : Offends slots reference fault) :
    reference.fault? slots = some fault := by
  cases offends with
  | fieldOfNoSlot unknown => simp [Reference.fault?, unknown]
  | methodOfNoSlot unknown => simp [Reference.fault?, unknown]
  | bareObject known object => simp [Reference.fault?, known, object]
  | methodOfLayer known => simp [Reference.fault?, known, Slot.isObject, callFault?]
  | unknownMethod known unknown => simp [Reference.fault?, known, unknown, callFault?]
  | unknownFunction unknown => simp [Reference.fault?, unknown, callFault?]
  | methodArity known object found wrong =>
    simp [Reference.fault?, known, object, found, wrong, callFault?]
  | functionArity found wrong => simp [Reference.fault?, found, wrong, callFault?]

theorem offends_of_fault?_eq (wrong : reference.fault? slots = some fault) :
    Offends slots reference fault := by
  cases reference with
  | name word offset =>
    rw [Reference.fault?] at wrong
    split at wrong
    next object =>
      cases wrong
      obtain ⟨slot, known, object⟩ := (Option.any_eq_true _ _).mp object
      exact .bareObject known object
    next => cases wrong
  | field slot field offset =>
    rw [Reference.fault?] at wrong
    split at wrong
    next unknown =>
      cases wrong
      exact .fieldOfNoSlot (Option.isNone_iff_eq_none.mp unknown)
    next => cases wrong
  | method slot name count offset =>
    rw [Reference.fault?] at wrong
    split at wrong
    next unknown =>
      cases wrong
      exact .methodOfNoSlot unknown
    next receiver known =>
      rcases callFault?_eq_some_iff.mp wrong with ⟨none, rfl⟩ | ⟨builtin, found, differs, rfl⟩
      · split at none
        next => exact .unknownMethod known none
        next layer =>
          cases receiver with
          | layer => exact .methodOfLayer known
          | first => exact absurd rfl layer
          | second => exact absurd rfl layer
      · split at found
        next object => exact .methodArity known object found differs
        next => cases found
  | call name count offset =>
    rcases callFault?_eq_some_iff.mp wrong with ⟨none, rfl⟩ | ⟨builtin, found, differs, rfl⟩
    · exact .unknownFunction none
    · exact .functionArity found differs

/-- **What is wrong with a reference** is that it offends. -/
theorem offends_iff : Offends slots reference fault ↔ reference.fault? slots = some fault :=
  ⟨Offends.fault?_eq, offends_of_fault?_eq⟩

/-! ### Offsets -/

theorem Lexeme.offset_of_word? {lexeme : Lexeme} {name : String} {offset : Nat}
    (word : lexeme.word? = some (name, offset)) : offset = lexeme.offset := by
  unfold Lexeme.word? at word
  split at word
  next => exact (Prod.mk.inj (Option.some.inj word)).2.symm
  next => cases word

/-- The words that start a name are some of the tokens, in their order. -/
theorem sublist_leadingWords (dotted : Bool) (lexemes : List Lexeme) :
    ((leadingWords dotted lexemes).map Prod.snd).Sublist (lexemes.map Lexeme.offset) := by
  induction lexemes generalizing dotted with
  | nil => exact List.Sublist.refl []
  | cons lexeme rest ih =>
    have one : ((if dotted then [] else lexeme.word?.toList).map Prod.snd).Sublist
        [lexeme.offset] := by
      cases dotted with
      | true => exact List.nil_sublist _
      | false =>
        cases word : lexeme.word? with
        | none => exact List.nil_sublist _
        | some found => exact Lexeme.offset_of_word? word ▸ List.Sublist.refl _
    rw [leadingWords, List.map_append, List.map_cons]
    exact one.append (ih _)

theorem argumentHeads_eq_flatMap (arguments : List Expression) :
    argumentHeads arguments = arguments.flatMap Expression.heads := by
  induction arguments with
  | nil => rfl
  | cons argument arguments ih => rw [argumentHeads, ih, List.flatMap_cons]

/-- The names of a tree are the first words of its references. -/
theorem heads_eq_map_references (tree : Expression) :
    tree.heads = tree.references.map fun reference =>
      (reference.callee.head, reference.offset) := by
  have given {arguments : List Expression}
      (each : ∀ argument ∈ arguments, argument.heads = argument.references.map fun reference =>
        (reference.callee.head, reference.offset)) :
      argumentHeads arguments = (argumentReferences arguments).map fun reference =>
        (reference.callee.head, reference.offset) := by
    rw [argumentHeads_eq_flatMap, argumentReferences_eq_flatMap, List.map_flatMap]
    exact List.flatMap_congr each
  induction tree with
  | number quantity => rfl
  | text content => rfl
  | name name offset => rfl
  | field slot field offset => rfl
  | method slot name arguments offset ih =>
    rw [Expression.heads, Expression.references, List.map_cons, given ih]
    rfl
  | call name arguments offset ih =>
    rw [Expression.heads, Expression.references, List.map_cons, given ih]
    rfl
  | unary operator operand ih => rw [Expression.heads, Expression.references, ih]
  | binary operator left right leftIh rightIh =>
    rw [Expression.heads, Expression.references, List.map_append, leftIh, rightIh]

/-- **The offsets of the references of a text grow.** -/
theorem pairwise_offset_of_ofText {text : String} {tree : Expression}
    (parsed : Expression.ofText text = .ok tree) :
    tree.references.Pairwise fun first second => first.offset < second.offset := by
  obtain ⟨lexemes, lexed, derives⟩ := ofText_eq_ok_iff_derives.mp parsed
  have grow : (lexemes.map Lexeme.offset).Pairwise (· < ·) :=
    List.pairwise_map.mpr (lexed.pairwise_apart.imp And.left)
  have same : tree.references.map Reference.offset =
      (leadingWords false lexemes).map Prod.snd := by
    rw [← derives.heads_eq, heads_eq_map_references, List.map_map]
    rfl
  have kept : (tree.references.map Reference.offset).Pairwise (· < ·) :=
    same ▸ grow.sublist (sublist_leadingWords false lexemes)
  exact List.pairwise_map.mp kept

/-! ### Fields -/

/-- A reference without the name of its field. -/
def Reference.fieldless : Reference → Reference
  | .field slot _ offset => .field slot "" offset
  | reference => reference

mutual

/-- A tree without the names of its fields. Trees that differ in these only agree in it. -/
def Expression.fieldless : Expression → Expression
  | .number quantity => .number quantity
  | .text content => .text content
  | .name name offset => .name name offset
  | .field slot _ offset => .field slot "" offset
  | .method slot name arguments offset => .method slot name (fieldlessArguments arguments) offset
  | .call name arguments offset => .call name (fieldlessArguments arguments) offset
  | .unary operator operand => .unary operator operand.fieldless
  | .binary operator left right => .binary operator left.fieldless right.fieldless

/-- Arguments without the names of their fields. -/
def fieldlessArguments : List Expression → List Expression
  | [] => []
  | argument :: arguments => argument.fieldless :: fieldlessArguments arguments

end

theorem fieldlessArguments_eq_map (arguments : List Expression) :
    fieldlessArguments arguments = arguments.map Expression.fieldless := by
  induction arguments with
  | nil => rfl
  | cons argument arguments ih => rw [fieldlessArguments, ih, List.map_cons]

theorem references_fieldless (tree : Expression) :
    tree.fieldless.references = tree.references.map Reference.fieldless := by
  have given {arguments : List Expression}
      (each : ∀ argument ∈ arguments,
        argument.fieldless.references = argument.references.map Reference.fieldless) :
      argumentReferences (fieldlessArguments arguments) =
        (argumentReferences arguments).map Reference.fieldless := by
    rw [fieldlessArguments_eq_map, argumentReferences_eq_flatMap, argumentReferences_eq_flatMap,
      List.flatMap_map, List.map_flatMap]
    exact List.flatMap_congr each
  have many (arguments : List Expression) :
      (fieldlessArguments arguments).length = arguments.length := by
    rw [fieldlessArguments_eq_map, List.length_map]
  induction tree with
  | number quantity => rfl
  | text content => rfl
  | name name offset => rfl
  | field slot field offset => rfl
  | method slot name arguments offset ih =>
    rw [Expression.fieldless, Expression.references, Expression.references, List.map_cons,
      given ih, many]
    rfl
  | call name arguments offset ih =>
    rw [Expression.fieldless, Expression.references, Expression.references, List.map_cons,
      given ih, many]
    rfl
  | unary operator operand ih =>
    rw [Expression.fieldless, Expression.references, Expression.references, ih]
  | binary operator left right leftIh rightIh =>
    rw [Expression.fieldless, Expression.references, Expression.references, List.map_append,
      leftIh, rightIh]

variable {K : Type} [Scalar K]

/-- **What is wrong with a tree does not depend on the names of its fields.** -/
theorem failure?_instructions_fieldless (slots : SlotTable) (tree : Expression) :
    failure? (tree.fieldless.instructions slots : Except Fault (List (Instruction K))) =
      failure? (tree.instructions slots : Except Fault (List (Instruction K))) := by
  have same : Reference.fault? slots ∘ Reference.fieldless = Reference.fault? slots := by
    funext reference
    cases reference <;> rfl
  rw [failure?_instructions, failure?_instructions, references_fieldless, List.findSome?_map, same]

/-! ### Texts without code -/

/-- The fault of a text with a tree is that of the tree. -/
theorem failure?_ofText {text : String} {tree : Expression}
    (parsed : Expression.ofText text = .ok tree) (slots : SlotTable) :
    failure? (Code.ofText slots text : Except Fault (Code K)) =
      failure? (tree.instructions slots : Except Fault (List (Instruction K))) := by
  unfold Code.ofText
  rw [parsed]
  exact failure?_bind_pure _ (Code.mk text)

/-- What is found first, if keys grow, is what the element with the least key gives. -/
theorem findSome?_eq_some_iff_least {α β : Type} {key : α → Nat} {list : List α}
    (grows : list.Pairwise fun first second => key first < key second) {step : α → Option β}
    {value : β} :
    list.findSome? step = some value ↔
      ∃ first ∈ list, step first = some value ∧
        ∀ other ∈ list, (step other).isSome → other = first ∨ key first < key other := by
  constructor
  · intro found
    obtain ⟨before, first, after, rfl, gives, none⟩ := List.findSome?_eq_some_iff.mp found
    refine ⟨first, List.mem_append_right _ List.mem_cons_self, gives, fun other member some => ?_⟩
    rcases List.mem_append.mp member with front | back
    · rw [none other front] at some
      cases some
    · obtain ⟨later, -⟩ := List.pairwise_cons.mp (List.pairwise_append.mp grows).2.1
      exact (List.mem_cons.mp back).imp_right (later other)
  · rintro ⟨first, member, gives, least⟩
    obtain ⟨before, after, rfl⟩ := List.append_of_mem member
    refine List.findSome?_eq_some_iff.mpr ⟨before, first, after, rfl, gives, fun other front => ?_⟩
    have earlier : key other < key first :=
      (List.pairwise_append.mp grows).2.2 other front first List.mem_cons_self
    by_contra some
    rcases least other (List.mem_append_left _ front) (Option.isSome_iff_ne_none.mpr some) with
      rfl | later
    · exact Nat.lt_irrefl _ earlier
    · exact Nat.lt_asymm earlier later

/-- **A text with a tree has no code just if a reference offends.** Its fault is that of the
offending reference with the least offset, and every tree that differs in names of fields only has
the same fault, or code as well. -/
theorem fails_at_least_offence (slots : SlotTable) (text : String) (tree : Expression)
    (parsed : Expression.ofText text = .ok tree) :
    ((∃ fault, (Code.ofText slots text : Except Fault (Code K)) = .error fault) ↔
        ∃ reference ∈ tree.references, ∃ fault, Offends slots reference fault) ∧
      (∀ fault, (Code.ofText slots text : Except Fault (Code K)) = .error fault ↔
        ∃ reference ∈ tree.references, Offends slots reference fault ∧
          fault.offset = reference.offset ∧
          ∀ other ∈ tree.references, ∀ later, Offends slots other later →
            other = reference ∨ reference.offset < other.offset) ∧
      ∀ other : Expression, other.fieldless = tree.fieldless →
        failure? (other.instructions slots : Except Fault (List (Instruction K))) =
          failure? (Code.ofText slots text : Except Fault (Code K)) := by
  have first (fault : Fault) : (Code.ofText slots text : Except Fault (Code K)) = .error fault ↔
      tree.references.findSome? (Reference.fault? slots) = some fault := by
    rw [← failure?_eq_some_iff, failure?_ofText parsed, failure?_instructions]
  refine ⟨?_, fun fault => ?_, fun other same => ?_⟩
  · simp only [first, offends_iff, ← Option.isSome_iff_exists, List.findSome?_isSome_iff]
  · rw [first, findSome?_eq_some_iff_least (pairwise_offset_of_ofText parsed)]
    refine exists_congr fun reference => and_congr_right fun _ => ?_
    simp only [offends_iff, Option.isSome_iff_exists, forall_exists_index]
    refine and_congr_right fun wrong => ?_
    exact (and_iff_right (fault?_eq_some wrong).1).symm
  · rw [failure?_ofText parsed, ← failure?_instructions_fieldless slots other, same,
      failure?_instructions_fieldless]

/-- The slot that stands alone comes before the name that is no slot. -/
theorem fails_at_least_offence_of_bare_slot :
    ∃ tree, Expression.ofText "max(A.Net, B) == Q.Net" = .ok tree ∧
      ∃ reference ∈ tree.references,
        Offends .standard reference ⟨.slotNeedsField, 11, "B"⟩ ∧ 11 = reference.offset ∧
          ∀ other ∈ tree.references, ∀ later, Offends .standard other later →
            other = reference ∨ reference.offset < other.offset := by
  have wrong : failure? (Code.ofText .standard "max(A.Net, B) == Q.Net" :
      Except Fault (Code Float)) = some ⟨.slotNeedsField, 11, "B"⟩ := by decide +kernel
  have failed := failure?_eq_some_iff.mp wrong
  have noFault : failure? (Expression.ofText "max(A.Net, B) == Q.Net") = none := by decide +kernel
  cases parsed : Expression.ofText "max(A.Net, B) == Q.Net" with
  | error fault =>
    rw [parsed] at noFault
    cases noFault
  | ok tree =>
    obtain ⟨-, least, -⟩ := fails_at_least_offence (K := Float) .standard _ tree parsed
    exact ⟨tree, rfl, (least _).mp failed⟩

end DesignRules.Condition

/-
**Exchanging the two objects of a condition.**

No instruction treats one of the objects in a way of its own. So a condition whose names for the
objects are exchanged has the same code with the slots exchanged, and on two objects the value that
the condition itself has on them the other way round. It also looks at no slot but those that its
names stand for.

* `Slot.exchanged`, `SlotTable.exchanged`, `Instruction.exchanged`, `Context.exchanged`: first and
  second object in each other's place.
* `instructions_exchanged`, `ofText_exchanged`: the code for exchanged names.
* `apply_exchanged`, `value_exchanged`: what it does.
* `Expression.Mentions`, `meaning_congr`: the slots that a tree looks at.
* `exchanged_names_exchange_objects`: both, for a text.
-/

import DesignRules.Proofs.Condition.Execution

namespace DesignRules.Condition

/-! ### First and second object -/

/-- The slot of the other object; the layer keeps its own. -/
def Slot.exchanged : Slot → Slot
  | .first => .second
  | .second => .first
  | .layer => .layer

/-- The names of slots, those of the first object standing for the second and the other way
round. -/
def SlotTable.exchanged (slots : SlotTable) : SlotTable :=
  ⟨slots.entries.map fun (name, slot) => (name, slot.exchanged)⟩

section Machine

variable {K : Type}

/-- An instruction about the other object. -/
def Instruction.exchanged : Instruction K → Instruction K
  | .read place name readers => .read place.exchanged name readers
  | .slot place => .slot place.exchanged
  | .call builtin receiver arity => .call builtin (receiver.map Slot.exchanged) arity
  | instruction => instruction

/-- Code about the other objects. -/
def Code.exchanged (code : Code K) : Code K :=
  ⟨code.source, code.instructions.map Instruction.exchanged⟩

/-- A context with its objects in each other's place. -/
def Context.exchanged (context : Context K) : Context K :=
  { context with first := context.second, second := context.first }

theorem object?_exchanged (context : Context K) (slot : Slot) :
    context.object? slot.exchanged = context.exchanged.object? slot := by
  cases slot <;> rfl

theorem layer?_exchanged (context : Context K) (slot : Slot) :
    context.layer? slot.exchanged = context.exchanged.layer? slot := by
  cases slot <;> rfl

variable [Scalar K]

/-- **An instruction about the other object** does what the instruction does where the objects are
in each other's place. -/
theorem apply_exchanged (context : Context K) (instruction : Instruction K)
    (values : List (Value K)) :
    instruction.exchanged.apply context values = instruction.apply context.exchanged values := by
  cases instruction with
  | read place name readers =>
    show context.readThrough place.exchanged readers :: values =
      context.exchanged.readThrough place readers :: values
    rw [Context.readThrough, object?_exchanged]
    rfl
  | slot place =>
    show context.slotValue place.exchanged :: values = context.exchanged.slotValue place :: values
    rw [Context.slotValue, layer?_exchanged]
    rfl
  | call builtin receiver arity =>
    cases receiver with
    | none => rfl
    | some place =>
      show builtin.apply context.stack (context.object? place.exchanged) _ :: _ =
        builtin.apply context.stack (context.exchanged.object? place) _ :: _
      rw [object?_exchanged]
  | _ => rfl

/-- The instructions about the other objects, one after the other. -/
theorem runInstructions_exchanged (context : Context K) (instructions : List (Instruction K))
    (values : List (Value K)) :
    runInstructions context (instructions.map Instruction.exchanged) values =
      runInstructions context.exchanged instructions values := by
  unfold runInstructions
  rw [List.foldl_map]
  simp only [apply_exchanged]

theorem value_exchanged (code : Code K) (context : Context K) :
    code.exchanged.value context = code.value context.exchanged := by
  rw [Code.value, Code.value, Code.exchanged, runInstructions_exchanged]

end Machine

/-! ### Code for exchanged names -/

theorem find?_exchanged (slots : SlotTable) (name : String) :
    slots.exchanged.find? name = (slots.find? name).map Slot.exchanged := by
  obtain ⟨entries⟩ := slots
  show (entries.map _).lookup name = (entries.lookup name).map _
  induction entries with
  | nil => rfl
  | cons entry entries ih =>
    rw [List.map_cons, List.lookup_cons, List.lookup_cons, ih]
    cases name == entry.1 <;> rfl

theorem isObject_exchanged (slot : Slot) : slot.exchanged.isObject = slot.isObject := by
  cases slot <;> rfl

theorem resolve_exchanged (slots : SlotTable) (name : String) (offset : Nat) :
    slots.exchanged.resolve name offset = Slot.exchanged <$> slots.resolve name offset := by
  rw [SlotTable.resolve, SlotTable.resolve, find?_exchanged]
  cases slots.find? name <;> rfl

theorem methodNamed_exchanged (slot : Slot) (name : String) (offset : Nat) :
    methodNamed slot.exchanged name offset = methodNamed slot name offset := by
  rw [methodNamed, methodNamed, isObject_exchanged]

variable {K : Type}

theorem nameInstruction_exchanged (slots : SlotTable) (name : String) (offset : Nat) :
    (nameInstruction slots.exchanged name offset : Except Fault (Instruction K)) =
      Instruction.exchanged <$> nameInstruction slots name offset := by
  rw [nameInstruction, nameInstruction, find?_exchanged]
  cases slots.find? name with
  | none => rfl
  | some slot => cases slot <;> rfl

theorem fieldInstruction_exchanged (slot : Slot) (field : String) :
    (fieldInstruction slot.exchanged field : Instruction K) =
      (fieldInstruction slot field).exchanged := by
  rw [fieldInstruction, fieldInstruction, isObject_exchanged]
  split <;> rfl

theorem unaryInstruction_exchanged (operator : UnaryOperator) :
    (operator.instruction : Instruction K).exchanged = operator.instruction := by
  cases operator <;> rfl

theorem binaryInstruction_exchanged (operator : BinaryOperator) :
    (operator.instruction : Instruction K).exchanged = operator.instruction := by
  cases operator <;> rfl

variable [Scalar K] {slots : SlotTable}

theorem argumentInstructions_exchanged {arguments : List Expression}
    (each : ∀ argument ∈ arguments,
      (argument.instructions slots.exchanged : Except Fault (List (Instruction K))) =
        List.map Instruction.exchanged <$> argument.instructions slots) :
    (argumentInstructions slots.exchanged arguments : Except Fault (List (Instruction K))) =
      List.map Instruction.exchanged <$> argumentInstructions slots arguments := by
  induction arguments with
  | nil => rfl
  | cons argument arguments ih =>
    have here := each argument List.mem_cons_self
    have others := ih fun other member => each other (List.mem_cons_of_mem _ member)
    simp only [argumentInstructions, here, others, bind_map_left, map_bind, map_pure,
      List.map_append]

/-- **The code of a tree for exchanged names** is its code with the slots exchanged, or the same is
wrong with both. -/
theorem instructions_exchanged (tree : Expression) :
    (tree.instructions slots.exchanged : Except Fault (List (Instruction K))) =
      List.map Instruction.exchanged <$> tree.instructions slots := by
  induction tree with
  | number quantity => rfl
  | text content => rfl
  | name name offset =>
    simp only [Expression.instructions, nameInstruction_exchanged, bind_map_left, map_bind,
      map_pure, List.map_cons, List.map_nil]
  | field slot field offset =>
    simp only [Expression.instructions, resolve_exchanged, fieldInstruction_exchanged,
      bind_map_left, map_bind, map_pure, List.map_cons, List.map_nil]
  | method slot name arguments offset ih =>
    have given := argumentInstructions_exchanged ih
    simp only [Expression.instructions, resolve_exchanged, methodNamed_exchanged, given,
      bind_map_left, map_bind, map_pure, List.map_append, List.map_cons, List.map_nil]
    rfl
  | call name arguments offset ih =>
    have given := argumentInstructions_exchanged ih
    simp only [Expression.instructions, given, bind_map_left, map_bind, map_pure, List.map_append,
      List.map_cons, List.map_nil]
    rfl
  | unary operator operand ih =>
    simp only [Expression.instructions, ih, bind_map_left, map_bind, map_pure, List.map_append,
      List.map_cons, List.map_nil, unaryInstruction_exchanged]
  | binary operator left right leftIh rightIh =>
    simp only [Expression.instructions, leftIh, rightIh, bind_map_left, map_bind, map_pure,
      List.map_append, List.map_cons, List.map_nil, binaryInstruction_exchanged]

/-- **The code of a text for exchanged names.** -/
theorem ofText_exchanged (text : String) :
    (Code.ofText slots.exchanged text : Except Fault (Code K)) =
      Code.exchanged <$> Code.ofText slots text := by
  simp only [Code.ofText, instructions_exchanged, bind_map_left, map_bind, map_pure]
  rfl

/-! ### The slots that a tree looks at -/

/-- The slot that a reference is to; a function is called on none. -/
def Reference.slot? (slots : SlotTable) : Reference → Option Slot
  | .name word _ => slots.find? word
  | .field slot _ _ => slots.find? slot
  | .method slot _ _ _ => slots.find? slot
  | .call _ _ _ => none

/-- Whether a tree has a reference to a slot: the slot alone, a field or a method of it. -/
def Expression.Mentions (slots : SlotTable) (tree : Expression) (slot : Slot) : Prop :=
  ∃ reference ∈ tree.references, reference.slot? slots = some slot

/-- A tree mentions what a part of it mentions. -/
theorem Expression.Mentions.mono {part tree : Expression} {slot : Slot}
    (mentions : part.Mentions slots slot) (inside : part.references ⊆ tree.references) :
    tree.Mentions slots slot := by
  obtain ⟨reference, mentioned, bound⟩ := mentions
  exact ⟨reference, inside mentioned, bound⟩

/-- Whether two contexts have the same in a slot. -/
structure Context.AgreesAt (context other : Context K) (slot : Slot) : Prop where
  object : context.object? slot = other.object? slot
  layer : context.layer? slot = other.layer? slot

/-- **A tree looks at no slot but those that it mentions.** -/
theorem meaning_congr {context other : Context K} (stack : context.stack = other.stack)
    {tree : Expression} (agree : ∀ slot, tree.Mentions slots slot → context.AgreesAt other slot) :
    tree.meaning slots context = tree.meaning slots other := by
  have listed {arguments : List Expression}
      (each : ∀ argument ∈ arguments,
        argument.meaning slots context = argument.meaning slots other) :
      argumentMeanings slots context arguments = argumentMeanings slots other arguments := by
    rw [argumentMeanings_eq_map, argumentMeanings_eq_map]
    exact List.map_congr_left each
  have inside {arguments : List Expression} {argument : Expression}
      (member : argument ∈ arguments) (reference : Reference) :
      argument.references ⊆ reference :: argumentReferences arguments := by
    intro mentioned listed
    rw [argumentReferences_eq_flatMap]
    exact List.mem_cons_of_mem _ (List.mem_flatMap_of_mem member listed)
  induction tree with
  | number quantity => rfl
  | text content => rfl
  | name name offset =>
    rw [Expression.meaning, Expression.meaning, nameMeaning, nameMeaning]
    cases bound : slots.find? name with
    | none => rfl
    | some slot =>
      have same := agree slot ⟨_, List.mem_singleton_self _, bound⟩
      show (context.layer? slot).elim _ _ = (other.layer? slot).elim _ _
      rw [same.layer]
  | field slot field offset =>
    rw [Expression.meaning, Expression.meaning, fieldMeaning, fieldMeaning]
    cases bound : slots.find? slot with
    | none => rfl
    | some place =>
      have same := agree place ⟨_, List.mem_singleton_self _, bound⟩
      show (context.object? place).elim _ _ = (other.object? place).elim _ _
      rw [same.object]
  | method slot name arguments offset ih =>
    have given := listed fun argument member => ih argument member fun place mentions =>
      agree place (mentions.mono (inside member _))
    have receiver : (slots.find? slot).bind context.object? =
        (slots.find? slot).bind other.object? := by
      cases bound : slots.find? slot with
      | none => rfl
      | some place => exact (agree place ⟨_, List.mem_cons_self, bound⟩).object
    rw [Expression.meaning, Expression.meaning, callMeaning, callMeaning, given, receiver, stack]
  | call name arguments offset ih =>
    have given := listed fun argument member => ih argument member fun place mentions =>
      agree place (mentions.mono (inside member _))
    rw [Expression.meaning, Expression.meaning, callMeaning, callMeaning, given, stack]
    rfl
  | unary operator operand ih =>
    rw [Expression.meaning, Expression.meaning, ih agree]
  | binary operator left right leftIh rightIh =>
    have first := leftIh fun slot mentions =>
      agree slot (mentions.mono (List.subset_append_left _ _))
    have second := rightIh fun slot mentions =>
      agree slot (mentions.mono (List.subset_append_right _ _))
    rw [Expression.meaning, Expression.meaning, first, second, stack]

/-- **Exchanging the names of the objects exchanges the objects.** With any slots, a text has no
code for the names and for the exchanged names because of the same fault, or it has code for both.
Then the code for the exchanged names has in every context the value that the other code has where
the objects are in each other's place; and the value is the same in all contexts with the same
layers that agree in the slots to which the text refers, whatever the other slots are bound to. -/
theorem exchanged_names_exchange_objects (slots : SlotTable) (text : String) :
    (∃ fault, (Code.ofText slots text : Except Fault (Code K)) = .error fault ∧
      (Code.ofText slots.exchanged text : Except Fault (Code K)) = .error fault) ∨
    ∃ (tree : Expression) (code exchanged : Code K),
      Expression.ofText text = .ok tree ∧ Code.ofText slots text = .ok code ∧
      Code.ofText slots.exchanged text = .ok exchanged ∧
      (∀ context, exchanged.value context = code.value context.exchanged) ∧
      ∀ context other : Context K, context.stack = other.stack →
        (∀ slot, tree.Mentions slots slot → context.AgreesAt other slot) →
        code.value context = code.value other := by
  have both : (Code.ofText slots.exchanged text : Except Fault (Code K)) =
      Code.exchanged <$> Code.ofText slots text := ofText_exchanged text
  cases compiled : (Code.ofText slots text : Except Fault (Code K)) with
  | error fault =>
    rw [compiled] at both
    exact .inl ⟨fault, rfl, both⟩
  | ok code =>
    rw [compiled] at both
    obtain ⟨tree, parsed, lowered, -⟩ := ofText_eq_ok_iff.mp compiled
    refine .inr ⟨tree, code, code.exchanged, parsed, rfl, both, value_exchanged code, ?_⟩
    intro context other stack agree
    rw [value_eq_meaning lowered, value_eq_meaning lowered]
    exact meaning_congr stack agree

end DesignRules.Condition

/-
**Conditions that mention a missing field.**

A field is missing where its slot is not bound or the kind of the bound object has no such field. It
makes all that is computed from it undefined, up to the nearest logical operator around it, which
gives false. What the rest of the condition makes of that false value decides whether the condition
holds.

* `Context.lacks`, `Expression.mentionsMissing`: missing fields, and the trees that mention one.
* `Expression.exposes`: whether a missing field stands under no logical operator.
* `Expression.muted`: the tree with false in place of the nearest logical operators around missing
  fields.
* `meaning_of_exposes`: an exposed missing field makes the whole tree undefined.
* `meaning_muted`, `mentionsMissing_muted`: the muted tree means the same and, if nothing is
  exposed, mentions no missing field.
* `holds_eq_false_iff_of_missing`: when a condition that mentions a missing field is false.
* `missing_field_can_hold`: it is not always false.
-/

import DesignRules.Proofs.Condition.Execution

namespace DesignRules.Condition

variable {K : Type}

/-! ### Missing fields -/

/-- Whether a slot has no object, or one of a kind without the field. -/
def Context.lacks (context : Context K) (slot : Slot) (field : String) : Bool :=
  match context.object? slot with
  | none => true
  | some item => (Field.ofName? item.kind field).isNone

/-- Whether the field of what a name stands for is missing. -/
def isMissing (slots : SlotTable) (context : Context K) (slot field : String) : Bool :=
  match slots.find? slot with
  | none => true
  | some place => context.lacks place field

/-- Whether a reference is one to a missing field. -/
def Reference.isMissing (slots : SlotTable) (context : Context K) : Reference → Bool
  | .field slot read _ => Condition.isMissing slots context slot read
  | _ => false

/-- Whether a tree mentions a missing field anywhere. -/
def Expression.mentionsMissing (slots : SlotTable) (context : Context K) (tree : Expression) :
    Bool :=
  tree.references.any fun reference => reference.isMissing slots context

variable [Scalar K]

theorem ofShape_ne_undefined {field : Field} {shape : Shape K}
    (own : field ∈ Field.own shape.kind) : field.ofShape shape ≠ .undefined := by
  cases shape <;> cases field <;> simp [Shape.kind, Field.own, Field.ofShape] at own ⊢

/-- A common field has a value, whatever the kind. -/
theorem readAs_ne_undefined_of_mem_common {field : Field} (common : field ∈ Field.common)
    (kind : Kind) (item : Item K) : field.readAs kind item ≠ .undefined := by
  cases field <;> simp [Field.common, Field.readAs] at common ⊢

/-- The other fields are read from the shape. -/
theorem readAs_of_not_mem_common {field : Field} (special : field ∉ Field.common) (item : Item K) :
    field.readAs item.kind item = field.ofShape item.shape := by
  cases field <;> simp [Field.common, Field.readAs] at special ⊢

/-- A field that the kind of an item has is never undefined. -/
theorem readAs_ne_undefined {name : String} {field : Field} {item : Item K}
    (found : Field.ofName? item.kind name = some field) :
    field.readAs item.kind item ≠ .undefined := by
  by_cases common : field ∈ Field.common
  · exact readAs_ne_undefined_of_mem_common common item.kind item
  · rw [readAs_of_not_mem_common common]
    have member := List.mem_append.mp (List.mem_of_find?_eq_some found)
    exact ofShape_ne_undefined (member.resolve_left common)

/-- What is read is undefined exactly where the field is missing. -/
theorem field_eq_undefined_iff (context : Context K) (slot : Slot) (name : String) :
    context.field slot name = .undefined ↔ context.lacks slot name = true := by
  unfold Context.field Context.lacks
  cases context.object? slot with
  | none => simp
  | some item =>
    show Field.read name item = .undefined ↔ (Field.ofName? item.kind name).isNone = true
    unfold Field.read
    cases found : Field.ofName? item.kind name with
    | none => simp
    | some field => simpa using readAs_ne_undefined found

theorem fieldMeaning_of_isMissing {slots : SlotTable} {context : Context K} {slot field : String}
    (missing : isMissing slots context slot field = true) :
    fieldMeaning slots context slot field = .undefined := by
  unfold isMissing at missing
  unfold fieldMeaning
  cases found : slots.find? slot with
  | none => rfl
  | some place =>
    rw [found] at missing
    exact (field_eq_undefined_iff context place field).mpr missing

/-! ### Operators on undefined operands -/

/-- Whether an operator before an operand is a logical one. -/
def UnaryOperator.isLogical : UnaryOperator → Bool
  | .not => true
  | .negate => false

/-- Whether an operator between two operands is a logical one. -/
def BinaryOperator.isLogical : BinaryOperator → Bool
  | .or => true
  | .and => true
  | .compare _ => false
  | .arithmetic _ => false

theorem unary_undefined_of_logical {operator : UnaryOperator}
    (logical : operator.isLogical = true) :
    operator.apply (.undefined : Value K) = .ofBool false := by
  cases operator with
  | not => rfl
  | negate => cases logical

theorem unary_undefined_of_strict {operator : UnaryOperator}
    (strict : operator.isLogical = false) :
    operator.apply (.undefined : Value K) = .undefined := by
  cases operator with
  | not => cases strict
  | negate => rfl

theorem agrees?_undefined_right (stack : LayerStack) (value : Value K) :
    value.agrees? stack .undefined = none := by
  cases value <;> rfl

theorem compare_undefined_right (comparison : Comparison) (stack : LayerStack) (value : Value K) :
    comparison.apply stack value .undefined = .undefined := by
  cases comparison with
  | equal => rw [Comparison.apply, agrees?_undefined_right, Option.elim_none]
  | unequal => rw [Comparison.apply, agrees?_undefined_right, Option.elim_none]
  | less => cases value <;> rfl
  | atMost => cases value <;> rfl
  | greater => cases value <;> rfl
  | atLeast => cases value <;> rfl

/-- A logical operator with an undefined operand is false. -/
theorem binary_undefined_of_logical {operator : BinaryOperator} {left right : Value K}
    (logical : operator.isLogical = true) (either : left = .undefined ∨ right = .undefined)
    (stack : LayerStack) : operator.apply stack left right = .ofBool false := by
  have some : (left.isUndefined || right.isUndefined) = true := by
    rcases either with rfl | rfl
    · rfl
    · exact Bool.or_true _
  cases operator with
  | or => exact if_pos some
  | and => exact if_pos some
  | compare comparison => cases logical
  | arithmetic operation => cases logical

/-- Every other operator with an undefined operand is undefined. -/
theorem binary_undefined_of_strict {operator : BinaryOperator} {left right : Value K}
    (strict : operator.isLogical = false) (either : left = .undefined ∨ right = .undefined)
    (stack : LayerStack) : operator.apply stack left right = .undefined := by
  cases operator with
  | or => cases strict
  | and => cases strict
  | compare comparison =>
    rcases either with rfl | rfl
    · cases comparison <;> rfl
    · exact compare_undefined_right comparison stack left
  | arithmetic operation =>
    rcases either with rfl | rfl
    · rfl
    · cases left <;> rfl

/-- An undefined argument makes a call undefined. -/
theorem callMeaning_of_undefined_mem {context : Context K} {arguments : List (Value K)}
    (undefined : Value.undefined ∈ arguments) (receiver : Option Slot) (isMethod : Bool)
    (name : String) : callMeaning context receiver isMethod name arguments = .undefined := by
  unfold callMeaning
  cases Builtin.find? isMethod name with
  | none => rfl
  | some builtin =>
    have some : arguments.any Value.isUndefined = true :=
      List.any_eq_true.mpr ⟨.undefined, undefined, rfl⟩
    exact if_pos some

/-! ### Where a missing field is felt -/

mutual

/-- Whether a missing field stands under no logical operator. -/
def Expression.exposes (slots : SlotTable) (context : Context K) : Expression → Bool
  | .number _ => false
  | .text _ => false
  | .name _ _ => false
  | .field slot field _ => isMissing slots context slot field
  | .method _ _ arguments _ => anyExposes slots context arguments
  | .call _ arguments _ => anyExposes slots context arguments
  | .unary operator operand => !operator.isLogical && operand.exposes slots context
  | .binary operator left right =>
    !operator.isLogical && (left.exposes slots context || right.exposes slots context)

/-- Whether a missing field stands under no logical operator in one of some arguments. -/
def anyExposes (slots : SlotTable) (context : Context K) : List Expression → Bool
  | [] => false
  | argument :: arguments =>
    argument.exposes slots context || anyExposes slots context arguments

end

/-- A condition that is false. -/
def Expression.falsehood : Expression := .binary (.compare .unequal) (.text "") (.text "")

mutual

/-- The tree in which each logical operator with an exposed missing field in an operand is replaced
by a condition that is false. -/
def Expression.muted (slots : SlotTable) (context : Context K) : Expression → Expression
  | .number quantity => .number quantity
  | .text content => .text content
  | .name name offset => .name name offset
  | .field slot field offset => .field slot field offset
  | .method slot name arguments offset =>
    .method slot name (mutedArguments slots context arguments) offset
  | .call name arguments offset => .call name (mutedArguments slots context arguments) offset
  | .unary operator operand =>
    if operator.isLogical && operand.exposes slots context then .falsehood
    else .unary operator (operand.muted slots context)
  | .binary operator left right =>
    if operator.isLogical && (left.exposes slots context || right.exposes slots context) then
      .falsehood
    else .binary operator (left.muted slots context) (right.muted slots context)

/-- Arguments, each of them muted. -/
def mutedArguments (slots : SlotTable) (context : Context K) : List Expression → List Expression
  | [] => []
  | argument :: arguments =>
    argument.muted slots context :: mutedArguments slots context arguments

end

section Muting

variable {slots : SlotTable} {context : Context K}

omit [Scalar K] in
theorem anyExposes_eq_any (arguments : List Expression) :
    anyExposes slots context arguments =
      arguments.any fun argument => argument.exposes slots context := by
  induction arguments with
  | nil => rfl
  | cons argument arguments ih => rw [anyExposes, ih, List.any_cons]

omit [Scalar K] in
theorem mutedArguments_eq_map (arguments : List Expression) :
    mutedArguments slots context arguments =
      arguments.map fun argument => argument.muted slots context := by
  induction arguments with
  | nil => rfl
  | cons argument arguments ih => rw [mutedArguments, ih, List.map_cons]

theorem undefined_mem_of_mem {arguments : List Expression} {argument : Expression}
    (member : argument ∈ arguments) (undefined : argument.meaning slots context = .undefined) :
    Value.undefined ∈ argumentMeanings slots context arguments := by
  rw [argumentMeanings_eq_map]
  exact List.mem_map.mpr ⟨argument, member, undefined⟩

theorem undefined_mem_argumentMeanings {arguments : List Expression}
    (each : ∀ argument ∈ arguments, argument.exposes slots context = true →
      argument.meaning slots context = .undefined)
    (exposed : anyExposes slots context arguments = true) :
    Value.undefined ∈ argumentMeanings slots context arguments := by
  rw [anyExposes_eq_any] at exposed
  obtain ⟨argument, member, felt⟩ := List.any_eq_true.mp exposed
  exact undefined_mem_of_mem member (each argument member felt)

/-- **An exposed missing field makes the tree undefined.** -/
theorem meaning_of_exposes {tree : Expression} (exposed : tree.exposes slots context = true) :
    tree.meaning slots context = .undefined := by
  induction tree with
  | number quantity => cases exposed
  | text content => cases exposed
  | name name offset => cases exposed
  | field slot field offset => exact fieldMeaning_of_isMissing exposed
  | method slot name arguments offset ih =>
    exact callMeaning_of_undefined_mem (undefined_mem_argumentMeanings ih exposed) _ _ _
  | call name arguments offset ih =>
    exact callMeaning_of_undefined_mem (undefined_mem_argumentMeanings ih exposed) _ _ _
  | unary operator operand ih =>
    obtain ⟨strict, inside⟩ := Bool.and_eq_true_iff.mp exposed
    rw [Expression.meaning, ih inside]
    exact unary_undefined_of_strict (Bool.not_eq_true' _ ▸ strict)
  | binary operator left right leftIh rightIh =>
    obtain ⟨strict, inside⟩ := Bool.and_eq_true_iff.mp exposed
    exact binary_undefined_of_strict (Bool.not_eq_true' _ ▸ strict)
      ((Bool.or_eq_true_iff.mp inside).imp leftIh rightIh) context.stack

theorem argumentMeanings_mutedArguments {arguments : List Expression}
    (each : ∀ argument ∈ arguments,
      (argument.muted slots context).meaning slots context = argument.meaning slots context) :
    argumentMeanings slots context (mutedArguments slots context arguments) =
      argumentMeanings slots context arguments := by
  rw [mutedArguments_eq_map, argumentMeanings_eq_map, argumentMeanings_eq_map, List.map_map]
  exact List.map_congr_left each

theorem meaning_falsehood (slots : SlotTable) (context : Context K) :
    Expression.falsehood.meaning slots context = .ofBool false := rfl

/-- **The muted tree means the same.** -/
theorem meaning_muted (slots : SlotTable) (context : Context K) (tree : Expression) :
    (tree.muted slots context).meaning slots context = tree.meaning slots context := by
  induction tree with
  | number quantity => rfl
  | text content => rfl
  | name name offset => rfl
  | field slot field offset => rfl
  | method slot name arguments offset ih =>
    rw [Expression.muted, Expression.meaning, Expression.meaning,
      argumentMeanings_mutedArguments ih]
  | call name arguments offset ih =>
    rw [Expression.muted, Expression.meaning, Expression.meaning,
      argumentMeanings_mutedArguments ih]
  | unary operator operand ih =>
    rw [Expression.muted]
    by_cases felt : (operator.isLogical && operand.exposes slots context) = true
    · obtain ⟨logical, exposed⟩ := Bool.and_eq_true_iff.mp felt
      rw [if_pos felt, meaning_falsehood, Expression.meaning, meaning_of_exposes exposed,
        unary_undefined_of_logical logical]
    · rw [if_neg felt, Expression.meaning, Expression.meaning, ih]
  | binary operator left right leftIh rightIh =>
    rw [Expression.muted]
    by_cases felt : (operator.isLogical &&
        (left.exposes slots context || right.exposes slots context)) = true
    · obtain ⟨logical, exposed⟩ := Bool.and_eq_true_iff.mp felt
      rw [if_pos felt, meaning_falsehood, Expression.meaning]
      exact (binary_undefined_of_logical logical ((Bool.or_eq_true_iff.mp exposed).imp
        meaning_of_exposes meaning_of_exposes) context.stack).symm
    · rw [if_neg felt, Expression.meaning, Expression.meaning, leftIh, rightIh]

omit [Scalar K] in
theorem any_references_mutedArguments {arguments : List Expression}
    (each : ∀ argument ∈ arguments, argument.exposes slots context = false →
      (argument.muted slots context).mentionsMissing slots context = false)
    (hidden : anyExposes slots context arguments = false) :
    ((argumentReferences (mutedArguments slots context arguments)).any fun reference =>
      reference.isMissing slots context) = false := by
  rw [anyExposes_eq_any, List.any_eq_false] at hidden
  rw [mutedArguments_eq_map, argumentReferences_eq_flatMap, List.any_flatMap, List.any_map,
    List.any_eq_false]
  intro argument member
  rw [Bool.not_eq_true]
  exact each argument member (Bool.eq_false_iff.mpr (hidden argument member))

omit [Scalar K] in
/-- **Where nothing is exposed, the muted tree mentions no missing field.** -/
theorem mentionsMissing_muted {tree : Expression} (hidden : tree.exposes slots context = false) :
    (tree.muted slots context).mentionsMissing slots context = false := by
  induction tree with
  | number quantity => rfl
  | text content => rfl
  | name name offset => rfl
  | field slot field offset =>
    show (isMissing slots context slot field || false) = false
    rw [Bool.or_false]
    exact hidden
  | method slot name arguments offset ih => exact any_references_mutedArguments ih hidden
  | call name arguments offset ih => exact any_references_mutedArguments ih hidden
  | unary operator operand ih =>
    rw [Expression.muted]
    by_cases felt : (operator.isLogical && operand.exposes slots context) = true
    · rw [if_pos felt]
      rfl
    · rw [if_neg felt]
      refine ih ?_
      rw [Expression.exposes] at hidden
      cases logical : operator.isLogical with
      | true => simpa [logical] using felt
      | false => simpa [logical] using hidden
  | binary operator left right leftIh rightIh =>
    rw [Expression.muted]
    by_cases felt : (operator.isLogical &&
        (left.exposes slots context || right.exposes slots context)) = true
    · rw [if_pos felt]
      rfl
    · rw [if_neg felt]
      have neither : (left.exposes slots context || right.exposes slots context) = false := by
        rw [Expression.exposes] at hidden
        cases logical : operator.isLogical with
        | true => simpa [logical] using felt
        | false => simpa [logical] using hidden
      obtain ⟨first, second⟩ := Bool.or_eq_false_iff.mp neither
      show (_ ++ _ : List Reference).any _ = false
      rw [List.any_append]
      exact Bool.or_eq_false_iff.mpr ⟨leftIh first, rightIh second⟩

end Muting

/-! ### Conditions of texts -/

/-- **When a condition that mentions a missing field is false**: exactly if a missing field stands
under no logical operator, or the condition is false with all logical operators right above missing
fields read as false. In the second case no missing field is left in it. -/
theorem holds_eq_false_iff_of_missing {slots : SlotTable} {text : String} {code : Code K}
    (compiled : Code.ofText slots text = .ok code) (context : Context K) :
    ∃ tree, Expression.ofText text = .ok tree ∧
      (tree.mentionsMissing slots context = true →
        (code.holds context = false ↔
          tree.exposes slots context = true ∨
            ((tree.muted slots context).meaning slots context).isTrue = false) ∧
        (tree.exposes slots context = true ∨
          (tree.muted slots context).mentionsMissing slots context = false)) := by
  obtain ⟨tree, parsed, lowered, -⟩ := ofText_eq_ok_iff.mp compiled
  refine ⟨tree, parsed, fun _ => ⟨?_, ?_⟩⟩
  · rw [Code.holds, value_eq_meaning lowered, meaning_muted]
    constructor
    · exact Or.inr
    · rintro (exposed | fails)
      · rw [meaning_of_exposes exposed]
        rfl
      · exact fails
  · cases exposed : tree.exposes slots context with
    | true => exact .inl rfl
    | false => exact .inr (mentionsMissing_muted exposed)

/-- A via as the first object; vias have no field named `Drill`. -/
def loneVia : Context Float :=
  { first := some { id := .nil, shape := .via ⟨0, 2, 1, ⟨0.0, 0.0⟩, 600000.0, 600000.0⟩ }
    stack := {} }

/-- The disjunction is false for the missing field, so its negation holds. -/
theorem negated_disjunction_holds :
    ∃ (code : Code Float) (tree : Expression),
      Code.ofText .standard "!(A.Drill > 0 || 1 == 1)" = .ok code ∧
      Expression.ofText "!(A.Drill > 0 || 1 == 1)" = .ok tree ∧
      tree.mentionsMissing .standard loneVia = true ∧ code.holds loneVia = true := by
  have run : (do
      let code ← Code.ofText .standard "!(A.Drill > 0 || 1 == 1)"
      let tree ← Expression.ofText "!(A.Drill > 0 || 1 == 1)"
      return (tree.mentionsMissing .standard loneVia, code.holds loneVia) :
        Except Fault (Bool × Bool)).toOption = some (true, true) := by
    decide +kernel
  cases compiled : (Code.ofText .standard "!(A.Drill > 0 || 1 == 1)" :
      Except Fault (Code Float)) with
  | error fault =>
    rw [compiled] at run
    cases run
  | ok code =>
    cases parsed : Expression.ofText "!(A.Drill > 0 || 1 == 1)" with
    | error fault =>
      rw [compiled, parsed] at run
      cases run
    | ok tree =>
      rw [compiled, parsed] at run
      obtain ⟨mentions, holds⟩ := Prod.mk.inj (Option.some.inj run)
      exact ⟨code, tree, rfl, rfl, mentions, holds⟩

/-- **A condition that mentions a missing field can hold.** -/
theorem missing_field_can_hold :
    ¬ ∀ (slots : SlotTable) (text : String) (code : Code Float) (tree : Expression)
        (context : Context Float), Code.ofText slots text = .ok code →
        Expression.ofText text = .ok tree → tree.mentionsMissing slots context = true →
        code.holds context = false := by
  intro closed
  obtain ⟨code, tree, compiled, parsed, mentions, holds⟩ := negated_disjunction_holds
  have fails := closed .standard _ code tree loneVia compiled parsed mentions
  rw [fails] at holds
  cases holds

/-- The negated disjunction, whose muted form negates a condition that is false. -/
theorem holds_eq_false_iff_of_missing_drill :
    ∃ (code : Code Float) (tree : Expression),
      Code.ofText .standard "!(A.Drill > 0 || 1 == 1)" = .ok code ∧
      tree.mentionsMissing .standard loneVia = true ∧
      (code.holds loneVia = false ↔
        tree.exposes .standard loneVia = true ∨
          ((tree.muted .standard loneVia).meaning .standard loneVia).isTrue = false) := by
  obtain ⟨code, tree, compiled, parsed, mentions, -⟩ := negated_disjunction_holds
  obtain ⟨other, alsoParsed, exact⟩ := holds_eq_false_iff_of_missing compiled loneVia
  obtain rfl : tree = other := Except.ok.inj (parsed.symm.trans alsoParsed)
  exact ⟨code, tree, compiled, mentions, (exact mentions).1⟩

end DesignRules.Condition

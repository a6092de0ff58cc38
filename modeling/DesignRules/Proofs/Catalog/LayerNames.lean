/-
**All ways of naming a layer agree.**

A layer is compared with a name by the filter of a rule, by a condition about the layer slot, and by
the method that looks through the layers of an object. A quoted text is a pattern only if it has
wildcards, while a filter always is one; a pattern without wildcards is its own text, so each of the
three says whether the name of the layer fits the pattern.

* `agrees?_ofQuoted`: a layer and a quoted text.
* `isTrue_meaning_comparison`, `isTrue_meaning_existsOnLayer`: the two conditions, as trees.
* `lexedAs_comparison`, `lexedAs_existsOnLayer`: the tokens of their texts.
* `exists_code_comparison`, `exists_code_guarded`, `exists_code_existsOnLayer`: the code of the
  texts.
* `layer_names_agree`: the three ways agree.
-/

import DesignRules.Catalog
import DesignRules.Proofs.Condition.Enclosed
import DesignRules.Proofs.Condition.Strictness

namespace DesignRules

open Condition

variable {K : Type}

/-! ### Layers and patterns -/

theorem admitsLayer_of_filter {rule : Rule K} {pattern : Pattern}
    (filter : rule.layer = some pattern) (stack : LayerStack) (layer : Option LayerId) :
    rule.admitsLayer stack layer = layer.any fun id => stack.fits id pattern := by
  unfold Rule.admitsLayer
  rw [filter]
  cases layer <;> rfl

/-- A pattern without wildcards fits the layers with its own text for a name. -/
theorem fits_of_plain {name : String} (plain : Pattern.hasWildcard name = false)
    (stack : LayerStack) (id : LayerId) :
    stack.fits id ⟨name⟩ = Value.isNamed stack id name := by
  have literal : Pattern.glob? ⟨name⟩ = none := if_neg (ne_true_of_eq_false plain)
  unfold LayerStack.fits Value.isNamed
  cases stack.find? id with
  | none => rfl
  | some layer =>
    show Pattern.isMatch ⟨name⟩ layer.name = (layer.name == name)
    rw [Pattern.isMatch, literal]
    exact BEq.comm

variable [Scalar K]

/-- **A layer agrees with a quoted text** if its name fits the text as a pattern. -/
theorem agrees?_ofQuoted (stack : LayerStack) (id : LayerId) (name : String) :
    (Value.layer id : Value K).agrees? stack (.ofQuoted name) = some (stack.fits id ⟨name⟩) := by
  cases wild : Pattern.hasWildcard name with
  | true =>
    rw [Value.ofQuoted, if_pos wild]
    rfl
  | false =>
    rw [Value.ofQuoted, if_neg (ne_true_of_eq_false wild), fits_of_plain wild]
    rfl

/-- **The method on a quoted text** looks for a layer that fits it as a pattern. -/
theorem apply_existsOnLayer (stack : LayerStack) (receiver : Option (Item K)) (name : String) :
    Builtin.existsOnLayer.apply stack receiver [.ofQuoted name] =
      receiver.elim .undefined fun item =>
        .ofBool (item.layers.any fun id => stack.fits id ⟨name⟩) := by
  have fitting (item : Item K) : Builtin.onLayer stack item (.ofQuoted name) =
      item.layers.any fun id => stack.fits id ⟨name⟩ := by
    unfold Builtin.onLayer
    simp only [agrees?_ofQuoted, Option.some_beq_some, beq_true]
  simp only [← fitting]
  unfold Value.ofQuoted
  split <;> rfl

/-! ### Truth -/

theorem isTrue_elim_ofBool {α : Type} (value? : Option α) (holds : α → Bool) :
    (value?.elim Value.undefined fun value => Value.ofBool (holds value) : Value Float).isTrue =
      value?.any holds := by
  cases value? with
  | none => rfl
  | some value => exact isTrue_ofBool (holds value)

section Meanings

variable {slots : SlotTable} {word : String}

/-- **A comparison of the layer slot** with a quoted text. -/
theorem isTrue_meaning_comparison (layer : slots.find? word = some .layer) (name : String)
    (offset : Nat) (context : Context Float) :
    ((Expression.binary (.compare .equal) (.name word offset) (.text name)).meaning slots
      context).isTrue = context.layer.any fun id => context.stack.fits id ⟨name⟩ := by
  rw [← isTrue_elim_ofBool, Expression.meaning, Expression.meaning, Expression.meaning,
    nameMeaning, layer]
  show (Comparison.equal.apply context.stack (context.slotValue .layer) (.ofQuoted name)).isTrue = _
  unfold Context.slotValue Context.layer? Comparison.apply
  cases context.layer with
  | none => rfl
  | some id =>
    rw [Option.elim_some, agrees?_ofQuoted]
    rfl

/-- **The method of an object** with a quoted text. -/
theorem isTrue_meaning_existsOnLayer (first : slots.find? word = some .first) (name : String)
    (offset : Nat) (context : Context Float) :
    ((Expression.method word "existsOnLayer" [.text name] offset).meaning slots context).isTrue =
      context.first.any fun item => item.layers.any fun id => context.stack.fits id ⟨name⟩ := by
  rw [← isTrue_elim_ofBool, Expression.meaning, first, ← apply_existsOnLayer]
  rfl

end Meanings

/-! ### Texts -/

section Texts

variable {slots : SlotTable} {name : String}

/-- A text with known tokens has the code of their tree. -/
theorem exists_code_of_derives {text : String} {lexemes : List Lexeme} {tree : Expression}
    (lexed : Lexed 0 text.toList lexemes) (derives : Derives .disjunction lexemes tree)
    {instructions : List (Instruction K)} (lowered : tree.instructions slots = .ok instructions) :
    ∃ code : Code K, Code.ofText slots text = .ok code ∧
      ∀ context, code.holds context = (tree.meaning slots context).isTrue := by
  have parsed := ofText_eq_ok_iff_derives.mpr ⟨lexemes, lexed, derives⟩
  refine ⟨⟨text, instructions⟩, ofText_eq_ok_iff.mpr ⟨tree, parsed, lowered, rfl⟩, ?_⟩
  intro context
  rw [Code.holds, value_eq_meaning lowered]

/-- **The tokens of a comparison of the layer slot**, whatever comes after it. -/
theorem lexedAs_comparison (free : '\'' ∉ name.toList) {tail : List Char}
    {Suits : List Lexeme → Prop} (follows : LexedAs tail Suits) :
    LexedAs (("L == '" ++ name ++ "'").toList ++ tail) fun lexemes =>
      ∃ phrase others offset, lexemes = phrase ++ others ∧ Suits others ∧
        Derives .comparison phrase
          (.binary (.compare .equal) (.name "L" offset) (.text name)) := by
  have split : ("L == '" ++ name ++ "'").toList ++ tail =
      "L".toList ++ ' ' :: (['=', '='] ++ ' ' ::
        ('\'' :: (name.toList ++ ['\'']) ++ tail)) := by
    simp
  have subject (rest : List Char) : Covers (.word "L") "L".toList (' ' :: rest) := by
    refine covers_word rfl rfl (by decide) (by decide) rfl ?_
    rintro next ⟨⟩
    decide +kernel
  have blank : Text.isBlank ' ' = true := by decide
  have text := follows.token (covers_quoted (.inl rfl) free)
  have compared := (text.blank blank).token covers_equal
  have known := (compared.blank blank).token (subject _)
  intro offset
  obtain ⟨_, lexed, first, _, rfl, word, second, _, rfl, compares, third, others, rfl, text,
    suits⟩ := known offset
  rw [split]
  refine ⟨_, lexed, [first, second, third], others, first.offset, rfl, suits, ?_⟩
  have left : Derives .sum [first] (.name "L" first.offset) :=
    Derives.ofRank (by decide) (.name word)
  have right : Derives .sum [third] (.text name) := Derives.ofRank (by decide) (.text text)
  exact .compare compares left right

/-- **The tokens of the method call.** -/
theorem lexedAs_existsOnLayer (free : '\'' ∉ name.toList) :
    LexedAs ("A.existsOnLayer('" ++ name ++ "')").toList fun phrase =>
      ∃ offset, Derives .primary phrase (.method "A" "existsOnLayer" [.text name] offset) := by
  have split : ("A.existsOnLayer('" ++ name ++ "')").toList =
      "A".toList ++ (['.'] ++ ("existsOnLayer".toList ++ (['('] ++
        ('\'' :: (name.toList ++ ['\'']) ++ ([')'] ++ []))))) := by
    simp
  have subject (rest : List Char) : Covers (.word "A") "A".toList ('.' :: rest) := by
    refine covers_word rfl rfl (by decide) (by decide) rfl ?_
    rintro next ⟨⟩
    decide +kernel
  have member (rest : List Char) :
      Covers (.word "existsOnLayer") "existsOnLayer".toList ('(' :: rest) := by
    refine covers_word rfl rfl (by decide) (by decide) rfl ?_
    rintro next ⟨⟩
    decide +kernel
  have dot (rest : List Char) : Covers .dot ['.'] ('e' :: rest) :=
    covers_mark (by decide) (by decide) rfl (by decide +kernel) rfl
  have argument := (lexedAs_nothing.token covers_closing).token (covers_quoted (.inl rfl) free)
  have called := (argument.token covers_opening).token (member _)
  have known := (called.token (dot _)).token (subject _)
  intro offset
  obtain ⟨_, lexed, first, _, rfl, word, second, _, rfl, points, third, _, rfl, named,
    fourth, _, rfl, opens, fifth, _, rfl, text, last, _, rfl, closes, rfl⟩ := known offset
  rw [split]
  refine ⟨_, lexed, first.offset, ?_⟩
  have inside : Derives .disjunction [fifth] (.text name) :=
    Derives.ofRank (by decide) (.text text)
  exact .method word points named opens closes (.some (.last inside))

/-! ### The code of the texts -/

theorem instructions_comparison (layer : slots.find? "L" = some .layer) (offset : Nat) :
    (Expression.binary (.compare .equal) (.name "L" offset) (.text name)).instructions slots =
      .ok [(.slot .layer : Instruction K), .push (.ofQuoted name), .compare .equal] := by
  refine instructions_binary_eq_ok_iff.mpr ⟨[.slot .layer], [.push (.ofQuoted name)], ?_, rfl, rfl⟩
  exact instructions_name_eq_ok_iff.mpr
    ⟨.slot .layer, nameInstruction_eq_ok_iff.mpr (.inl ⟨layer, rfl⟩), rfl⟩

/-- **The condition that the layer has a name.** -/
theorem exists_code_comparison (layer : slots.find? "L" = some .layer)
    (free : '\'' ∉ name.toList) :
    ∃ code : Code Float, Code.ofText slots ("L == '" ++ name ++ "'") = .ok code ∧
      ∀ context, code.holds context = context.layer.any fun id => context.stack.fits id ⟨name⟩ := by
  obtain ⟨_, lexed, phrase, _, offset, rfl, rfl, derives⟩ :=
    lexedAs_comparison free lexedAs_nothing 0
  rw [List.append_nil, List.append_nil] at lexed
  obtain ⟨code, compiled, holds⟩ := exists_code_of_derives lexed
    (derives.ofRank (by decide)) (instructions_comparison (K := Float) layer offset)
  refine ⟨code, compiled, fun context => ?_⟩
  rw [holds, isTrue_meaning_comparison layer]

/-- **A condition after the condition that the layer has a name.** -/
theorem exists_code_guarded (layer : slots.find? "L" = some .layer) (free : '\'' ∉ name.toList)
    {text : String} {condition : Code Float} (compiled : Code.ofText slots text = .ok condition) :
    ∃ code : Code Float,
      Code.ofText slots ("L == '" ++ name ++ "' && (" ++ text ++ ")") = .ok code ∧
        ∀ context, code.holds context =
          ((context.layer.any fun id => context.stack.fits id ⟨name⟩) &&
            condition.holds context) := by
  obtain ⟨tree, parsed, lowered, -⟩ := ofText_eq_ok_iff.mp compiled
  have split : ("L == '" ++ name ++ "' && (" ++ text ++ ")").toList =
      ("L == '" ++ name ++ "'").toList ++ ' ' :: (['&', '&'] ++ ' ' ::
        '(' :: (text.toList ++ [')'])) := by
    simp
  have both (rest : List Char) : Covers .and ['&', '&'] rest :=
    covers_mark (by decide) (by decide) rfl (by decide +kernel) rfl
  have blank : Text.isBlank ' ' = true := by decide
  have joined := ((lexedAs_group parsed lowered).blank blank).token (both _)
  obtain ⟨_, lexed, phrase, _, offset, rfl, ⟨sign, group, rfl, joins, inner, grouped, same⟩,
    derives⟩ := lexedAs_comparison free (joined.blank blank) 0
  rw [← split] at lexed
  have left : Derives .conjunction phrase _ := derives.ofRank (by decide)
  have right : Derives .comparison group inner := grouped.ofRank (by decide)
  obtain ⟨code, compiles, holds⟩ := exists_code_of_derives lexed
    (.ofConjunction (.and joins left right))
    (instructions_binary_eq_ok_iff.mpr ⟨_, _, instructions_comparison layer offset, same, rfl⟩)
  refine ⟨code, compiles, fun context => ?_⟩
  rw [holds, Expression.meaning]
  show (Connective.and.apply _ _).isTrue = _
  rw [isTrue_and, isTrue_meaning_comparison layer, Code.holds, value_eq_meaning same]

/-- **The condition that an object lies on a layer with a name.** -/
theorem exists_code_existsOnLayer (first : slots.find? "A" = some .first)
    (free : '\'' ∉ name.toList) :
    ∃ code : Code Float, Code.ofText slots ("A.existsOnLayer('" ++ name ++ "')") = .ok code ∧
      ∀ context, code.holds context = context.first.any fun item =>
        item.layers.any fun id => context.stack.fits id ⟨name⟩ := by
  obtain ⟨phrase, lexed, offset, derives⟩ := lexedAs_existsOnLayer free 0
  have lowered : (Expression.method "A" "existsOnLayer" [.text name] offset).instructions slots =
      .ok [(.push (.ofQuoted name) : Instruction Float),
        .call .existsOnLayer (some .first) 1] :=
    instructions_method_eq_ok_iff.mpr
      ⟨.first, .existsOnLayer, [.push (.ofQuoted name)], first, rfl, rfl, rfl, rfl, rfl⟩
  obtain ⟨code, compiled, holds⟩ :=
    exists_code_of_derives lexed (derives.ofRank (by decide)) lowered
  refine ⟨code, compiled, fun context => ?_⟩
  rw [holds, isTrue_meaning_existsOnLayer first]

end Texts

/-- **All ways of naming a layer agree.** For a name without a single quote, a rule with the name as
its filter admits the layer of a context exactly where the comparison of the layer slot with the
quoted name holds, and applies where a rule without a filter does whose condition is this comparison
and the one of the rule. The method `existsOnLayer` holds on the quoted name exactly if there is a
first object and the filter admits one of its layers. -/
theorem layer_names_agree (slots : SlotTable) (layer : slots.find? "L" = some .layer)
    (first : slots.find? "A" = some .first) (name : String) (free : '\'' ∉ name.toList) :
    (∃ code : Code Float, Code.ofText slots ("L == '" ++ name ++ "'") = .ok code ∧
      ∀ rule : Rule Float, rule.layer = some ⟨name⟩ → ∀ context,
        rule.admitsLayer context.stack context.layer = code.holds context) ∧
    (∀ (text : String) (condition : Code Float), Code.ofText slots text = .ok condition →
      ∃ code : Code Float,
        Code.ofText slots ("L == '" ++ name ++ "' && (" ++ text ++ ")") = .ok code ∧
          ∀ filtered guarded : Entry Float, filtered.rule.layer = some ⟨name⟩ →
            filtered.rule.condition = some condition → guarded.rule.layer = none →
            guarded.rule.condition = some code →
              ∀ context, filtered.applies context = guarded.applies context) ∧
    ∃ code : Code Float, Code.ofText slots ("A.existsOnLayer('" ++ name ++ "')") = .ok code ∧
      ∀ rule : Rule Float, rule.layer = some ⟨name⟩ → ∀ context, code.holds context = true ↔
        ∃ item, context.first = some item ∧
          ∃ id ∈ item.layers, rule.admitsLayer context.stack (some id) = true := by
  refine ⟨?filter, ?guard, ?method⟩
  case filter =>
    obtain ⟨code, compiled, holds⟩ := exists_code_comparison layer free
    refine ⟨code, compiled, fun rule filter context => ?_⟩
    rw [admitsLayer_of_filter filter, holds]
  case guard =>
    intro text condition accepted
    obtain ⟨code, compiled, holds⟩ := exists_code_guarded layer free accepted
    refine ⟨code, compiled, fun filtered guarded filter own bare whole context => ?_⟩
    have admitted : guarded.rule.admitsLayer context.stack context.layer = true := by
      unfold Rule.admitsLayer
      rw [bare]
    rw [Entry.applies, Entry.applies, own, whole, admitsLayer_of_filter filter, admitted,
      Bool.true_and]
    exact (holds context).symm
  case method =>
    obtain ⟨code, compiled, holds⟩ := exists_code_existsOnLayer first free
    refine ⟨code, compiled, fun rule filter context => ?_⟩
    rw [holds]
    simp only [Option.any_eq_true, List.any_eq_true, admitsLayer_of_filter filter, Option.any_some]

/-- A rule for the layers of the front. -/
def frontRule : Rule Float := { name := "front", priority := 0, layer := some ⟨"F.*"⟩ }

/-- Two layers with one number, of which the first counts. -/
def repeatedLayer : LayerStack := ⟨[⟨0, "F.Cu", .conductor, ""⟩, ⟨0, "B.Cu", .conductor, ""⟩]⟩

/-- A pattern on a number that repeats and on one that the stack lacks, and before another
condition. -/
theorem layer_names_agree_of_front_layers :
    (∃ code : Code Float, Code.ofText .standard "L == 'F.*'" = .ok code ∧
      code.holds { layer := some 0, stack := repeatedLayer } = true ∧
      code.holds { layer := some 1, stack := repeatedLayer } = false) ∧
    ∃ condition code : Code Float, Code.ofText .standard "A.Net == 'GND'" = .ok condition ∧
      Code.ofText .standard "L == 'F.*' && (A.Net == 'GND')" = .ok code ∧
      ∀ constraint context,
        Entry.applies ⟨{ frontRule with condition := some condition }, constraint⟩ context =
          Entry.applies ⟨{ frontRule with layer := none, condition := some code }, constraint⟩
            context := by
  have free : '\'' ∉ "F.*".toList := by decide
  obtain ⟨⟨own, compiled, admits⟩, guards, -⟩ := layer_names_agree .standard rfl rfl "F.*" free
  refine ⟨⟨own, compiled, ?_, ?_⟩, ?_⟩
  · rw [← admits frontRule rfl { layer := some 0, stack := repeatedLayer }]
    decide +kernel
  · rw [← admits frontRule rfl { layer := some 1, stack := repeatedLayer }]
    decide +kernel
  · have compiles : (Code.ofText .standard "A.Net == 'GND'" : Except Fault (Code Float)).isOk =
        true := by decide +kernel
    cases accepted : (Code.ofText .standard "A.Net == 'GND'" : Except Fault (Code Float)) with
    | error fault =>
      rw [accepted] at compiles
      cases compiles
    | ok condition =>
      obtain ⟨code, whole, same⟩ := guards "A.Net == 'GND'" condition accepted
      refine ⟨condition, code, rfl, whole, fun constraint context => ?_⟩
      exact same _ _ rfl rfl rfl rfl context

end DesignRules

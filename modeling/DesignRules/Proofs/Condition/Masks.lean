/-
**Masks in conditions.**

A field is compared with a quoted text on either side of the comparison, and with either quote. A
field that holds a name agrees with the text exactly if the text, as a pattern, matches the name; so
the comparison holds for every mask of the name.

* `agrees?_ofQuoted`: a text and a quoted one, on either side.
* `Derives.of_field`: a phrase that is a field.
* `exists_code_field_first`, `exists_code_field_last`: the code of the two comparisons.
* `mask_matches_name`: a mask matches the name, and so do the comparisons.
* `mask_with_syntax_misses_name`: masks that keep brackets, braces and backslashes.
-/

import DesignRules.Proofs.Catalog.LayerNames
import DesignRules.Proofs.Glob.Masks

namespace DesignRules.Condition

/-! ### Texts and patterns -/

section Agreement

variable {K : Type} [Scalar K] (stack : LayerStack) (content literal : String)

omit [Scalar K] in
/-- A quoted text without wildcards is its own text, with wildcards a pattern. -/
theorem ofQuoted_cases :
    (Value.ofQuoted literal : Value K) = .pattern ⟨literal⟩ ∨
      (Value.ofQuoted literal : Value K) = .text literal ∧
        (⟨literal⟩ : Pattern).isMatch content = (literal == content) := by
  cases wild : Pattern.hasWildcard literal with
  | true => exact .inl (if_pos wild)
  | false =>
    have plain : Pattern.glob? ⟨literal⟩ = none := if_neg (ne_true_of_eq_false wild)
    refine .inr ⟨if_neg (ne_true_of_eq_false wild), ?_⟩
    rw [Pattern.isMatch, plain]

/-- **A text agrees with a quoted one** if it fits it as a pattern, whichever of them comes first. -/
theorem agrees?_ofQuoted :
    (Value.text content : Value K).agrees? stack (.ofQuoted literal) =
        some ((⟨literal⟩ : Pattern).isMatch content) ∧
      (Value.ofQuoted literal : Value K).agrees? stack (.text content) =
        some ((⟨literal⟩ : Pattern).isMatch content) := by
  rcases ofQuoted_cases (K := K) content literal with pattern | ⟨plain, same⟩
  · rw [pattern]
    exact ⟨rfl, rfl⟩
  · rw [plain, same]
    exact ⟨congrArg some BEq.comm, rfl⟩

end Agreement

/-! ### Fields -/

/-- **A phrase that is a field** is one of every category, whatever parentheses stand around it. -/
theorem Derives.of_field {category other : Category} {phrase : List Lexeme} {word field : String}
    {offset : Nat} (derives : Derives category phrase (.field word field offset)) :
    Derives other phrase (.field word field offset) := by
  generalize same : Expression.field word field offset = tree at derives ⊢
  suffices primary : Derives .primary phrase tree from primary.ofRank other.rank_le_primary
  refine Derives.formInduction
    (motive_1 := fun _ phrase tree =>
      Expression.field word field offset = tree → Derives .primary phrase tree)
    (motive_2 := fun _ _ => True)
    (fun _ _ _ inner => inner) ?number ?text ?alone ?group ?empty ?applied ?unary ?binary
    (fun _ => trivial) (fun _ _ _ => trivial) derives same
  case number => exact fun token _ => .number token
  case text => exact fun token _ => .text token
  case alone => exact fun spelled _ => spelled.derives_alone
  case group =>
    intro phrase tree opening closing opens closes inner same
    exact .group opens closes ((inner same).ofRank (Nat.zero_le _))
  case empty =>
    intro callee phrase offset opening closing spelled opens closes same
    cases callee <;> cases same
  case applied =>
    intro callee phrase offset opening closing listed arguments spelled opens closes given same
    cases callee <;> cases same
  case unary => exact fun _ _ same => nomatch same
  case binary => exact fun _ _ _ same => nomatch same

section Comparisons

variable {slots : SlotTable} {subject word field mask : String} {offset : Nat} {quote : Char}
  {slot : Slot}

/-- A text in quotes. -/
def quoted (quote : Char) (content : String) : String :=
  String.ofList (quote :: (content.toList ++ [quote]))

theorem instructions_field (bound : slots.find? word = some slot) (offset : Nat) :
    (Expression.field word field offset).instructions slots =
      .ok [(fieldInstruction slot field : Instruction Float)] :=
  instructions_field_eq_ok_iff.mpr ⟨slot, bound, rfl⟩

theorem meaning_field (bound : slots.find? word = some slot) (offset : Nat)
    (context : Context Float) :
    (Expression.field word field offset).meaning slots context = context.field slot field := by
  rw [Expression.meaning, fieldMeaning, bound]

/-- **A comparison of two trees**, the tokens of which are known. -/
theorem exists_code_equal {text : String} {left right : List Lexeme} {sign : Lexeme}
    {a b : Expression} {first second : List (Instruction Float)}
    (lexed : Lexed 0 text.toList (left ++ sign :: right))
    (compares : sign.token = .compare .equal) (derivesLeft : Derives .sum left a)
    (derivesRight : Derives .sum right b) (lowered : a.instructions slots = .ok first)
    (lowers : b.instructions slots = .ok second) :
    ∃ code : Code Float, Code.ofText slots text = .ok code ∧
      ∀ context, code.holds context = (Comparison.equal.apply context.stack
        (a.meaning slots context) (b.meaning slots context)).isTrue := by
  have derives : Derives .disjunction (left ++ sign :: right) _ :=
    (Derives.compare compares derivesLeft derivesRight).ofRank (by decide)
  obtain ⟨code, compiled, holds⟩ := exists_code_of_derives lexed derives
    (instructions_binary_eq_ok_iff.mpr ⟨first, second, lowered, lowers, rfl⟩)
  refine ⟨code, compiled, fun context => ?_⟩
  rw [holds, Expression.meaning]
  rfl

/-- **A field before a quoted text.** -/
theorem exists_code_field_first (read : Expression.ofText subject = .ok (.field word field offset))
    (bound : slots.find? word = some slot) (kind : quote = '\'' ∨ quote = '"')
    (free : quote ∉ mask.toList) :
    ∃ code : Code Float, Code.ofText slots (subject ++ " == " ++ quoted quote mask) = .ok code ∧
      ∀ context name, context.field slot field = .text name →
        code.holds context = (⟨mask⟩ : Pattern).isMatch name := by
  obtain ⟨lexemes, lexed, derives⟩ := ofText_eq_ok_iff_derives.mp read
  have split : (subject ++ " == " ++ quoted quote mask).toList = subject.toList ++ ' ' ::
      (['=', '='] ++ ' ' :: (quote :: (mask.toList ++ [quote]) ++ [])) := by
    simp [quoted]
  have blank : Text.isBlank ' ' = true := by decide
  have ends (rest : List Char) : ∀ next ∈ (' ' :: rest).head?, EndsToken next := by
    intro next first
    exact .inr (Option.some.inj first).symm
  have text := lexedAs_nothing.token (covers_quoted kind free)
  have compared := (text.blank blank).token covers_equal
  obtain ⟨_, whole, distance, _, rfl, sign, _, rfl, compares, last, _, rfl, text, rfl⟩ :=
    lexed.lexedAs (ends _) (compared.blank blank) 0
  rw [← split] at whole
  have right : Derives .sum [last] (.text mask) := Derives.ofRank (by decide) (.text text)
  obtain ⟨code, compiled, holds⟩ := exists_code_equal whole compares
    (derives.moved distance).of_field right (instructions_field bound _) rfl
  refine ⟨code, compiled, fun context name here => ?_⟩
  rw [holds, meaning_field bound, here]
  show (Comparison.equal.apply context.stack (.text name) (.ofQuoted mask)).isTrue = _
  rw [Comparison.apply, (agrees?_ofQuoted ..).1]
  exact isTrue_ofBool _

/-- **A field after a quoted text.** -/
theorem exists_code_field_last (read : Expression.ofText subject = .ok (.field word field offset))
    (bound : slots.find? word = some slot) (kind : quote = '\'' ∨ quote = '"')
    (free : quote ∉ mask.toList) :
    ∃ code : Code Float, Code.ofText slots (quoted quote mask ++ " == " ++ subject) = .ok code ∧
      ∀ context name, context.field slot field = .text name →
        code.holds context = (⟨mask⟩ : Pattern).isMatch name := by
  obtain ⟨lexemes, lexed, derives⟩ := ofText_eq_ok_iff_derives.mp read
  have split : (quoted quote mask ++ " == " ++ subject).toList =
      quote :: (mask.toList ++ [quote]) ++ ' ' ::
        (['=', '='] ++ ' ' :: (subject.toList ++ [])) := by
    simp [quoted]
  have blank : Text.isBlank ' ' = true := by decide
  have none : ∀ next ∈ ([] : List Char).head?, EndsToken next := fun _ first => nomatch first
  have held := lexed.lexedAs none lexedAs_nothing
  have compared := (held.blank blank).token covers_equal
  obtain ⟨_, whole, first, _, rfl, text, sign, _, rfl, compares, distance, _, rfl, rfl⟩ :=
    (compared.blank blank).token (covers_quoted kind free) 0
  rw [← split, List.append_nil] at whole
  have left : Derives .sum [first] (.text mask) := Derives.ofRank (by decide) (.text text)
  obtain ⟨code, compiled, holds⟩ := exists_code_equal whole compares left
    (derives.moved distance).of_field rfl (instructions_field bound _)
  refine ⟨code, compiled, fun context name here => ?_⟩
  rw [holds, meaning_field bound, here]
  show (Comparison.equal.apply context.stack (.ofQuoted mask) (.text name)).isTrue = _
  rw [Comparison.apply, (agrees?_ofQuoted ..).2]
  exact isTrue_ofBool _

end Comparisons

end DesignRules.Condition

namespace DesignRules

open Condition

/-- **A mask matches its name.** A pattern that comes from a name by putting stars in the place of
parts of it and question marks in that of characters of one byte, and that has no brackets, braces
and backslashes, matches the name. So does a comparison of a field that holds the name with the
quoted pattern, on either side and with either quote, if the name is free of the quote. -/
theorem mask_matches_name (mask name : String)
    (masks : Glob.Masks (fun c => c.utf8Size = 1) mask.toList name.toList)
    (bare : ∀ c ∈ mask.toList, Glob.isBare c = true) :
    (⟨mask⟩ : Pattern).isMatch name = true ∧
    ∀ quote, quote = '\'' ∨ quote = '"' → quote ∉ name.toList →
      ∀ (slots : SlotTable) (subject word field : String) (offset : Nat) (slot : Slot),
        Expression.ofText subject = .ok (.field word field offset) → slots.find? word = some slot →
          (∃ code : Code Float,
            Code.ofText slots (subject ++ " == " ++ quoted quote mask) = .ok code ∧
              ∀ context, context.field slot field = .text name → code.holds context = true) ∧
          ∃ code : Code Float,
            Code.ofText slots (quoted quote mask ++ " == " ++ subject) = .ok code ∧
              ∀ context, context.field slot field = .text name → code.holds context = true := by
  have matched := Pattern.isMatch_of_masks masks bare
  refine ⟨matched, ?_⟩
  intro quote kind free slots subject word field offset slot read bound
  have apart : quote ∉ mask.toList := by
    intro member
    rcases masks.mem member with star | question | member
    · rcases kind with rfl | rfl <;> cases star
    · rcases kind with rfl | rfl <;> cases question
    · exact free member
  constructor
  · obtain ⟨code, compiled, holds⟩ := exists_code_field_first read bound kind apart
    exact ⟨code, compiled, fun context here => (holds context name here).trans matched⟩
  · obtain ⟨code, compiled, holds⟩ := exists_code_field_last read bound kind apart
    exact ⟨code, compiled, fun context here => (holds context name here).trans matched⟩

/-- A pad with a name. -/
def namedPad (name : String) : Item Float :=
  { id := .nil, name := name, shape := .path ⟨0, [], 0.0⟩ }

/-- A star for four characters, of which one takes two bytes, and a question mark for a letter. -/
theorem mask_matches_name_of_pad :
    (⟨"IO*.?u"⟩ : Pattern).isMatch "IO_7/é.Cu" = true ∧
    ∃ code : Code Float, Code.ofText .standard "A.Name == \"IO*.?u\"" = .ok code ∧
      code.holds { first := some (namedPad "IO_7/é.Cu"), stack := {} } = true := by
  have masks : Glob.Masks (fun c => c.utf8Size = 1) "IO*.?u".toList "IO_7/é.Cu".toList :=
    .keep (.keep (@Glob.Masks.part _ _ ['_', '7', '/', 'é'] _
      (.keep (.one (by decide) (.keep .nothing)))))
  have bare : ∀ c ∈ "IO*.?u".toList, Glob.isBare c = true := List.all_eq_true.mp (by decide)
  have subject : Expression.ofText "A.Name" = .ok (.field "A" "Name" 0) := by
    have read : lexemes "A.Name" =
        .ok [⟨.word "A", 0, "A"⟩, ⟨.dot, 1, "."⟩, ⟨.word "Name", 2, "Name"⟩,
          ⟨.finish, 6, ""⟩] := toOption_eq_some_iff.mp (by decide +kernel)
    rw [Expression.ofText, read]
    rfl
  have spelled : "A.Name" ++ " == " ++ quoted '"' "IO*.?u" = "A.Name == \"IO*.?u\"" := by decide
  obtain ⟨matched, compares⟩ := mask_matches_name _ _ masks bare
  obtain ⟨⟨code, compiled, holds⟩, -⟩ :=
    compares '"' (.inr rfl) (by decide) .standard _ _ _ _ _ subject rfl
  rw [spelled] at compiled
  exact ⟨matched, code, compiled, holds _ rfl⟩

/-- **A mask with further syntax** may miss its name: brackets that the mask keeps are a class,
braces an alternation, and a backslash is an escape. -/
theorem mask_with_syntax_misses_name :
    (Glob.Masks (fun _ => True) "D[*]".toList "D[0]".toList ∧
      (⟨"D[*]"⟩ : Pattern).isMatch "D[0]" = false) ∧
    (Glob.Masks (fun _ => True) "\x7ba\x7d?".toList "\x7ba\x7db".toList ∧
      (⟨"\x7ba\x7d?"⟩ : Pattern).isMatch "\x7ba\x7db" = false) ∧
    (Glob.Masks (fun _ => True) "a\x7d?".toList "a\x7db".toList ∧
      (⟨"a\x7d?"⟩ : Pattern).isMatch "a\x7db" = false) ∧
    Glob.Masks (fun _ => True) "a\\?".toList "a\\b".toList ∧
      (⟨"a\\?"⟩ : Pattern).isMatch "a\\b" = false := by
  refine ⟨⟨?_, by decide +kernel⟩, ⟨?_, by decide +kernel⟩, ⟨?_, by decide +kernel⟩, ?_,
    by decide +kernel⟩
  · exact .keep (.keep (@Glob.Masks.part _ _ ['0'] _ (.keep .nothing)))
  · exact .keep (.keep (.keep (.one trivial .nothing)))
  · exact .keep (.keep (.one trivial .nothing))
  · exact .keep (.keep (.one trivial .nothing))

end DesignRules

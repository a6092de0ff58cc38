/-
**Nothing of a condition is lost in its tokens.**

The tokens of a text tile it: they stand at their offsets one after the other, and only white space
stands between them. What a token is depends on its own characters only, as long as nothing follows
that goes on with it; so the texts of the tokens with spaces between them have the same tokens.

* `scan_own`: a token from its own characters.
* `Tiles`, `Lexed.tiles`: how the tokens cover a text.
* `Lexed.covers`, `exists_lexed_spaced`: the tokens of texts with spaces between them.
* `lexing_is_lossless`: both for the tokens of any text.
-/

import DesignRules.Proofs.Condition.Enclosed

namespace DesignRules.Condition

open Text (isBlank width width_append width_cons)

/-! ### A token from its own characters -/

section Own

variable {offset count : Nat} {c : Char} {rest : List Char} {token : Token}

theorem take_length_takeWhile {α : Type} (p : α → Bool) (list : List α) :
    list.take (list.takeWhile p).length = list.takeWhile p :=
  (List.prefix_iff_eq_take.mp (List.takeWhile_prefix p)).symm

/-- What a condition holds for is found again with the element that stops it. -/
theorem takeWhile_take_succ {α : Type} (p : α → Bool) (list : List α) :
    (list.take ((list.takeWhile p).length + 1)).takeWhile p = list.takeWhile p := by
  induction list with
  | nil => rfl
  | cons head rest ih =>
    by_cases holds : p head = true
    · simp [holds, ih]
    · simp [holds]

/-- A quoted text with its closing quote. -/
theorem scanQuoted_own (scanned : scanQuoted offset c rest = .ok (token, count)) :
    scanQuoted offset c (rest.take count) = .ok (token, count) := by
  unfold scanQuoted at scanned
  dsimp only at scanned
  split at scanned
  next closed =>
    obtain ⟨rfl, rfl⟩ := Prod.mk.inj (Except.ok.inj scanned)
    rw [scanQuoted, takeWhile_take_succ, List.length_take_of_le closed,
      if_pos (Nat.lt_succ_self _)]
  next => cases scanned

theorem not_startsNumber_take (starts : ¬ startsNumber (c :: rest) = true) (count : Nat) :
    ¬ startsNumber (c :: rest.take count) = true := by
  rw [startsNumber_cons] at starts ⊢
  split at starts
  next dotted =>
    rw [if_pos dotted, List.head?_take]
    split
    · exact Bool.false_ne_true
    · exact starts
  next dotted =>
    rw [if_neg dotted]
    exact starts

/-- A number with the letters of its unit. -/
theorem scanNumber_own (starts : startsNumber (c :: rest) = true)
    (scanned : scanNumber offset (c :: rest) = .ok (token, count)) :
    startsNumber (c :: rest.take count) = true ∧
      scanNumber offset (c :: rest.take count) = .ok (token, count) := by
  obtain ⟨numeral, letters, after, quantity, whole, stands, known, rfl, counted⟩ :=
    exists_standsBefore_of_scanNumber starts scanned
  have covered : c :: rest.take count = numeral.text ++ (letters ++ []) := by
    rw [take_count_eq whole counted, List.append_nil]
  rw [covered]
  refine ⟨stands.alone.starts_append, ?_⟩
  rw [stands.alone.scanNumber_eq_ok known, ← counted, Nat.add_sub_cancel]

/-- **A token from its own characters.** What follows a token does not matter for what it is. -/
theorem scan_own (scanned : scan offset c rest = .ok (token, count)) :
    scan offset c (rest.take count) = .ok (token, count) := by
  unfold scan at scanned ⊢
  split at scanned
  next quote =>
    rw [if_pos quote]
    exact scanQuoted_own scanned
  next noQuote =>
    rw [if_neg noQuote]
    split at scanned
    next digit =>
      obtain ⟨starts, own⟩ := scanNumber_own digit scanned
      rw [if_pos starts]
      exact own
    next noDigit =>
      rw [if_neg (not_startsNumber_take noDigit count)]
      split at scanned
      next letter =>
        obtain ⟨rfl, rfl⟩ := Prod.mk.inj (Except.ok.inj scanned)
        rw [if_pos letter, take_length_takeWhile, List.takeWhile_idem]
      next noLetter =>
        rw [if_neg noLetter]
        split at scanned
        next found marked =>
          obtain rfl := Except.ok.inj scanned
          rw [(mark?_own marked).2]
        next => cases scanned

end Own

/-! ### Tiles -/

/-- **How tokens cover a text**: each of them is a piece of it at its offset, one after the other,
and every byte that none of them covers belongs to white space. -/
structure Tiles (start : Nat) (characters : List Char) (lexemes : List Lexeme) : Prop where
  nonempty : ∀ lexeme ∈ lexemes, lexeme.token ≠ .finish ∧ lexeme.text ≠ ""
  stands : ∀ lexeme ∈ lexemes, StandsAt start characters lexeme.offset lexeme.text.toList
  ordered : lexemes.Pairwise fun first second => first.offset < second.offset ∧
    first.offset + first.text.utf8ByteSize ≤ second.offset
  blank : ∀ before c after byte, characters = before ++ c :: after →
    start + width before ≤ byte → byte < start + width before + c.utf8Size →
    (∀ lexeme ∈ lexemes,
      ¬ (lexeme.offset ≤ byte ∧ byte < lexeme.offset + lexeme.text.utf8ByteSize)) →
    isBlank c = true

namespace Lexed

variable {offset : Nat} {characters : List Char} {lexemes : List Lexeme}

theorem text_ne_empty (lexed : Lexed offset characters lexemes) {lexeme : Lexeme}
    (member : lexeme ∈ lexemes) : lexeme.text ≠ "" := by
  obtain ⟨_, _, _, _, -, -, -, text⟩ := lexed.exists_scan member
  rw [text]
  intro empty
  have none := congrArg String.toList empty
  rw [String.toList_ofList] at none
  cases none

/-- **Between the tokens** there is only white space. -/
theorem isBlank_of_uncovered (lexed : Lexed offset characters lexemes) {before after : List Char}
    {c : Char} {byte : Nat} (split : characters = before ++ c :: after)
    (starts : offset + width before ≤ byte) (ends : byte < offset + width before + c.utf8Size)
    (uncovered : ∀ lexeme ∈ lexemes,
      ¬ (lexeme.offset ≤ byte ∧ byte < lexeme.offset + lexeme.text.utf8ByteSize)) :
    isBlank c = true := by
  induction lexed generalizing before with
  | nothing => exact absurd split (by simp)
  | @blank offset first rest lexemes blank _ ih =>
    cases before with
    | nil =>
      obtain ⟨rfl, -⟩ := List.cons.inj split
      exact blank
    | cons _ before =>
      obtain ⟨rfl, later⟩ := List.cons.inj split
      rw [width_cons] at starts ends
      exact ih later (by omega) (by omega) uncovered
  | @token offset first rest token count lexemes _ _ _ ih =>
    obtain ⟨apart, others⟩ := List.forall_mem_cons.mp uncovered
    dsimp only at apart
    rw [utf8ByteSize_ofList] at apart
    rw [← cons_take_append_drop first rest count] at split
    rcases List.append_eq_append_iff.mp split with ⟨between, rfl, later⟩ | ⟨inside, covered, same⟩
    · rw [width_append] at starts ends
      exact ih later (by omega) (by omega) others
    · cases inside with
      | nil =>
        rw [List.append_nil] at covered
        rw [← covered] at starts ends
        have later : rest.drop count = [] ++ c :: after := same.symm
        exact ih later starts ends others
      | cons next inside =>
        obtain ⟨rfl, -⟩ := List.cons.inj same
        rw [covered, width_append, width_cons] at apart
        omega

theorem tiles (lexed : Lexed offset characters lexemes) : Tiles offset characters lexemes where
  nonempty := fun _ member => ⟨lexed.ne_finish member, lexed.text_ne_empty member⟩
  stands := fun _ member => lexed.standsAt member
  ordered := lexed.pairwise_apart
  blank := fun _ _ _ _ split starts ends uncovered =>
    lexed.isBlank_of_uncovered split starts ends uncovered

end Lexed

/-! ### Texts with spaces between them -/

/-- What a token is, and its text, wherever it stands. -/
def Lexeme.spelling (lexeme : Lexeme) : Token × String := (lexeme.token, lexeme.text)

/-- **The text of a token** is the same token before a space. -/
theorem Lexed.covers {offset : Nat} {characters : List Char} {lexemes : List Lexeme}
    (lexed : Lexed offset characters lexemes) {lexeme : Lexeme} (member : lexeme ∈ lexemes)
    {tail : List Char} (ends : ∀ next ∈ tail.head?, EndsToken next) :
    Covers lexeme.token lexeme.text.toList tail := by
  induction lexed with
  | nothing => cases member
  | blank _ _ ih => exact ih member
  | @token offset c rest token count lexemes solid scanned _ ih =>
    rcases List.mem_cons.mp member with rfl | member
    · refine ⟨c, rest.take count, String.toList_ofList, solid, fun other => ?_⟩
      rw [List.length_take_of_le (length_le_of_scan scanned)]
      exact scan_append ends (scan_own scanned)
    · exact ih member

section Spaced

variable {lexemes : List Lexeme}

/-- **Texts of tokens with spaces between them** have these tokens, also with a space after them. -/
theorem exists_lexed_spaced
    (known : ∀ lexeme ∈ lexemes, ∀ tail : List Char, (∀ next ∈ tail.head?, EndsToken next) →
      Covers lexeme.token lexeme.text.toList tail)
    (offset : Nat) {tail : List Char} (ends : tail = [] ∨ tail = [' ']) :
    ∃ again, Lexed offset ((" ".intercalate (lexemes.map Lexeme.text)).toList ++ tail) again ∧
      again.map Lexeme.spelling = lexemes.map Lexeme.spelling := by
  have blank : isBlank ' ' = true := by decide
  have nothing (offset : Nat) : Lexed offset tail [] := by
    rcases ends with rfl | rfl
    · exact .nothing
    · exact .blank blank .nothing
  induction lexemes generalizing offset with
  | nil => exact ⟨[], nothing offset, rfl⟩
  | cons lexeme lexemes ih =>
    obtain ⟨first, others⟩ := List.forall_mem_cons.mp known
    have spelled : (lexeme.token, String.ofList lexeme.text.toList) = lexeme.spelling :=
      congrArg _ String.ofList_toList
    cases lexemes with
    | nil =>
      have closed : ∀ next ∈ tail.head?, EndsToken next := by
        rcases ends with rfl | rfl
        · exact fun _ first => nomatch first
        · exact fun _ first => .inr (Option.some.inj first).symm
      refine ⟨_, (first tail closed).lexed (nothing _), ?_⟩
      exact congrArg (fun key => [key]) spelled
    | cons second lexemes =>
      obtain ⟨again, lexed, same⟩ := ih others (offset + width lexeme.text.toList + ' '.utf8Size)
      rw [List.map_cons, List.map_cons, String.intercalate_cons_cons, String.toList_append,
        String.toList_append, List.append_assoc, List.append_assoc]
      refine ⟨_, (first _ ?_).lexed (.blank blank lexed), ?_⟩
      · exact fun _ first => .inr (Option.some.inj first).symm
      · exact congrArg₂ List.cons spelled same

/-- The end of a text adds no more than a space. -/
theorem toList_intercalate_concat (texts : List String) :
    ∃ tail, (tail = [] ∨ tail = [' ']) ∧
      (" ".intercalate (texts ++ [""])).toList = (" ".intercalate texts).toList ++ tail := by
  cases texts with
  | nil => exact ⟨[], .inl rfl, rfl⟩
  | cons text texts =>
    refine ⟨[' '], .inr rfl, ?_⟩
    rw [String.intercalate_append_of_ne_nil (by simp) (by simp)]
    simp

end Spaced

/-- **No part of a text is lost in its tokens.** The last token of a text is its end, at the length
of the text in bytes; the others tile the text. The texts of the tokens with single spaces between
them, with or without the empty one of the end, have the same tokens with the same texts again. -/
theorem lexing_is_lossless (text : String) (all : List Lexeme) (read : lexemes text = .ok all) :
    ∃ others, all = others ++ [⟨.finish, text.utf8ByteSize, ""⟩] ∧
      Tiles 0 text.toList others ∧
      ∀ kept, kept = others ∨ kept = all →
        ∃ again, lexemes (" ".intercalate (kept.map Lexeme.text)) = .ok again ∧
          again.map Lexeme.spelling = all.map Lexeme.spelling := by
  obtain ⟨others, lexed, rfl⟩ := lexemesFrom_eq_ok_iff.mp read
  have size : 0 + width text.toList = text.utf8ByteSize := by
    rw [Nat.zero_add, ← utf8ByteSize_ofList, String.ofList_toList]
  refine ⟨others, by rw [size], lexed.tiles, fun kept which => ?_⟩
  have tailed : ∃ tail, (tail = [] ∨ tail = [' ']) ∧
      (" ".intercalate (kept.map Lexeme.text)).toList =
        (" ".intercalate (others.map Lexeme.text)).toList ++ tail := by
    rcases which with rfl | rfl
    · exact ⟨[], .inl rfl, (List.append_nil _).symm⟩
    · rw [List.map_append]
      exact toList_intercalate_concat _
  obtain ⟨tail, ends, spelled⟩ := tailed
  obtain ⟨again, relexed, same⟩ :=
    exists_lexed_spaced (fun _ member _ closed => lexed.covers member closed) 0 ends
  rw [← spelled] at relexed
  refine ⟨_, lexemesFrom_eq_ok_iff.mpr ⟨again, relexed, rfl⟩, ?_⟩
  rw [List.map_append, List.map_append, same]
  rfl

/-- Letters of two bytes, a number with its unit, and tokens without space between them. -/
theorem lexing_is_lossless_of_letters :
    ∃ all, lexemes "é.Net=='π r' ||2.5mm" = .ok all ∧
      (∃ others, all = others ++ [⟨.finish, 22, ""⟩]) ∧
      all.map Lexeme.text = ["é", ".", "Net", "==", "'π r'", "||", "2.5mm", ""] ∧
      ∃ again, lexemes "é . Net == 'π r' || 2.5mm " = .ok again ∧
        again.map Lexeme.spelling = all.map Lexeme.spelling := by
  have texts : (lexemes "é.Net=='π r' ||2.5mm").toOption.map (·.map Lexeme.text) =
      some ["é", ".", "Net", "==", "'π r'", "||", "2.5mm", ""] := by decide +kernel
  cases read : lexemes "é.Net=='π r' ||2.5mm" with
  | error fault =>
    rw [read] at texts
    cases texts
  | ok all =>
    rw [read] at texts
    have texts : all.map Lexeme.text = ["é", ".", "Net", "==", "'π r'", "||", "2.5mm", ""] :=
      Option.some.inj texts
    obtain ⟨others, same, -, relexed⟩ := lexing_is_lossless _ all read
    have spaced : " ".intercalate (all.map Lexeme.text) = "é . Net == 'π r' || 2.5mm " := by
      rw [texts]
      decide
    have relexed := relexed all (.inr rfl)
    rw [spaced] at relexed
    exact ⟨all, rfl, ⟨others, same⟩, texts, relexed⟩

end DesignRules.Condition

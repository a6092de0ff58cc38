/-
**The tokens of written forms.**

However its items are kept apart, a written form has the tokens of the form: a parenthesis at each
end of a list, a word for a bare atom and a closed text for a quoted one. A bare word goes on until
something stops it, so what is written is scanned together with what follows.

* `Form.tokens`, `Form.allTokens`: the tokens of a form, and of some forms.
* `Spells`: characters that make up some tokens, before anything that is admitted.
* `spells_gap`, `spells_bare`, `spells_quoted`: gaps and atoms.
* `spells_written`, `spells_writtenItems`: forms.
-/

import DesignRules.Proofs.RuleText.Seam
import DesignRules.RuleText.Written

namespace DesignRules.RuleText

open Scanner (endsWord stepBetween tokens_cons unreversed)
open Text (isBlank)

/-! ### The tokens of a form -/

namespace Form

mutual

/-- The tokens of a form. -/
def tokens : Form → List Token
  | .atom text false _ => [.word text]
  | .atom text true _ => [.text text true]
  | .list items _ => .opening :: (allTokens items ++ [.closing])

/-- The tokens of some forms one after the other. -/
def allTokens : List Form → List Token
  | [] => []
  | form :: forms => form.tokens ++ allTokens forms

end

end Form

/-! ### Characters that make up tokens -/

/-- The scanner between tokens at a line. -/
abbrev Scanner.between (line : Nat) : Scanner := ⟨.between, line⟩

/-- Characters that make up some tokens, if what follows them is admitted; the scanner is between
tokens before and after them. -/
def Spells (admits : List Char → Prop) (text : List Char) (tokens : List Token) : Prop :=
  ∀ line, ∃ later, ∀ rest, admits rest →
    ((Scanner.between line).tokens (text ++ rest)).map Located.token =
      tokens ++ ((Scanner.between later).tokens rest).map Located.token

/-- Anything at all. -/
def Anything (_ : List Char) : Prop := True

/-- What stops a bare word: the end of the document, or a character that ends words. -/
def StopsWord (rest : List Char) : Prop := ∀ c ∈ rest.head?, endsWord c = true

theorem stopsWord_nil : StopsWord [] := nofun

theorem stopsWord_cons {c : Char} (ends : endsWord c = true) (rest : List Char) :
    StopsWord (c :: rest) := by
  rintro _ ⟨⟩
  exact ends

namespace Spells

variable {admits others : List Char → Prop} {front back : List Char} {tokens more : List Token}

/-- Two pieces of text one after the other, the second of which is admitted after the first. -/
theorem append (first : Spells admits front tokens) (second : Spells others back more)
    (admitted : ∀ rest, others rest → admits (back ++ rest)) :
    Spells others (front ++ back) (tokens ++ more) := by
  intro line
  obtain ⟨middle, begins⟩ := first line
  obtain ⟨later, goesOn⟩ := second middle
  refine ⟨later, fun rest admitted' => ?_⟩
  rw [List.append_assoc, begins _ (admitted rest admitted'), goesOn rest admitted',
    List.append_assoc]

/-- What may stand before anything may stand before what is admitted. -/
theorem mono (spells : Spells Anything front tokens) : Spells admits front tokens := by
  intro line
  obtain ⟨later, begins⟩ := spells line
  exact ⟨later, fun rest _ => begins rest trivial⟩

/-- After what may stand before anything every other piece is admitted. -/
theorem before (first : Spells Anything front tokens) (second : Spells others back more) :
    Spells others (front ++ back) (tokens ++ more) :=
  first.append second fun _ _ => trivial

end Spells

/-! ### Parentheses and gaps -/

theorem spells_nothing (admits : List Char → Prop) : Spells admits [] [] :=
  fun line => ⟨line, fun _ _ => rfl⟩

theorem spells_opening : Spells Anything ['('] [.opening] :=
  fun line => ⟨line, fun _ _ => rfl⟩

theorem spells_closing : Spells Anything [')'] [.closing] :=
  fun line => ⟨line, fun _ _ => rfl⟩

/-- A comment is left out up to the end of its line. -/
theorem tokens_comment {words : List Char} (oneLine : '\n' ∉ words) (line : Nat)
    (rest : List Char) :
    Scanner.tokens ⟨.comment, line⟩ (words ++ '\n' :: rest) =
      (Scanner.between (line + 1)).tokens rest := by
  induction words with
  | nil => rfl
  | cons c words ih =>
    obtain ⟨differs, others⟩ := not_or.mp (mt List.mem_cons.mpr oneLine)
    have goesOn : Scanner.step ⟨.comment, line⟩ c = (⟨.comment, line⟩, []) :=
      if_neg (Ne.symm differs)
    rw [List.cons_append, tokens_cons, goesOn]
    exact ih others

/-- A gap makes up no token. -/
theorem spells_gap {gap : List Char} (free : Gap gap) : Spells Anything gap [] := by
  induction free with
  | nothing => exact spells_nothing _
  | @blank c rest white _ ih =>
    intro line
    have noComment : c ≠ '#' := by
      rintro rfl
      exact absurd white (by decide)
    obtain ⟨later, goesOn⟩ := ih (if c = '\n' then line + 1 else line)
    refine ⟨later, fun others _ => ?_⟩
    have passes : (Scanner.between line).step c =
        (Scanner.between (if c = '\n' then line + 1 else line), []) := by
      show stepBetween line c = _
      rw [stepBetween, if_neg noComment, if_pos white]
    rw [List.cons_append, tokens_cons, passes]
    exact goesOn others trivial
  | @comment words rest oneLine _ ih =>
    intro line
    obtain ⟨later, goesOn⟩ := ih (line + 1)
    refine ⟨later, fun others _ => ?_⟩
    have begins : (Scanner.between line).step '#' = (⟨.comment, line⟩, []) := rfl
    have split : '#' :: words ++ '\n' :: rest ++ others =
        '#' :: (words ++ '\n' :: (rest ++ others)) := by
      rw [List.append_assoc]
      rfl
    rw [split, tokens_cons, begins, tokens_comment oneLine]
    exact goesOn others trivial

/-- A gap stops a word, unless it is empty and nothing after it does. -/
theorem stopsWord_gap {gap rest : List Char} (free : Gap gap)
    (stops : gap = [] → StopsWord rest) : StopsWord (gap ++ rest) := by
  cases free with
  | nothing => exact stops rfl
  | blank white _ =>
    refine stopsWord_cons ?_ _
    rw [endsWord, white]
    rfl
  | comment _ _ => exact stopsWord_cons rfl _

/-! ### Atoms -/

/-- A word goes on while no character ends it. -/
theorem tokens_word {name : List Char} (inner : ∀ c ∈ name, endsWord c = false)
    (reversed : List Char) (line : Nat) (rest : List Char) :
    Scanner.tokens ⟨.word reversed, line⟩ (name ++ rest) =
      Scanner.tokens ⟨.word (name.reverse ++ reversed), line⟩ rest := by
  induction name generalizing reversed with
  | nil => rfl
  | cons c name ih =>
    obtain ⟨here, others⟩ := List.forall_mem_cons.mp inner
    have goesOn : Scanner.step ⟨.word reversed, line⟩ c = (⟨.word (c :: reversed), line⟩, []) :=
      if_neg (Bool.eq_false_iff.mp here)
    rw [List.cons_append, tokens_cons, goesOn, List.nil_append, ih others, List.reverse_cons,
      List.append_assoc]
    rfl

/-- What stops a word is scanned as if it stood between tokens. -/
theorem tokens_word_of_stopsWord {rest : List Char} (stops : StopsWord rest)
    (reversed : List Char) (line : Nat) :
    Scanner.tokens ⟨.word reversed, line⟩ rest =
      ⟨.word (unreversed reversed), line⟩ :: (Scanner.between line).tokens rest := by
  cases rest with
  | nil => rfl
  | cons c rest =>
    have ends : endsWord c = true := stops c rfl
    have closes : Scanner.step ⟨.word reversed, line⟩ c =
        ((stepBetween line c).1, ⟨.word (unreversed reversed), line⟩ :: (stepBetween line c).2) :=
      if_pos ends
    rw [tokens_cons, closes, tokens_cons]
    rfl

/-- A character that ends no word starts one. -/
theorem stepBetween_of_inner {c : Char} (inner : endsWord c = false) (line : Nat) :
    stepBetween line c = (⟨.word [c], line⟩, []) := by
  simp only [endsWord, Bool.or_eq_false_iff, beq_eq_false_iff_ne] at inner
  obtain ⟨⟨⟨⟨white, opens⟩, closes⟩, quotes⟩, comments⟩ := inner
  rw [stepBetween, if_neg comments, if_neg (Bool.eq_false_iff.mp white), if_neg opens,
    if_neg closes, if_neg quotes]

/-- A bare atom makes up a word, if something stops it. -/
theorem spells_bare {name : String} (bare : isBare name = true) :
    Spells StopsWord name.toList [.word name] := by
  obtain ⟨written, inner⟩ : name.isEmpty = false ∧ ∀ c ∈ name.toList, endsWord c = false := by
    simpa [isBare] using bare
  intro line
  refine ⟨line, fun rest stops => ?_⟩
  cases characters : name.toList with
  | nil =>
    rw [String.toList_eq_nil_iff.mp characters] at written
    cases written
  | cons c others =>
    rw [characters] at inner
    obtain ⟨first, inside⟩ := List.forall_mem_cons.mp inner
    have begins : (Scanner.between line).step c = (⟨.word [c], line⟩, []) :=
      stepBetween_of_inner first line
    have whole : unreversed (others.reverse ++ [c]) = name := by
      rw [unreversed, List.reverse_append, List.reverse_reverse, ← String.ofList_toList (s := name),
        characters]
      rfl
    rw [List.cons_append, tokens_cons, begins, List.nil_append, tokens_word inside,
      tokens_word_of_stopsWord stops, whole]
    rfl

/-- A character of a quoted atom is read back from its escape. -/
theorem tokens_escapedCharacter (c : Char) (start line : Nat) (reversed rest : List Char) :
    Scanner.tokens ⟨.text start reversed, line⟩ (escapedCharacter c ++ rest) =
      Scanner.tokens ⟨.text start (c :: reversed), line⟩ rest := by
  unfold escapedCharacter
  split
  · rename_i broken
    subst broken
    rfl
  · rename_i whole
    split
    · rename_i marked
      rcases marked with rfl | rfl <;> rfl
    · rename_i plain
      obtain ⟨noEscape, noQuote⟩ := not_or.mp plain
      have goesOn : Scanner.step ⟨.text start reversed, line⟩ c =
          (⟨.text start (c :: reversed), line⟩, []) := by
        simp only [Scanner.step, if_neg noQuote, if_neg whole, if_neg noEscape]
      rw [List.singleton_append, tokens_cons, goesOn, List.nil_append]

theorem tokens_flatMap_escapedCharacter (content : List Char) (start line : Nat)
    (reversed rest : List Char) :
    Scanner.tokens ⟨.text start reversed, line⟩ (content.flatMap escapedCharacter ++ rest) =
      Scanner.tokens ⟨.text start (content.reverse ++ reversed), line⟩ rest := by
  induction content generalizing reversed with
  | nil => rfl
  | cons c content ih =>
    rw [List.flatMap_cons, List.append_assoc, tokens_escapedCharacter, ih, List.reverse_cons,
      List.append_assoc]
    rfl

/-- A quoted atom makes up a closed text. -/
theorem spells_quoted (content : String) :
    Spells Anything (quotedText content) [.text content true] := by
  intro line
  refine ⟨line, fun rest _ => ?_⟩
  have begins : (Scanner.between line).step '"' = (⟨.text line [], line⟩, []) := rfl
  have ends (reversed : List Char) :
      Scanner.tokens ⟨.text line reversed, line⟩ ('"' :: rest) =
        ⟨.text (unreversed reversed) true, line⟩ :: (Scanner.between line).tokens rest := rfl
  have whole : unreversed (content.toList.reverse ++ []) = content := by
    rw [unreversed, List.append_nil, List.reverse_reverse, String.ofList_toList]
  have split : quotedText content ++ rest =
      '"' :: (content.toList.flatMap escapedCharacter ++ '"' :: rest) := by
    simp [quotedText]
  rw [split, tokens_cons, begins, List.nil_append, tokens_flatMap_escapedCharacter, ends, whole]
  rfl

/-! ### Forms -/

mutual

/-- **A written form makes up its tokens**, if something stops the word that it may end with. -/
theorem spells_written : {form : Form} → {text : List Char} → Written form text →
    Spells StopsWord text form.tokens
  | _, _, .bare bare => by
    rw [Form.tokens]
    exact spells_bare bare
  | _, _, .quoted => by
    rw [Form.tokens]
    exact (spells_quoted _).mono
  | _, _, .list items => by
    rw [Form.tokens]
    exact spells_opening.before
      ((spells_writtenItems items).append spells_closing.mono fun rest _ => stopsWord_cons rfl rest)

/-- **Written forms make up their tokens.** -/
theorem spells_writtenItems : {forms : List Form} → {text : List Char} →
    WrittenItems forms text → Spells StopsWord text (Form.allTokens forms)
  | _, _, .none free => by
    rw [Form.allTokens]
    exact (spells_gap free).mono
  | _, _, .last before written after => by
    have spells := (spells_gap before).before (spells_written written)
    rw [Form.allTokens, Form.allTokens]
    exact spells.append (spells_gap after).mono fun rest stops =>
      stopsWord_gap after fun _ => stops
  | _, _, .more before written between apart others => by
    have spells := ((spells_gap before).before (spells_written written)).append
      (spells_gap between) fun rest _ =>
        stopsWord_gap between fun empty => absurd empty apart
    rw [Form.allTokens]
    have all := spells.before (spells_writtenItems others)
    rw [List.nil_append, List.append_nil] at all
    exact all

end

end DesignRules.RuleText

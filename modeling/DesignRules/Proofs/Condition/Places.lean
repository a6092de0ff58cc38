/-
**Where the tokens of a condition stand.**

Every token covers the piece of the text that starts at its offset, and so does what is wrong with a
text that has no tokens. A word covers all characters from its first on that may continue it.

* `StandsAt`, `StandsAlone`: a piece of a text at a byte offset, and a word there that ends with it.
* `scan_eq_ok`, `scan_eq_error`: what one token can be, and why one is not read.
* `length_le_of_scan`, `word_of_scan`, `standsAt_of_scan_eq_error`: one token.
* `Lexed`, `lexemesFrom_eq_ok_iff`: the tokens of a text one after the other.
* `Lexed.standsAt`, `Lexed.standsAlone`: where they stand.
* `Lexed.pairwise_apart`: each token ends before the next one starts.
* `LexedUpTo`, `lexemesFrom_eq_error_iff`: the tokens before the first one that is not read.
* `standsAt_of_lexemesFrom_eq_error`: what is wrong with a text that has no tokens.
* `ofText_eq_ok_iff_derives`: the trees of texts.
-/

import DesignRules.Proofs.Condition.Acceptance
import DesignRules.Proofs.Condition.Numbers
import DesignRules.Proofs.Results
import Mathlib.Data.List.TakeWhile

namespace DesignRules.Condition

open Text (isBlank isLetter isLetterOrNumeral width width_append width_cons width_nil)

/-! ### Pieces of a text -/

/-- Whether a piece stands at a byte offset of some characters, the first of which is at byte
`start`. -/
def StandsAt (start : Nat) (characters : List Char) (offset : Nat) (piece : List Char) : Prop :=
  ∃ before after, characters = before ++ piece ++ after ∧ offset = start + width before

/-- Whether characters of words stand at a byte offset, and no more of them follow. -/
def StandsAlone (start : Nat) (characters : List Char) (offset : Nat) (word : List Char) : Prop :=
  (∀ c ∈ word, continuesWord c = true) ∧
    ∃ before after, characters = before ++ word ++ after ∧ offset = start + width before ∧
      ∀ next ∈ after.head?, continuesWord next = false

theorem standsAt_front (start : Nat) (piece after : List Char) :
    StandsAt start (piece ++ after) start piece :=
  ⟨[], after, rfl, rfl⟩

theorem standsAt_end (start : Nat) (characters : List Char) :
    StandsAt start characters (start + width characters) [] :=
  ⟨characters, [], by simp, rfl⟩

theorem StandsAlone.standsAt {start offset : Nat} {characters word : List Char}
    (stands : StandsAlone start characters offset word) :
    StandsAt start characters offset word := by
  obtain ⟨-, before, after, split, place, -⟩ := stands
  exact ⟨before, after, split, place⟩

/-- A piece after some characters. -/
theorem StandsAt.later {start offset : Nat} (front : List Char) {rest piece : List Char}
    (stands : StandsAt (start + width front) rest offset piece) :
    StandsAt start (front ++ rest) offset piece := by
  obtain ⟨before, after, rfl, rfl⟩ := stands
  refine ⟨front ++ before, after, ?_, ?_⟩
  · simp only [List.append_assoc]
  · rw [width_append, Nat.add_assoc]

theorem StandsAt.offset_le {start offset : Nat} {characters piece : List Char}
    (stands : StandsAt start characters offset piece) :
    offset + width piece ≤ start + width characters := by
  obtain ⟨before, after, rfl, rfl⟩ := stands
  simp only [width_append]
  omega

theorem eq_nil_of_width_eq_zero {characters : List Char} (narrow : width characters = 0) :
    characters = [] := by
  cases characters with
  | nil => rfl
  | cons c rest =>
    have wide := c.utf8Size_pos
    rw [width_cons] at narrow
    omega

/-- A text is split at a byte in one way. -/
theorem append_inj_of_width {before before' after after' : List Char}
    (same : before ++ after = before' ++ after') (place : width before = width before') :
    before = before' ∧ after = after' := by
  rcases List.append_eq_append_iff.mp same with ⟨more, rfl, rfl⟩ | ⟨more, rfl, rfl⟩
  all_goals
    rw [width_append] at place
    obtain rfl : more = [] := eq_nil_of_width_eq_zero (by omega)
    simp

/-- **What stands where a word stands alone**, if it could continue a word, is a beginning of it. -/
theorem StandsAlone.standsAt_iff {start offset : Nat} {characters word piece : List Char}
    (alone : StandsAlone start characters offset word)
    (continues : ∀ c ∈ piece, continuesWord c = true) :
    StandsAt start characters offset piece ↔ piece <+: word := by
  obtain ⟨-, before, after, split, place, stops⟩ := alone
  constructor
  · rintro ⟨before', after', split', place'⟩
    rw [split, List.append_assoc, List.append_assoc] at split'
    obtain ⟨rfl, same⟩ := append_inj_of_width split' (by omega)
    rcases List.append_eq_append_iff.mp same with ⟨more, rfl, next⟩ | ⟨more, rfl, -⟩
    · cases more with
      | nil => simp
      | cons c more =>
        have stop := stops c (by rw [next]; rfl)
        rw [continues c (by simp)] at stop
        cases stop
    · exact ⟨more, rfl⟩
  · rintro ⟨more, rfl⟩
    exact ⟨before, more ++ after, by rw [split]; simp only [List.append_assoc], place⟩

/-! ### One token -/

theorem cons_take_append_drop (c : Char) (rest : List Char) (count : Nat) :
    c :: rest.take count ++ rest.drop count = c :: rest := by
  rw [List.cons_append, List.take_append_drop]

variable {offset : Nat} {c : Char} {rest : List Char}

/-- **What a token can be**: a quoted text, a number, a word or a mark. -/
theorem scan_eq_ok {token : Token} {count : Nat}
    (scanned : scan offset c rest = .ok (token, count)) :
    (∃ content, scanQuoted offset c rest = .ok (.text content, count) ∧ token = .text content) ∨
    (∃ numeral letters after quantity, c :: rest = numeral.text ++ (letters ++ after) ∧
      StandsBefore numeral letters after ∧
      Quantity.ofCharacters? (numeral.text ++ letters) = some quantity ∧
      token = .number quantity ∧ count + 1 = (numeral.text ++ letters).length) ∨
    (startsWord c = true ∧ token = .word (String.ofList (c :: rest.takeWhile continuesWord)) ∧
      count = (rest.takeWhile continuesWord).length) ∨
    mark? (c :: rest) = some (token, count) := by
  unfold scan at scanned
  split at scanned
  · refine .inl ?_
    unfold scanQuoted at scanned ⊢
    dsimp only at scanned ⊢
    split at scanned
    next closed =>
      obtain ⟨rfl, rfl⟩ := Prod.mk.inj (Except.ok.inj scanned)
      exact ⟨_, if_pos closed, rfl⟩
    next => cases scanned
  · split at scanned
    next starts => exact .inr (.inl (exists_standsBefore_of_scanNumber starts scanned))
    · split at scanned
      next starts =>
        obtain ⟨rfl, rfl⟩ := Prod.mk.inj (Except.ok.inj scanned)
        exact .inr (.inr (.inl ⟨starts, rfl, rfl⟩))
      next =>
        split at scanned
        next found marked =>
          obtain rfl := Except.ok.inj scanned
          exact .inr (.inr (.inr marked))
        next => cases scanned

section Scanned

variable {token : Token} {count : Nat}

/-- A mark of one character or two covers no more than there is, and is made of its own characters. -/
theorem mark?_own (marked : mark? (c :: rest) = some (token, count)) :
    count ≤ rest.length ∧ mark? (c :: rest.take count) = some (token, count) := by
  unfold mark? at marked
  split at marked
  case h_18 => cases marked
  all_goals
    rename_i same
    obtain ⟨rfl, rfl⟩ := List.cons.inj same
    obtain ⟨rfl, rfl⟩ := Prod.mk.inj (Option.some.inj marked)
    exact ⟨by simp, rfl⟩

/-- A token covers no more than there is. -/
theorem length_le_of_scan (scanned : scan offset c rest = .ok (token, count)) :
    count ≤ rest.length := by
  rcases scan_eq_ok scanned with ⟨content, quoted, -⟩ | ⟨numeral, letters, after, quantity, whole, -,
    -, -, counted⟩ | ⟨-, -, rfl⟩ | marked
  · unfold scanQuoted at quoted
    dsimp only at quoted
    split at quoted
    next closed =>
      obtain ⟨-, rfl⟩ := Prod.mk.inj (Except.ok.inj quoted)
      exact closed
    next => cases quoted
  · have whole := congrArg List.length whole
    simp only [List.length_cons, List.length_append] at whole counted
    omega
  · exact (List.takeWhile_prefix _).length_le
  · exact (mark?_own marked).1

theorem ne_finish_of_scan (scanned : scan offset c rest = .ok (token, count)) :
    token ≠ .finish := by
  rcases scan_eq_ok scanned with ⟨_, -, rfl⟩ | ⟨_, _, _, _, -, -, -, rfl, -⟩ | ⟨-, rfl, -⟩ | marked
  · exact nofun
  · exact nofun
  · exact nofun
  · rintro rfl
    unfold mark? at marked
    split at marked <;> cases marked

theorem continuesWord_of_startsWord (starts : startsWord c = true) : continuesWord c = true := by
  unfold startsWord at starts
  unfold continuesWord isLetterOrNumeral
  rcases Bool.or_eq_true _ _ ▸ starts with letter | underscore
  · rw [letter]
    rfl
  · rw [underscore, Bool.or_true]

/-- **A word** covers all characters that may continue it. -/
theorem word_of_scan {name : String} (scanned : scan offset c rest = .ok (.word name, count)) :
    name.toList = c :: rest.take count ∧ (∀ letter ∈ name.toList, continuesWord letter = true) ∧
      ∀ next ∈ (rest.drop count).head?, continuesWord next = false := by
  rcases scan_eq_ok scanned with
    ⟨_, -, other⟩ | ⟨_, _, _, _, -, -, -, other, -⟩ | ⟨starts, word, rfl⟩ | marked
  · cases other
  · cases other
  · obtain rfl := Token.word.inj word
    have parts : rest.takeWhile continuesWord ++ rest.dropWhile continuesWord = rest :=
      List.takeWhile_append_dropWhile
    have front : rest.take (rest.takeWhile continuesWord).length = rest.takeWhile continuesWord :=
      (congrArg (List.take _) parts).symm.trans List.take_left
    have back : rest.drop (rest.takeWhile continuesWord).length = rest.dropWhile continuesWord :=
      (congrArg (List.drop _) parts).symm.trans List.drop_left
    rw [String.toList_ofList, front, back]
    refine ⟨rfl, List.forall_mem_cons.mpr ⟨continuesWord_of_startsWord starts, ?_⟩, ?_⟩
    · exact fun letter member => List.mem_takeWhile_imp member
    · exact stops_dropWhile continuesWord rest
  · unfold mark? at marked
    split at marked <;> cases marked

end Scanned

/-- **Why a token is not read**: a quoted text that is not closed, a number whose own text denotes no
length, or a character that starts no token. -/
theorem scan_eq_error {fault : Fault} (failed : scan offset c rest = .error fault) :
    fault = ⟨.unterminatedString, offset, String.ofList (c :: rest)⟩ ∨
    (∃ numeral letters after, c :: rest = numeral.text ++ (letters ++ after) ∧
      StandsBefore numeral letters after ∧
      Quantity.ofCharacters? (numeral.text ++ letters) = none ∧
      fault = ⟨.unknownUnit, offset + width numeral.text, String.ofList letters⟩) ∨
    fault = ⟨.unexpectedCharacter, offset, c.toString⟩ := by
  unfold scan at failed
  split at failed
  · unfold scanQuoted at failed
    dsimp only at failed
    split at failed
    · cases failed
    · exact .inl (Except.error.inj failed).symm
  · split at failed
    next starts =>
      obtain ⟨numeral, letters, after, whole, stands⟩ := exists_standsBefore starts
      rw [whole, stands.scanNumber_eq] at failed
      split at failed
      · cases failed
      next unknown =>
        exact .inr (.inl ⟨numeral, letters, after, whole, stands, unknown,
          (Except.error.inj failed).symm⟩)
    · split at failed
      · cases failed
      · split at failed
        · cases failed
        · exact .inr (.inr (Except.error.inj failed).symm)

/-- **What is wrong with a token** stands in the text from its first character on. -/
theorem standsAt_of_scan_eq_error {fault : Fault} (failed : scan offset c rest = .error fault) :
    StandsAt offset (c :: rest) fault.offset fault.token.toList := by
  rcases scan_eq_error failed with rfl | ⟨numeral, letters, after, whole, -, -, rfl⟩ | rfl
  · rw [String.toList_ofList]
    exact ⟨[], [], by simp, rfl⟩
  · rw [whole, String.toList_ofList]
    exact ⟨numeral.text, after, (List.append_assoc _ _ _).symm, rfl⟩
  · rw [Char.toString, String.toList_singleton]
    exact standsAt_front offset [c] rest

/-! ### All tokens -/

theorem utf8ByteSize_ofList (characters : List Char) :
    (String.ofList characters).utf8ByteSize = width characters := by
  induction characters with
  | nil => rfl
  | cons c rest ih =>
    rw [String.ofList_cons, String.utf8ByteSize_append, String.utf8ByteSize_singleton, ih,
      width_cons]

/-- **The tokens of some characters one after the other**, without the end; the first character is
at the given byte. -/
inductive Lexed : Nat → List Char → List Lexeme → Prop where
  | nothing {offset : Nat} : Lexed offset [] []
  | blank {offset : Nat} {c : Char} {rest : List Char} {lexemes : List Lexeme} :
      isBlank c = true → Lexed (offset + c.utf8Size) rest lexemes →
      Lexed offset (c :: rest) lexemes
  | token {offset : Nat} {c : Char} {rest : List Char} {token : Token} {count : Nat}
      {lexemes : List Lexeme} :
      isBlank c = false → scan offset c rest = .ok (token, count) →
      Lexed (offset + width (c :: rest.take count)) (rest.drop count) lexemes →
      Lexed offset (c :: rest) (⟨token, offset, String.ofList (c :: rest.take count)⟩ :: lexemes)

/-- **What the tokens of a text are**, the end of the text the last of them. -/
theorem lexemesFrom_eq_ok_iff {offset : Nat} {characters : List Char} {all : List Lexeme} :
    lexemesFrom offset characters = .ok all ↔
      ∃ lexemes, Lexed offset characters lexemes ∧
        lexemes ++ [⟨.finish, offset + width characters, ""⟩] = all := by
  induction offset, characters using lexemesFrom.induct generalizing all with
  | case1 offset =>
    rw [lexemesFrom, Except.ok.injEq]
    constructor
    · rintro rfl
      exact ⟨[], .nothing, rfl⟩
    · rintro ⟨lexemes, lexed, rfl⟩
      cases lexed
      rfl
  | case2 offset c rest blank ih =>
    rw [lexemesFrom, if_pos blank, ih, width_cons, Nat.add_assoc]
    refine exists_congr fun lexemes => and_congr_left fun _ => ⟨.blank blank, fun lexed => ?_⟩
    cases lexed with
    | blank _ lexed => exact lexed
    | token other => rw [blank] at other; cases other
  | case3 offset c rest solid fault scanned =>
    rw [lexemesFrom, if_neg solid, scanned]
    constructor
    · exact nofun
    · rintro ⟨lexemes, lexed, -⟩
      cases lexed with
      | blank blank => exact absurd blank solid
      | token _ other => rw [scanned] at other; cases other
  | case4 offset c rest solid token count scanned covered =>
    rename_i ih
    rw [lexemesFrom, if_neg solid, scanned]
    dsimp only
    rw [map_eq_ok_iff]
    have place : offset + width (c :: rest) =
        offset + width (c :: rest.take count) + width (rest.drop count) := by
      rw [Nat.add_assoc, ← width_append, cons_take_append_drop]
    constructor
    · rintro ⟨others, read, rfl⟩
      obtain ⟨lexemes, lexed, rfl⟩ := ih.mp read
      refine ⟨_, .token (eq_false_of_ne_true solid) scanned lexed, ?_⟩
      rw [place]
      rfl
    · rintro ⟨lexemes, lexed, rfl⟩
      cases lexed with
      | blank blank => exact absurd blank solid
      | token _ other lexed =>
        rw [scanned] at other
        cases other
        refine ⟨_, ih.mpr ⟨_, lexed, rfl⟩, ?_⟩
        rw [place]
        rfl

namespace Lexed

variable {characters : List Char} {lexemes : List Lexeme} {lexeme : Lexeme}

/-- **Every token is found at its offset.** -/
theorem exists_scan (lexed : Lexed offset characters lexemes) (member : lexeme ∈ lexemes) :
    ∃ before c rest count, characters = before ++ c :: rest ∧
      lexeme.offset = offset + width before ∧
        scan lexeme.offset c rest = .ok (lexeme.token, count) ∧
          lexeme.text = String.ofList (c :: rest.take count) := by
  induction lexed with
  | nothing => cases member
  | @blank offset c rest lexemes _ _ ih =>
    obtain ⟨before, first, others, count, rfl, place, scanned⟩ := ih member
    refine ⟨c :: before, first, others, count, rfl, ?_, scanned⟩
    rw [place, width_cons, Nat.add_assoc]
  | @token offset c rest token count lexemes _ scanned _ ih =>
    rcases List.mem_cons.mp member with rfl | member
    · exact ⟨[], c, rest, count, rfl, rfl, scanned, rfl⟩
    · obtain ⟨before, first, others, covers, split, place, found⟩ := ih member
      refine ⟨c :: rest.take count ++ before, first, others, covers, ?_, ?_, found⟩
      · rw [List.append_assoc, ← split, cons_take_append_drop]
      · rw [place, width_append, Nat.add_assoc]

/-- The end of a text is not among its other tokens. -/
theorem ne_finish (lexed : Lexed offset characters lexemes) (member : lexeme ∈ lexemes) :
    lexeme.token ≠ .finish := by
  obtain ⟨_, _, _, _, -, -, scanned, -⟩ := lexed.exists_scan member
  exact ne_finish_of_scan scanned

/-- Each token starts where the one before it has ended, or later. -/
theorem pairwise_apart (lexed : Lexed offset characters lexemes) :
    lexemes.Pairwise fun first second => first.offset < second.offset ∧
      first.offset + first.text.utf8ByteSize ≤ second.offset := by
  induction lexed with
  | nothing => exact .nil
  | blank _ _ ih => exact ih
  | @token offset c rest token count lexemes _ _ lexed ih =>
    refine .cons (fun other member => ?_) ih
    obtain ⟨before, _, _, _, -, place, -⟩ := lexed.exists_scan member
    have wide := c.utf8Size_pos
    rw [place]
    dsimp only
    rw [utf8ByteSize_ofList, width_cons]
    omega

/-- **Every token stands at its offset.** -/
theorem standsAt (lexed : Lexed offset characters lexemes) (member : lexeme ∈ lexemes) :
    StandsAt offset characters lexeme.offset lexeme.text.toList := by
  obtain ⟨before, c, rest, count, rfl, place, -, text⟩ := lexed.exists_scan member
  refine ⟨before, rest.drop count, ?_, place⟩
  rw [text, String.toList_ofList, List.append_assoc, cons_take_append_drop]

/-- **Every word stands alone at its offset.** -/
theorem standsAlone (lexed : Lexed offset characters lexemes) (member : lexeme ∈ lexemes)
    {name : String} (word : lexeme.token = .word name) :
    StandsAlone offset characters lexeme.offset name.toList := by
  obtain ⟨before, c, rest, count, rfl, place, scanned, -⟩ := lexed.exists_scan member
  rw [word] at scanned
  obtain ⟨covered, continues, stops⟩ := word_of_scan scanned
  refine ⟨continues, before, rest.drop count, ?_, place, stops⟩
  rw [covered, List.append_assoc, cons_take_append_drop]

end Lexed

/-- **The tokens of some characters one after the other up to a place**: those that are read before
the byte at which the remaining characters start. -/
inductive LexedUpTo : Nat → List Char → List Lexeme → Nat → List Char → Prop where
  | here {offset : Nat} {characters : List Char} :
      LexedUpTo offset characters [] offset characters
  | blank {offset place : Nat} {c : Char} {rest remaining : List Char} {lexemes : List Lexeme} :
      isBlank c = true → LexedUpTo (offset + c.utf8Size) rest lexemes place remaining →
      LexedUpTo offset (c :: rest) lexemes place remaining
  | token {offset place : Nat} {c : Char} {rest remaining : List Char} {token : Token} {count : Nat}
      {lexemes : List Lexeme} :
      isBlank c = false → scan offset c rest = .ok (token, count) →
      LexedUpTo (offset + width (c :: rest.take count)) (rest.drop count) lexemes place remaining →
      LexedUpTo offset (c :: rest) (⟨token, offset, String.ofList (c :: rest.take count)⟩ :: lexemes)
        place remaining

/-- What remains is the end of the text, and starts at its byte. -/
theorem LexedUpTo.exists_before {offset place : Nat} {characters remaining : List Char}
    {lexemes : List Lexeme} (read : LexedUpTo offset characters lexemes place remaining) :
    ∃ before, characters = before ++ remaining ∧ place = offset + width before := by
  induction read with
  | here => exact ⟨[], rfl, rfl⟩
  | @blank offset place c rest remaining lexemes _ _ ih =>
    obtain ⟨before, rfl, rfl⟩ := ih
    exact ⟨c :: before, rfl, by rw [width_cons, Nat.add_assoc]⟩
  | @token offset place c rest remaining token count lexemes _ _ _ ih =>
    obtain ⟨before, split, rfl⟩ := ih
    refine ⟨c :: rest.take count ++ before, ?_, ?_⟩
    · rw [List.append_assoc, ← split, cons_take_append_drop]
    · rw [width_append, Nat.add_assoc]

/-- **What is wrong with a text that has no tokens** is wrong with the first token that is not read,
after those before it were. -/
theorem lexemesFrom_eq_error_iff {offset : Nat} {characters : List Char} {fault : Fault} :
    lexemesFrom offset characters = .error fault ↔
      ∃ lexemes place c rest, LexedUpTo offset characters lexemes place (c :: rest) ∧
        isBlank c = false ∧ scan place c rest = .error fault := by
  induction offset, characters using lexemesFrom.induct with
  | case1 offset =>
    rw [lexemesFrom]
    exact ⟨nofun, fun ⟨_, _, _, _, read, _⟩ => nomatch read⟩
  | case2 offset c rest blank ih =>
    rw [lexemesFrom, if_pos blank, ih]
    constructor
    · rintro ⟨lexemes, place, next, after, read, failed⟩
      exact ⟨lexemes, place, next, after, .blank blank read, failed⟩
    · rintro ⟨lexemes, place, next, after, read, solid, failed⟩
      cases read with
      | here => rw [blank] at solid; cases solid
      | blank _ read => exact ⟨lexemes, place, next, after, read, solid, failed⟩
      | token other => rw [blank] at other; cases other
  | case3 offset c rest solid other scanned =>
    rw [lexemesFrom, if_neg solid, scanned]
    dsimp only
    constructor
    · rintro ⟨⟩
      exact ⟨[], offset, c, rest, .here, eq_false_of_ne_true solid, scanned⟩
    · rintro ⟨lexemes, place, next, after, read, -, failed⟩
      cases read with
      | here => rw [Except.error.inj (scanned.symm.trans failed)]
      | blank blank => exact absurd blank solid
      | token _ found => rw [scanned] at found; cases found
  | case4 offset c rest solid token count scanned covered =>
    rename_i ih
    rw [lexemesFrom, if_neg solid, scanned]
    dsimp only
    constructor
    · intro failed
      cases later : lexemesFrom (offset + width (c :: rest.take count)) (rest.drop count) with
      | ok lexemes =>
        rw [later] at failed
        cases failed
      | error other =>
        rw [later] at failed
        obtain rfl : other = fault := Except.error.inj failed
        obtain ⟨lexemes, place, next, after, read, wrong⟩ := ih.mp later
        exact ⟨_, place, next, after, .token (eq_false_of_ne_true solid) scanned read, wrong⟩
    · rintro ⟨lexemes, place, next, after, read, wrong⟩
      cases read with
      | here => rw [scanned] at wrong; cases wrong.2
      | blank blank => exact absurd blank solid
      | token _ found read =>
        rw [scanned] at found
        cases found
        rw [ih.mpr ⟨_, place, next, after, read, wrong⟩]
        rfl

/-- **What is wrong with a text that has no tokens** stands in it. -/
theorem standsAt_of_lexemesFrom_eq_error {offset : Nat} {characters : List Char} {fault : Fault}
    (failed : lexemesFrom offset characters = .error fault) :
    StandsAt offset characters fault.offset fault.token.toList := by
  obtain ⟨lexemes, place, c, rest, read, -, scanned⟩ := lexemesFrom_eq_error_iff.mp failed
  obtain ⟨before, rfl, rfl⟩ := read.exists_before
  exact (standsAt_of_scan_eq_error scanned).later before

/-! ### Trees of texts -/

/-- **A text has a tree** exactly if the grammar derives it from the tokens of the text. -/
theorem ofText_eq_ok_iff_derives {text : String} {tree : Expression} :
    Expression.ofText text = .ok tree ↔
      ∃ lexemes, Lexed 0 text.toList lexemes ∧ Derives .disjunction lexemes tree := by
  rw [Expression.ofText, bind_eq_ok_iff]
  constructor
  · rintro ⟨all, read, parsed⟩
    obtain ⟨lexemes, lexed, rfl⟩ := lexemesFrom_eq_ok_iff.mp read
    exact ⟨lexemes, lexed, (ofLexemes_eq_ok_iff rfl fun _ => lexed.ne_finish).mp parsed⟩
  · rintro ⟨lexemes, lexed, derives⟩
    refine ⟨_, lexemesFrom_eq_ok_iff.mpr ⟨lexemes, lexed, rfl⟩, ?_⟩
    exact (ofLexemes_eq_ok_iff rfl fun _ => lexed.ne_finish).mpr derives

end DesignRules.Condition

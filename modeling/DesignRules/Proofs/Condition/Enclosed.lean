/-
**A condition inside another one.**

The tokens of a condition are the same where it stands further back, and a parenthesis or a space
after it ends the last of them. So are the phrases of the grammar, and the code: offsets matter to
faults only.

* `EndsToken`, `StandsBefore.append`, `scan_append`, `Lexed.enclosed`: the tokens of a text inside
  another one.
* `LexedAs`, `covers_word`, `covers_mark`, `covers_quoted`: tokens that are known.
* `Expression.moved`, `Derives.moved`: the tree of a phrase further back.
* `instructions_moved`: its code.
* `lexedAs_group`: a text in parentheses.
-/

import DesignRules.Proofs.Condition.Lowering
import DesignRules.Proofs.Condition.Phrases
import DesignRules.Proofs.Condition.Places
import DesignRules.Proofs.Condition.Tree

namespace DesignRules.Condition

open Decimal (Numeral)
open Text (isBlank width width_append width_cons)

/-! ### One token before a parenthesis or a space -/

/-- The characters that end every token before them, but for quoted texts. -/
def EndsToken (c : Char) : Prop := c = ')' ∨ c = ' '

section Closed

variable {tail : List Char} (ends : ∀ next ∈ tail.head?, EndsToken next)

include ends

/-- Nothing that neither a parenthesis nor a space can continue goes on in the tail. -/
theorem stops_of_ends {p : Char → Bool} (closing : p ')' = false) (blank : p ' ' = false) :
    ∀ next ∈ tail.head?, p next = false := by
  intro next first
  rcases ends next first with rfl | rfl
  · exact closing
  · exact blank

/-- What ends before some characters still does where the tail follows these. -/
theorem stops_append {p : Char → Bool} (closing : p ')' = false) (blank : p ' ' = false)
    {front : List Char} (stops : ∀ next ∈ front.head?, p next = false) :
    ∀ next ∈ (front ++ tail).head?, p next = false := by
  cases front with
  | nil => exact stops_of_ends ends closing blank
  | cons next front => exact stops

theorem EndsBefore.append {numeral : Numeral} {front : List Char}
    (before : EndsBefore numeral front) : EndsBefore numeral (front ++ tail) where
  unsigned := before.unsigned
  pointed := before.pointed
  noDigit := stops_append ends (by decide) (by decide) before.noDigit
  noPoint := by
    -- the tail neither brings the point nor the digit after it
    intro whole next after same
    cases front with
    | nil =>
      have point : EndsToken '.' := ends '.' (by rw [← List.nil_append tail, same]; rfl)
      rcases point with other | other <;> exact absurd other (by decide)
    | cons c front =>
      obtain ⟨rfl, later⟩ := List.cons.inj same
      cases front with
      | nil =>
        have later : tail = next :: after := later
        exact stops_of_ends ends (by decide) (by decide) next (by rw [later]; rfl)
      | cons c front =>
        obtain ⟨rfl, -⟩ := List.cons.inj later
        exact before.noPoint whole c front rfl

/-- A number and its letters do not go on in the tail. -/
theorem StandsBefore.append {numeral : Numeral} {letters rest : List Char}
    (stands : StandsBefore numeral letters rest) :
    StandsBefore numeral letters (rest ++ tail) where
  toEndsBefore := by
    rw [← List.append_assoc]
    exact stands.toEndsBefore.append ends
  alphabetic := stands.alphabetic
  noLetter := stops_append ends (by decide) (by decide) stands.noLetter

theorem startsNumber_append (c : Char) (rest : List Char) :
    startsNumber (c :: (rest ++ tail)) = startsNumber (c :: rest) := by
  have digits := stops_of_ends ends (p := Decimal.isDigit) (by decide) (by decide)
  have first : (rest ++ tail).head?.any Decimal.isDigit = rest.head?.any Decimal.isDigit := by
    cases rest with
    | cons next rest => rfl
    | nil =>
      cases tail with
      | nil => rfl
      | cons next tail => exact digits next rfl
  rw [startsNumber_cons, startsNumber_cons, first]

theorem not_equals_append {rest : List Char} (apart : ∀ more, rest = '=' :: more → False)
    (more : List Char) (same : rest ++ tail = '=' :: more) : False := by
  cases rest with
  | nil =>
    rw [List.nil_append] at same
    have first : EndsToken '=' := ends '=' (by rw [same]; rfl)
    rcases first with other | other <;> exact absurd other (by decide)
  | cons next rest => exact apart rest (by rw [(List.cons.inj same).1])

theorem mark?_append {c : Char} {rest : List Char} {found : Token × Nat}
    (marked : mark? (c :: rest) = some found) : mark? (c :: (rest ++ tail)) = some found := by
  unfold mark? at marked
  split at marked
  case h_18 => cases marked
  all_goals
    rename_i same
    obtain ⟨rfl, rfl⟩ := List.cons.inj same
    rw [← marked]
  -- only these marks are the beginnings of others
  case h_7 => exact mark?.eq_7 _ (not_equals_append ends (by assumption))
  case h_8 => exact mark?.eq_8 _ (not_equals_append ends (by assumption))
  case h_9 => exact mark?.eq_9 _ (not_equals_append ends (by assumption))
  all_goals rfl

theorem scanNumber_append {offset other count : Nat} {characters : List Char} {token : Token}
    (starts : startsNumber characters = true)
    (scanned : scanNumber offset characters = .ok (token, count)) :
    scanNumber other (characters ++ tail) = .ok (token, count) := by
  obtain ⟨numeral, letters, rest, quantity, rfl, stands, known, rfl, counted⟩ :=
    exists_standsBefore_of_scanNumber starts scanned
  rw [List.append_assoc, List.append_assoc,
    (stands.append ends).scanNumber_eq_ok known, ← counted, Nat.add_sub_cancel]

omit ends in
theorem scanQuoted_append {offset other : Nat} {quote : Char} {rest : List Char}
    {found : Token × Nat} (scanned : scanQuoted offset quote rest = .ok found) :
    scanQuoted other quote (rest ++ tail) = .ok found := by
  unfold scanQuoted at scanned ⊢
  dsimp only at scanned ⊢
  split at scanned
  next closed =>
    rw [List.takeWhile_append, if_neg (Nat.ne_of_lt closed), if_pos]
    · exact scanned
    · rw [List.length_append]
      exact Nat.lt_add_right _ closed
  next => cases scanned

/-- **A token in another text.** It is the same where it stands further back, and whether the text
ends after it or a parenthesis or a space follows. -/
theorem scan_append {offset other count : Nat} {c : Char} {rest : List Char} {token : Token}
    (scanned : scan offset c rest = .ok (token, count)) :
    scan other c (rest ++ tail) = .ok (token, count) := by
  unfold scan at scanned ⊢
  split at scanned
  next quote =>
    rw [if_pos quote]
    exact scanQuoted_append scanned
  next noQuote =>
    rw [if_neg noQuote, startsNumber_append ends]
    split at scanned
    next digit =>
      rw [if_pos digit]
      exact scanNumber_append ends digit scanned
    next noDigit =>
      rw [if_neg noDigit]
      split at scanned
      next letter =>
        rw [if_pos letter, takeWhile_append_of_stops
          (stops_of_ends ends (p := continuesWord) (by decide) (by decide))]
        exact scanned
      next noLetter =>
        rw [if_neg noLetter]
        split at scanned
        next found marked =>
          rw [mark?_append ends marked]
          exact scanned
        next => cases scanned

end Closed

/-! ### All tokens -/

/-- A token some bytes further back. -/
def Lexeme.moved (distance : Nat) (lexeme : Lexeme) : Lexeme :=
  { lexeme with offset := lexeme.offset + distance }

/-- **The tokens of a text inside another one**: those of the text, some bytes further back, and
after them those of what follows, which starts with a parenthesis or a space if it starts with
anything. -/
theorem Lexed.enclosed {offset : Nat} {characters : List Char} {lexemes : List Lexeme}
    (lexed : Lexed offset characters lexemes) (distance : Nat) {tail : List Char}
    (ends : ∀ next ∈ tail.head?, EndsToken next) {others : List Lexeme}
    (follows : Lexed (offset + width characters + distance) tail others) :
    Lexed (offset + distance) (characters ++ tail)
      (lexemes.map (Lexeme.moved distance) ++ others) := by
  induction lexed with
  | nothing => exact follows
  | @blank offset c rest lexemes blank _ ih =>
    have place : offset + distance + c.utf8Size = offset + c.utf8Size + distance := by omega
    refine .blank blank ?_
    rw [place]
    rw [width_cons, ← Nat.add_assoc] at follows
    exact ih follows
  | @token offset c rest token count lexemes solid scanned _ ih =>
    have within := length_le_of_scan scanned
    have place : offset + distance + width (c :: rest.take count) =
        offset + width (c :: rest.take count) + distance := by omega
    have front : (rest ++ tail).take count = rest.take count :=
      List.take_append_of_le_length within
    have back : (rest ++ tail).drop count = rest.drop count ++ tail :=
      List.drop_append_of_le_length within
    have found : scan (offset + distance) c (rest ++ tail) = .ok (token, count) :=
      scan_append ends scanned
    rw [← cons_take_append_drop c rest count, width_append, ← Nat.add_assoc] at follows
    have later : Lexed (offset + distance + width (c :: (rest ++ tail).take count))
        ((rest ++ tail).drop count) (lexemes.map (Lexeme.moved distance) ++ others) := by
      rw [front, back, place]
      exact ih follows
    have whole := Lexed.token solid found later
    rw [front] at whole
    exact whole

/-! ### Tokens that are known -/

/-- Whether some characters are a token where the given ones follow. -/
def Covers (token : Token) (characters rest : List Char) : Prop :=
  ∃ c more, characters = c :: more ∧ isBlank c = false ∧
    ∀ offset, scan offset c (more ++ rest) = .ok (token, more.length)

/-- Whether some characters have suitable tokens, wherever they stand. -/
def LexedAs (characters : List Char) (Suits : List Lexeme → Prop) : Prop :=
  ∀ offset, ∃ lexemes, Lexed offset characters lexemes ∧ Suits lexemes

/-- Whether tokens are a given one and suitable ones after it. -/
def StartsWith (token : Token) (Suits : List Lexeme → Prop) (lexemes : List Lexeme) : Prop :=
  ∃ first others, lexemes = first :: others ∧ first.token = token ∧ Suits others

section Known

variable {characters rest : List Char} {Suits : List Lexeme → Prop}

theorem lexedAs_nothing : LexedAs [] fun lexemes => lexemes = [] :=
  fun _ => ⟨[], .nothing, rfl⟩

theorem LexedAs.blank {c : Char} (blank : isBlank c = true) (known : LexedAs rest Suits) :
    LexedAs (c :: rest) Suits := by
  intro offset
  obtain ⟨lexemes, lexed, suits⟩ := known (offset + c.utf8Size)
  exact ⟨lexemes, .blank blank lexed, suits⟩

/-- A token that covers some characters comes before the tokens of what follows. -/
theorem Covers.lexed {token : Token} (covers : Covers token characters rest) {offset : Nat}
    {others : List Lexeme} (follows : Lexed (offset + width characters) rest others) :
    Lexed offset (characters ++ rest) (⟨token, offset, String.ofList characters⟩ :: others) := by
  obtain ⟨c, more, rfl, solid, scanned⟩ := covers
  have front : (more ++ rest).take more.length = more := List.take_left
  have back : (more ++ rest).drop more.length = rest := List.drop_left
  have later : Lexed (offset + width (c :: (more ++ rest).take more.length))
      ((more ++ rest).drop more.length) others := by
    rw [front, back]
    exact follows
  have whole := Lexed.token solid (scanned offset) later
  rw [front] at whole
  exact whole

theorem LexedAs.token {token : Token} (covers : Covers token characters rest)
    (known : LexedAs rest Suits) : LexedAs (characters ++ rest) (StartsWith token Suits) := by
  intro offset
  obtain ⟨others, lexed, suits⟩ := known (offset + width characters)
  exact ⟨_, covers.lexed lexed, _, others, rfl, rfl, suits⟩

/-- The tokens of a text that stands before others. -/
theorem Lexed.lexedAs {lexemes : List Lexeme} (lexed : Lexed 0 characters lexemes)
    (ends : ∀ next ∈ rest.head?, EndsToken next) (known : LexedAs rest Suits) :
    LexedAs (characters ++ rest) fun all => ∃ distance others,
      all = lexemes.map (Lexeme.moved distance) ++ others ∧ Suits others := by
  intro offset
  obtain ⟨others, follows, suits⟩ := known (0 + width characters + offset)
  have whole := lexed.enclosed offset ends follows
  rw [Nat.zero_add] at whole
  exact ⟨_, whole, offset, others, rfl, suits⟩

theorem startsWord_of_isAlpha {c : Char} (alpha : c.isAlpha = true) : startsWord c = true := by
  rw [startsWord, Text.isLetter_of_isAlpha alpha, Bool.true_or]

/-- A word of plain letters ends where no character follows that may continue it. -/
theorem covers_word {name : String} {c : Char} {more : List Char}
    (spelled : name.toList = c :: more) (alphabetic : (c :: more).all Char.isAlpha = true)
    (solid : isBlank c = false) (unquoted : ¬ (c = '\'' ∨ c = '"'))
    (noDigit : Decimal.isDigit c = false)
    (stops : ∀ next ∈ rest.head?, continuesWord next = false) :
    Covers (.word name) name.toList rest := by
  obtain ⟨first, others⟩ := List.forall_mem_cons.mp (List.all_eq_true.mp alphabetic)
  refine ⟨c, more, spelled, solid, fun offset => ?_⟩
  have covered : (more ++ rest).takeWhile continuesWord = more := by
    rw [takeWhile_append_of_stops stops]
    refine List.takeWhile_eq_self_iff.mpr fun letter member => ?_
    exact continuesWord_of_startsWord (startsWord_of_isAlpha (others letter member))
  have noNumber : ¬ startsNumber (c :: (more ++ rest)) = true := by
    have pointless : c ≠ '.' := by
      rintro rfl
      cases first
    rw [startsNumber_cons, if_neg pointless, noDigit]
    exact Bool.false_ne_true
  rw [scan, if_neg unquoted, if_neg noNumber, if_pos (startsWord_of_isAlpha first),
    covered]
  dsimp only
  rw [← spelled, String.ofList_toList]

theorem covers_mark {token : Token} {c : Char} {more : List Char} (solid : isBlank c = false)
    (unquoted : ¬ (c = '\'' ∨ c = '"')) (noNumber : startsNumber (c :: (more ++ rest)) = false)
    (noWord : startsWord c = false)
    (marked : mark? (c :: (more ++ rest)) = some (token, more.length)) :
    Covers token (c :: more) rest := by
  refine ⟨c, more, rfl, solid, fun offset => ?_⟩
  rw [scan, if_neg unquoted, if_neg (ne_true_of_eq_false noNumber),
    if_neg (ne_true_of_eq_false noWord), marked]

theorem covers_opening : Covers .opening ['('] rest :=
  covers_mark (by decide) (by decide) rfl (by decide +kernel) rfl

theorem covers_closing : Covers .closing [')'] rest :=
  covers_mark (by decide) (by decide) rfl (by decide +kernel) rfl

theorem covers_equal : Covers (.compare .equal) ['=', '='] rest :=
  covers_mark (by decide) (by decide) rfl (by decide +kernel) rfl

/-- A quoted text ends at the next quote of its kind. -/
theorem covers_quoted {quote : Char} (kind : quote = '\'' ∨ quote = '"') {content : String}
    (free : quote ∉ content.toList) :
    Covers (.text content) (quote :: (content.toList ++ [quote])) rest := by
  refine ⟨quote, _, rfl, by rcases kind with rfl | rfl <;> decide, fun offset => ?_⟩
  have inside : ∀ letter ∈ content.toList, (letter != quote) = true := by
    intro letter member
    exact bne_iff_ne.mpr fun same => free (same ▸ member)
  have covered : (content.toList ++ [quote] ++ rest).takeWhile (· != quote) = content.toList := by
    rw [List.append_assoc, List.takeWhile_append_of_pos inside, List.singleton_append,
      List.takeWhile_cons_of_neg (by simp), List.append_nil]
  rw [scan, if_pos kind, scanQuoted, covered, if_pos (by simp), String.ofList_toList,
    List.length_append]
  rfl

end Known

/-! ### Trees -/

mutual

/-- A tree some bytes further back. -/
def Expression.moved (distance : Nat) : Expression → Expression
  | .number quantity => .number quantity
  | .text content => .text content
  | .name name offset => .name name (offset + distance)
  | .field slot field offset => .field slot field (offset + distance)
  | .method slot name arguments offset =>
    .method slot name (movedArguments distance arguments) (offset + distance)
  | .call name arguments offset =>
    .call name (movedArguments distance arguments) (offset + distance)
  | .unary operator operand => .unary operator (operand.moved distance)
  | .binary operator left right =>
    .binary operator (left.moved distance) (right.moved distance)

/-- Arguments some bytes further back. -/
def movedArguments (distance : Nat) : List Expression → List Expression
  | [] => []
  | argument :: arguments => argument.moved distance :: movedArguments distance arguments

end

theorem length_movedArguments (distance : Nat) (arguments : List Expression) :
    (movedArguments distance arguments).length = arguments.length := by
  induction arguments with
  | nil => rfl
  | cons argument arguments ih => rw [movedArguments, List.length_cons, List.length_cons, ih]

theorem Callee.Spelled.moved {callee : Callee} {phrase : List Lexeme} {offset : Nat}
    (spelled : callee.Spelled phrase offset) (distance : Nat) :
    callee.Spelled (phrase.map (Lexeme.moved distance)) (offset + distance) := by
  cases spelled with
  | @function lexeme name word =>
    have word : (lexeme.moved distance).token = .word name := word
    exact .function word
  | @member lexeme dot last slot name word points member =>
    have word : (lexeme.moved distance).token = .word slot := word
    have points : (dot.moved distance).token = .dot := points
    have member : (last.moved distance).token = .word name := member
    exact .member word points member

theorem moved_alone (callee : Callee) (offset distance : Nat) :
    (callee.alone offset).moved distance = callee.alone (offset + distance) := by
  cases callee <;> rfl

theorem moved_applied (callee : Callee) (arguments : List Expression) (offset distance : Nat) :
    (callee.applied arguments offset).moved distance =
      callee.applied (movedArguments distance arguments) (offset + distance) := by
  cases callee <;> rfl

/-- **A phrase further back** is one of the tree further back. -/
theorem Derives.moved {category : Category} {phrase : List Lexeme} {tree : Expression}
    (derives : Derives category phrase tree) (distance : Nat) :
    Derives category (phrase.map (Lexeme.moved distance)) (tree.moved distance) := by
  refine Derives.formInduction
    (motive_1 := fun category phrase tree =>
      Derives category (phrase.map (Lexeme.moved distance)) (tree.moved distance))
    (motive_2 := fun listed arguments =>
      DerivesSequence (listed.map (Lexeme.moved distance)) (movedArguments distance arguments))
    (fun _ => Derives.loosen) ?number ?text ?alone ?group ?empty ?applied ?unary ?binary ?last
    ?more derives
  case number => exact fun token => .number token
  case text => exact fun token => .text token
  case alone =>
    intro callee phrase offset spelled
    rw [moved_alone]
    exact (spelled.moved distance).derives_alone
  case group =>
    intro phrase tree opening closing opens closes inner
    rw [List.map_append, List.map_cons]
    exact .group opens closes inner
  case empty =>
    intro callee phrase offset opening closing spelled opens closes
    have opens : (opening.moved distance).token = .opening := opens
    have closes : (closing.moved distance).token = .closing := closes
    have whole := (spelled.moved distance).derives_applied opens closes .none
    rw [List.append_assoc] at whole
    rw [moved_applied, List.map_append]
    exact whole
  case applied =>
    intro callee phrase offset opening closing listed arguments spelled opens closes given
    have opens : (opening.moved distance).token = .opening := opens
    have closes : (closing.moved distance).token = .closing := closes
    rw [moved_applied, List.map_append, List.map_append, List.map_cons]
    exact (spelled.moved distance).derives_applied opens closes (.some given)
  case unary => exact fun stands inner => .unary stands inner
  case binary =>
    intro operator left right a b lexeme stands first second
    rw [List.map_append, List.map_cons]
    exact .binary stands first second
  case last => exact fun inner => .last inner
  case more =>
    intro phrase rest argument arguments comma separates first others
    rw [List.map_append, List.map_cons]
    exact .more separates first others

/-! ### Code -/

variable {K : Type} [Scalar K] {slots : SlotTable}

theorem argumentInstructions_moved {distance : Nat} {arguments : List Expression}
    (each : ∀ argument ∈ arguments, ∀ code : List (Instruction K),
      argument.instructions slots = .ok code →
        (argument.moved distance).instructions slots = .ok code)
    {code : List (Instruction K)} (lowered : argumentInstructions slots arguments = .ok code) :
    argumentInstructions slots (movedArguments distance arguments) = .ok code := by
  induction arguments generalizing code with
  | nil => exact lowered
  | cons argument arguments ih =>
    obtain ⟨first, rest, here, others, joined⟩ := argumentInstructions_cons_eq_ok_iff.mp lowered
    refine argumentInstructions_cons_eq_ok_iff.mpr ⟨first, rest, ?_, ?_, joined⟩
    · exact each argument List.mem_cons_self first here
    · exact ih (fun other member => each other (List.mem_cons_of_mem _ member)) others

/-- **The code of a tree** does not depend on where it stands. -/
theorem instructions_moved {tree : Expression} {code : List (Instruction K)}
    (lowered : tree.instructions slots = .ok code) (distance : Nat) :
    (tree.moved distance).instructions slots = .ok code := by
  induction tree generalizing code with
  | number quantity => exact lowered
  | text content => exact lowered
  | name name offset =>
    obtain ⟨instruction, found, same⟩ := instructions_name_eq_ok_iff.mp lowered
    refine instructions_name_eq_ok_iff.mpr ⟨instruction, ?_, same⟩
    exact nameInstruction_eq_ok_iff.mpr (nameInstruction_eq_ok_iff.mp found)
  | field slot field offset =>
    exact instructions_field_eq_ok_iff.mpr (instructions_field_eq_ok_iff.mp lowered)
  | method slot name arguments offset ih =>
    obtain ⟨receiver, builtin, before, bound, object, found, arity, others, same⟩ :=
      instructions_method_eq_ok_iff.mp lowered
    refine instructions_method_eq_ok_iff.mpr ⟨receiver, builtin, before, bound, object, found, ?_,
      argumentInstructions_moved (fun argument member code => ih argument member) others, ?_⟩
    · rw [length_movedArguments, arity]
    · rw [length_movedArguments, same]
  | call name arguments offset ih =>
    obtain ⟨builtin, before, found, arity, others, same⟩ :=
      instructions_call_eq_ok_iff.mp lowered
    refine instructions_call_eq_ok_iff.mpr ⟨builtin, before, found, ?_,
      argumentInstructions_moved (fun argument member code => ih argument member) others, ?_⟩
    · rw [length_movedArguments, arity]
    · rw [length_movedArguments, same]
  | unary operator operand ih =>
    obtain ⟨before, inner, same⟩ := instructions_unary_eq_ok_iff.mp lowered
    exact instructions_unary_eq_ok_iff.mpr ⟨before, ih inner, same⟩
  | binary operator left right leftIh rightIh =>
    obtain ⟨first, second, leftLowered, rightLowered, same⟩ :=
      instructions_binary_eq_ok_iff.mp lowered
    exact instructions_binary_eq_ok_iff.mpr
      ⟨first, second, leftIh leftLowered, rightIh rightLowered, same⟩

/-- **A text in parentheses** is a phrase with the code of the text. -/
theorem lexedAs_group {text : String} {tree : Expression}
    (parsed : Expression.ofText text = .ok tree) {code : List (Instruction K)}
    (lowered : tree.instructions slots = .ok code) :
    LexedAs ('(' :: (text.toList ++ [')'])) fun phrase =>
      ∃ other, Derives .primary phrase other ∧ other.instructions slots = .ok code := by
  obtain ⟨lexemes, lexed, derives⟩ := ofText_eq_ok_iff_derives.mp parsed
  have ends : ∀ next ∈ [')'].head?, EndsToken next :=
    fun next first => .inl (Option.some.inj first).symm
  have inner := lexed.lexedAs ends (lexedAs_nothing.token covers_closing)
  intro offset
  obtain ⟨_, whole, opening, _, rfl, isOpening, distance, _, rfl, closing, _, rfl, isClosing,
    rfl⟩ := inner.token covers_opening offset
  refine ⟨_, whole, tree.moved distance, ?_, instructions_moved lowered distance⟩
  exact .group isOpening isClosing (derives.moved distance)

end DesignRules.Condition

/-
**The tokens of a condition.**

A token stands at a byte offset of the text and covers a piece of it. White space separates tokens
and belongs to none.

* `Token`, `Lexeme`: a token, and a token with its place and its text.
* `scan`: the token at the front of a text and how many further characters it covers.
* `lexemes`: all tokens of a text, the end of the text among them.
-/

import DesignRules.Condition.Fault
import DesignRules.Length
import DesignRules.Text.Blank
import DesignRules.Text.Numeral
import DesignRules.Text.Utf8

namespace DesignRules.Condition

open Text (isBlank isLetter isLetterOrNumeral width)

/-- A comparison of two values. -/
inductive Comparison where
  | equal
  | unequal
  | less
  | atMost
  | greater
  | atLeast
  deriving DecidableEq, Repr

/-- An arithmetic operation on two numbers. -/
inductive Arithmetic where
  | add
  | subtract
  | multiply
  | divide
  deriving DecidableEq, Repr

/-- A token of a condition. -/
inductive Token where
  | number (quantity : Quantity)
  | text (content : String)
  | word (name : String)
  | dot
  | comma
  | opening
  | closing
  | compare (comparison : Comparison)
  | and
  | or
  | not
  | plus
  | minus
  | star
  | slash
  | finish
  deriving DecidableEq, Repr

/-- A token with its byte offset and its text. -/
structure Lexeme where
  token : Token
  offset : Nat
  text : String
  deriving DecidableEq, Repr

/-! ### One token -/

/-- The number at the front of a text and what follows it; a point belongs to it only if a digit
follows. -/
def splitNumber (characters : List Char) : List Char × List Char :=
  let whole := characters.takeWhile Decimal.isDigit
  let rest := characters.dropWhile Decimal.isDigit
  match rest with
  | '.' :: next :: after =>
    if Decimal.isDigit next then
      (whole ++ '.' :: (next :: after).takeWhile Decimal.isDigit,
        (next :: after).dropWhile Decimal.isDigit)
    else (whole, rest)
  | _ => (whole, rest)

/-- Whether a text starts with a number. -/
def startsNumber (characters : List Char) : Bool :=
  match characters with
  | '.' :: next :: _ => Decimal.isDigit next
  | c :: _ => Decimal.isDigit c
  | [] => false

/-- Whether a character may continue a word. -/
def continuesWord (c : Char) : Bool := isLetterOrNumeral c || c == '_'

/-- Whether a character may start a word. -/
def startsWord (c : Char) : Bool := isLetter c || c == '_'

/-- The operator or mark at the front of a text, with the count of its characters after the first;
marks of two characters come before those of one. -/
def mark? : List Char → Option (Token × Nat)
  | '=' :: '=' :: _ => some (.compare .equal, 1)
  | '!' :: '=' :: _ => some (.compare .unequal, 1)
  | '<' :: '=' :: _ => some (.compare .atMost, 1)
  | '>' :: '=' :: _ => some (.compare .atLeast, 1)
  | '&' :: '&' :: _ => some (.and, 1)
  | '|' :: '|' :: _ => some (.or, 1)
  | '<' :: _ => some (.compare .less, 0)
  | '>' :: _ => some (.compare .greater, 0)
  | '!' :: _ => some (.not, 0)
  | '+' :: _ => some (.plus, 0)
  | '-' :: _ => some (.minus, 0)
  | '*' :: _ => some (.star, 0)
  | '/' :: _ => some (.slash, 0)
  | '.' :: _ => some (.dot, 0)
  | ',' :: _ => some (.comma, 0)
  | '(' :: _ => some (.opening, 0)
  | ')' :: _ => some (.closing, 0)
  | _ => none

/-- A quoted text after its opening quote, with the count of its characters after that. -/
def scanQuoted (offset : Nat) (quote : Char) (rest : List Char) : Except Fault (Token × Nat) :=
  let content := rest.takeWhile (· != quote)
  if content.length < rest.length then
    .ok (.text (String.ofList content), content.length + 1)
  else .error ⟨.unterminatedString, offset, String.ofList (quote :: rest)⟩

/-- A number with the letters right after it, with the count of its characters after the first. -/
def scanNumber (offset : Nat) (characters : List Char) : Except Fault (Token × Nat) :=
  let (digits, rest) := splitNumber characters
  let letters := rest.takeWhile isUnitLetter
  let length := digits.length + letters.length
  match Decimal.Literal.ofCharacters? digits with
  | none => .error ⟨.invalidNumber, offset, String.ofList (digits ++ letters)⟩
  | some number =>
    match Quantity.unitOf? letters with
    | none => .error ⟨.unknownUnit, offset + width digits, String.ofList letters⟩
    | some unit? => .ok (.number ⟨number, unit?⟩, length - 1)

/-- The token that starts with the character `c` at byte `offset`, and how many characters of the
`rest` it covers. -/
def scan (offset : Nat) (c : Char) (rest : List Char) : Except Fault (Token × Nat) :=
  if c = '\'' ∨ c = '"' then scanQuoted offset c rest
  else if startsNumber (c :: rest) then scanNumber offset (c :: rest)
  else if startsWord c then
    let more := rest.takeWhile continuesWord
    .ok (.word (String.ofList (c :: more)), more.length)
  else
    match mark? (c :: rest) with
    | some found => .ok found
    | none => .error ⟨.unexpectedCharacter, offset, c.toString⟩

/-! ### All tokens -/

/-- The tokens of a text that starts at byte `offset`. -/
def lexemesFrom (offset : Nat) : List Char → Except Fault (List Lexeme)
  | [] => .ok [⟨.finish, offset, ""⟩]
  | c :: rest =>
    if isBlank c then lexemesFrom (offset + c.utf8Size) rest
    else
      match scan offset c rest with
      | .error fault => .error fault
      | .ok (token, count) =>
        let covered := c :: rest.take count
        (lexemesFrom (offset + width covered) (rest.drop count)).map
          (⟨token, offset, String.ofList covered⟩ :: ·)
termination_by characters => characters.length
decreasing_by all_goals simp only [List.length_cons, List.length_drop]; omega

/-- The tokens of a text, the end of the text the last of them. -/
def lexemes (text : String) : Except Fault (List Lexeme) := lexemesFrom 0 text.toList

end DesignRules.Condition

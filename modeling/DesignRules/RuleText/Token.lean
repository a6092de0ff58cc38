/-
**The tokens of a rule document.**

A document is made of parentheses, bare words and texts in double quotes. A hash starts a comment up
to the end of its line. The end of a line also ends a text that was not closed. In a text a
backslash takes the next character as it is, apart from `\n` for a line break and `\t` for a tab.

* `Mode`, `Scanner.step`: what is being read, and what one more character does to it.
* `Token.ofCharacters`: the tokens of a document with the lines at which they start.
-/

import DesignRules.Text.Blank

namespace DesignRules.RuleText

open Text (isBlank)

/-- A token of a rule document. -/
inductive Token where
  | opening
  | closing
  | word (name : String)
  | text (content : String) (closed : Bool)
  deriving DecidableEq, Repr

/-- A token with the line at which it starts. -/
structure Located where
  token : Token
  line : Nat
  deriving DecidableEq, Repr

/-- What is being read; characters are kept in reverse, and a text keeps the line of its opening
quote. -/
inductive Mode where
  | between
  | comment
  | word (reversed : List Char)
  | text (line : Nat) (reversed : List Char)
  | escape (line : Nat) (reversed : List Char)
  deriving DecidableEq, Repr

/-- What is being read and the line at which it is. -/
structure Scanner where
  mode : Mode
  line : Nat
  deriving DecidableEq, Repr

namespace Scanner

/-- At the start of a document. -/
def start : Scanner := ⟨.between, 1⟩

/-- A text that is kept in reverse. -/
def unreversed (reversed : List Char) : String := String.ofList reversed.reverse

/-- The character that an escape stands for. -/
def unescaped (c : Char) : Char :=
  if c = 'n' then '\n' else if c = 't' then '\t' else c

/-- A character between tokens. -/
def stepBetween (line : Nat) (c : Char) : Scanner × List Located :=
  if c = '#' then (⟨.comment, line⟩, [])
  else if isBlank c then (⟨.between, if c = '\n' then line + 1 else line⟩, [])
  else if c = '(' then (⟨.between, line⟩, [⟨.opening, line⟩])
  else if c = ')' then (⟨.between, line⟩, [⟨.closing, line⟩])
  else if c = '"' then (⟨.text line [], line⟩, [])
  else (⟨.word [c], line⟩, [])

/-- Whether a character ends a bare word. -/
def endsWord (c : Char) : Bool := isBlank c || c == '(' || c == ')' || c == '"' || c == '#'

/-- One more character: the scanner after it and the tokens that it completes. -/
def step (scanner : Scanner) (c : Char) : Scanner × List Located :=
  let line := scanner.line
  match scanner.mode with
  | .between => stepBetween line c
  | .comment => if c = '\n' then stepBetween line c else (⟨.comment, line⟩, [])
  | .word reversed =>
    if endsWord c then
      let (scanner, found) := stepBetween line c
      (scanner, ⟨.word (unreversed reversed), line⟩ :: found)
    else (⟨.word (c :: reversed), line⟩, [])
  | .text start reversed =>
    if c = '"' then (⟨.between, line⟩, [⟨.text (unreversed reversed) true, start⟩])
    else if c = '\n' then
      let (scanner, found) := stepBetween line c
      (scanner, ⟨.text (unreversed reversed) false, start⟩ :: found)
    else if c = '\\' then (⟨.escape start reversed, line⟩, [])
    else (⟨.text start (c :: reversed), line⟩, [])
  | .escape start reversed => (⟨.text start (unescaped c :: reversed), line⟩, [])

/-- What the end of the document completes; a backslash at the end stands for itself. -/
def finish (scanner : Scanner) : List Located :=
  match scanner.mode with
  | .between => []
  | .comment => []
  | .word reversed => [⟨.word (unreversed reversed), scanner.line⟩]
  | .text start reversed => [⟨.text (unreversed reversed) false, start⟩]
  | .escape start reversed => [⟨.text (unreversed ('\\' :: reversed)) false, start⟩]

/-- The tokens that the rest of a document completes. -/
def tokens (scanner : Scanner) : List Char → List Located
  | [] => scanner.finish
  | c :: rest =>
    let (scanner, found) := scanner.step c
    found ++ scanner.tokens rest

end Scanner

/-- The tokens of a document. -/
def Token.ofCharacters (characters : List Char) : List Located := Scanner.start.tokens characters

end DesignRules.RuleText

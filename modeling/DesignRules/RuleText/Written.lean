/-
**Written forms.**

How forms may be written: lists in parentheses, their items apart from each other, quoted atoms in
double quotes and bare atoms as they are. Between items there may be white space and comments.

* `quotedText`: a quoted atom with its escapes.
* `Gap`: white space and comments.
* `Written`, `WrittenItems`: the texts of a form, and of a list's items.
-/

import DesignRules.RuleText.Form

namespace DesignRules.RuleText

open Text (isBlank)

/-- The characters for a character of a quoted atom. -/
def escapedCharacter (c : Char) : List Char :=
  if c = '\n' then ['\\', 'n'] else if c = '\\' ∨ c = '"' then ['\\', c] else [c]

/-- A quoted atom as it is written. -/
def quotedText (content : String) : List Char :=
  '"' :: content.toList.flatMap escapedCharacter ++ ['"']

/-- Whether an atom can be written bare. -/
def isBare (name : String) : Bool :=
  !name.isEmpty && name.toList.all fun c => !Scanner.endsWord c

/-- White space, and comments with the ends of their lines. -/
inductive Gap : List Char → Prop where
  | nothing : Gap []
  | blank {c : Char} {rest : List Char} : isBlank c = true → Gap rest → Gap (c :: rest)
  | comment {words rest : List Char} :
      '\n' ∉ words → Gap rest → Gap ('#' :: words ++ '\n' :: rest)

mutual

/-- The texts of a form. -/
inductive Written : Form → List Char → Prop where
  | bare {name : String} {line : Nat} :
      isBare name = true → Written (.atom name false line) name.toList
  | quoted {content : String} {line : Nat} :
      Written (.atom content true line) (quotedText content)
  | list {items : List Form} {line : Nat} {text : List Char} :
      WrittenItems items text → Written (.list items line) ('(' :: text ++ [')'])

/-- The texts of some forms one after the other, with gaps between them. -/
inductive WrittenItems : List Form → List Char → Prop where
  | none {gap : List Char} : Gap gap → WrittenItems [] gap
  | last {form : Form} {before text after : List Char} :
      Gap before → Written form text → Gap after →
      WrittenItems [form] (before ++ text ++ after)
  | more {form next : Form} {rest : List Form} {before text between others : List Char} :
      Gap before → Written form text → Gap between → between ≠ [] →
      WrittenItems (next :: rest) others →
      WrittenItems (form :: next :: rest) (before ++ text ++ between ++ others)

end

end DesignRules.RuleText

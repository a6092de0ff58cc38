/-
**Name patterns.**

A text with a star or a question mark is a glob; every other text, and a text that is no well-formed
glob, matches itself only.

* `Pattern.hasWildcard`: whether a text is taken for a glob.
* `Pattern.glob?`: the parts of the glob, if the pattern is one.
* `Pattern.isMatch`: whether a pattern matches a whole text.
-/

import DesignRules.Glob.Marks
import DesignRules.Glob.Reader

namespace DesignRules

/-- A pattern by its text; patterns of the same text are equal. -/
structure Pattern where
  source : String
  deriving DecidableEq, Repr

namespace Pattern

/-- Whether a text holds a star or a question mark. -/
def hasWildcard (text : String) : Bool := text.toList.any fun c => c == '*' || c == '?'

/-- The parts of the glob, if the pattern is one. -/
def glob? (pattern : Pattern) : Option (List Glob.Part) :=
  if hasWildcard pattern.source then Glob.ofCharacters? pattern.source.toList else none

/-- Whether the pattern matches its own text only. -/
def isLiteral (pattern : Pattern) : Bool := pattern.glob?.isNone

/-- Whether the pattern matches a whole text. -/
def isMatch (pattern : Pattern) (text : String) : Bool :=
  match pattern.glob? with
  | some parts => Glob.isMatch parts (Text.utf8 text.toList)
  | none => pattern.source == text

end Pattern

end DesignRules

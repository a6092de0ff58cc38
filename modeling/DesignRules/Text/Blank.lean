/-
**White space of the Unicode standard.**

* `isBlank`: the property White_Space.
* `isBlank_of_isWhitespace`: the ASCII white space of the core library belongs to it.
-/

import DesignRules.Text.Range

namespace DesignRules.Text

/-- The code points with the property White_Space. -/
def blankRanges : Ranges :=
  [(9, 13), (32, 32), (133, 133), (160, 160), (5760, 5760), (8192, 8202), (8232, 8233),
   (8239, 8239), (8287, 8287), (12288, 12288)]

/-- Whether a character is white space. -/
def isBlank (c : Char) : Bool := within blankRanges c.toNat

theorem isBlank_of_isWhitespace {c : Char} (white : c.isWhitespace = true) : isBlank c = true := by
  simp only [Char.isWhitespace, Bool.or_eq_true, decide_eq_true_eq] at white
  rcases white with ((rfl | rfl) | rfl) | rfl <;> decide

end DesignRules.Text

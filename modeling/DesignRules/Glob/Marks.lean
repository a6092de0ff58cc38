/-
**Matching globs.**

A text of `n` bytes has `n + 1` places: before each byte and at the end. Matching keeps a mark for
each place, which tells whether the parts so far can take all bytes before it, so that a part is
looked at once whatever the number of ways to get there.

* `Glob.advance`, `Glob.spread`, `Glob.joined`: the marks after one byte, after any run of bytes,
  and after either of two ways.
* `Glob.Part.after`, `Glob.afterAll`: the marks after a part and after a sequence.
* `Glob.isMatch`: whether a sequence takes the whole text.
-/

import DesignRules.Glob.Basic

namespace DesignRules.Glob

/-- One mark for each place of a text. -/
abbrev Marks := List Bool

/-! ### Steps -/

/-- The place before the first byte only. -/
def start (text : Bytes) : Marks := true :: text.map fun _ => false

/-- The places that follow a marked place and one byte of some kind. -/
def advance (holds : UInt8 → Bool) (text : Bytes) (marks : Marks) : Marks :=
  false :: List.zipWith (fun mark byte => mark && holds byte) marks text

/-- The places at or after a marked one; `seen` tells whether there was one before. -/
def spread (seen : Bool) : Marks → Marks
  | [] => []
  | mark :: marks => (seen || mark) :: spread (seen || mark) marks

/-- The places that are marked in one way or the other. -/
def joined (first second : Marks) : Marks := List.zipWith or first second

/-- No place. -/
def unmarked (marks : Marks) : Marks := marks.map fun _ => false

/-- The places that follow a marked place and some bytes. -/
def advanceBytes (word text : Bytes) (marks : Marks) : Marks :=
  word.foldl (fun marks expected => advance (· == expected) text marks) marks

/-- The places that follow a marked place and a slash. -/
def advanceSlash (text : Bytes) (marks : Marks) : Marks := advance (· == slash) text marks

/-- The places that follow a marked place and a run that ends in a slash. -/
def advanceRunSlash (text : Bytes) (marks : Marks) : Marks :=
  advanceSlash text (spread false marks)

theorem length_start (text : Bytes) : (start text).length = text.length + 1 := by
  simp [start]

theorem length_advance {text : Bytes} {marks : Marks} (holds : UInt8 → Bool)
    (places : marks.length = text.length + 1) :
    (advance holds text marks).length = text.length + 1 := by
  simp [advance, places]

theorem length_spread (seen : Bool) (marks : Marks) :
    (spread seen marks).length = marks.length := by
  induction marks generalizing seen with
  | nil => rfl
  | cons mark marks ih => simp [spread, ih]

theorem length_joined {first second : Marks} (equal : first.length = second.length) :
    (joined first second).length = first.length := by
  simp [joined, equal]

/-! ### Parts -/

mutual

/-- The marks after a part; branches without content are no alternatives. -/
def Part.after (text : Bytes) : Part → Marks → Marks
  | .literal character, marks => advanceBytes (String.utf8EncodeChar character) text marks
  | .anyByte, marks => advance (fun _ => true) text marks
  | .run, marks => spread false marks
  | .leading, marks => joined marks (advanceRunSlash text marks)
  | .trailing, marks => spread false (advanceSlash text marks)
  | .between, marks =>
    joined (advanceSlash text marks) (advanceRunSlash text (advanceSlash text marks))
  | .oneOf negated entries, marks => advance (classHolds negated entries) text marks
  | .alternatives branches, marks =>
    if allVoid branches then marks else afterAny text branches marks

/-- The marks after a sequence. -/
def afterAll (text : Bytes) : List Part → Marks → Marks
  | [], marks => marks
  | part :: parts, marks => afterAll text parts (part.after text marks)

/-- The marks after one of the branches that have content. -/
def afterAny (text : Bytes) : List (List Part) → Marks → Marks
  | [], marks => unmarked marks
  | branch :: branches, marks =>
    if isVoid branch then afterAny text branches marks
    else joined (afterAll text branch marks) (afterAny text branches marks)

end

/-- Whether a sequence takes the whole text; a double star alone takes every text. -/
def isMatch (parts : List Part) (text : Bytes) : Bool :=
  match parts with
  | [.leading] => true
  | parts => (afterAll text parts (start text)).getLast?.getD false

end DesignRules.Glob

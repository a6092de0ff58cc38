/-
**Plain wildcards.**

In a pattern without brackets, braces, backslashes and slashes a star takes any run of bytes, a
question mark one byte, and every other character its own bytes.

* `Takes`: which bytes such a pattern takes.
* `Masks`: the patterns made from a name by putting wildcards in the place of some of its parts.
-/

import DesignRules.Glob.Basic

namespace DesignRules.Glob

/-- Whether a pattern is made of plain wildcards and characters that stand for themselves. -/
def isPlain (pattern : List Char) : Bool :=
  pattern.all fun c => c != '[' && c != '\x7b' && c != '\x7d' && c != '\\' && c != '/'

/-- The bytes that a plain pattern takes, piece by piece. -/
inductive Takes : List Char → Bytes → Prop where
  | nothing : Takes [] []
  | anyByte {pattern : List Char} {byte : UInt8} {bytes : Bytes} :
      Takes pattern bytes → Takes ('?' :: pattern) (byte :: bytes)
  | run {pattern : List Char} {piece bytes : Bytes} :
      Takes pattern bytes → Takes ('*' :: pattern) (piece ++ bytes)
  | literal {c : Char} {pattern : List Char} {bytes : Bytes} :
      c ≠ '*' → c ≠ '?' → Takes pattern bytes →
      Takes (c :: pattern) (String.utf8EncodeChar c ++ bytes)

/-- The patterns that come from a name when a star takes the place of a part of it, or a question
mark that of a character that it may replace, any number of times. -/
inductive Masks (replaceable : Char → Prop) : List Char → List Char → Prop where
  | nothing : Masks replaceable [] []
  | keep {c : Char} {pattern name : List Char} :
      Masks replaceable pattern name → Masks replaceable (c :: pattern) (c :: name)
  | one {c : Char} {pattern name : List Char} :
      replaceable c → Masks replaceable pattern name →
      Masks replaceable ('?' :: pattern) (c :: name)
  | part {pattern piece name : List Char} :
      Masks replaceable pattern name → Masks replaceable ('*' :: pattern) (piece ++ name)

end DesignRules.Glob

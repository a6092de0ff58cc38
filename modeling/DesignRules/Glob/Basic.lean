/-
**Glob patterns.**

A pattern is a sequence of parts, each of which takes some bytes from the front of a text.

* `Glob.Part`: a byte of its own, any byte, any run of bytes, one byte of a class, one of several
  sequences, and the three forms of a double star that stands alone between slashes.
* `Glob.classHolds`: whether a byte belongs to a class.
* `Glob.isVoid`: whether a sequence has no content, so that it is no alternative.
-/

import DesignRules.Text.Utf8

namespace DesignRules.Glob

/-- A part of a pattern. -/
inductive Part where
  /-- The bytes of one character. -/
  | literal (character : Char)
  /-- One byte. -/
  | anyByte
  /-- Any run of bytes. -/
  | run
  /-- A double star at the start: nothing, a slash, or a run that ends in a slash. -/
  | leading
  /-- A double star at the end: a slash and what follows. -/
  | trailing
  /-- A double star between slashes: a slash, or a run between two slashes. -/
  | between
  /-- One byte of a class, or one outside of it. -/
  | oneOf (negated : Bool) (entries : List (Char × Char))
  /-- What one of the branches takes. -/
  | alternatives (branches : List (List Part))
  deriving Repr

/-- A sequence of bytes. -/
abbrev Bytes := List UInt8

/-- The byte of the separator. -/
def slash : UInt8 := 47

/-! ### Classes -/

/-- Ranges of bytes, both ends included. -/
abbrev ByteRanges := List (UInt8 × UInt8)

/-- A range of each byte alone. -/
def single (bytes : Bytes) : ByteRanges := bytes.map fun byte => (byte, byte)

/-- The bytes of an entry of a class: those of a lone character; for a range the bytes of its ends,
joined to a range from the last byte of the first end to the first byte of the second. -/
def entryBytes (entry : Char × Char) : ByteRanges :=
  let first := String.utf8EncodeChar entry.1
  let second := String.utf8EncodeChar entry.2
  if entry.1 = entry.2 then single first
  else
    single first.dropLast ++
      [(first.getLast?.getD 0, second.head?.getD 0)] ++ single second.tail

/-- Whether a byte belongs to a class. -/
def classHolds (negated : Bool) (entries : List (Char × Char)) (byte : UInt8) : Bool :=
  let listed := (entries.flatMap entryBytes).any fun range => range.1 ≤ byte && byte ≤ range.2
  listed != negated

/-! ### Sequences without content -/

mutual

/-- Whether a sequence consists of nothing but empty alternatives. -/
def isVoid : List Part → Bool
  | [] => true
  | part :: parts => part.isVoid && isVoid parts

/-- Whether a part is made of empty alternatives only. -/
def Part.isVoid : Part → Bool
  | .alternatives branches => allVoid branches
  | _ => false

/-- Whether every branch is made of empty alternatives only. -/
def allVoid : List (List Part) → Bool
  | [] => true
  | branch :: branches => isVoid branch && allVoid branches

end

end DesignRules.Glob

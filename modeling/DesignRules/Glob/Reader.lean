/-
**Reading glob patterns.**

* `Glob.ofCharacters?`: the parts of a pattern; none where a class or a brace is not closed, a brace
  closes nothing, a range runs backwards, or the last character is a lone backslash.
-/

import DesignRules.Glob.Basic

namespace DesignRules.Glob

/-! ### Classes -/

/-- A class while it is read: its entries in reverse, and whether a hyphen waits for the end of a
range. -/
structure ClassDraft where
  entries : List (Char × Char)
  inRange : Bool

namespace ClassDraft

/-- Moves the end of the last entry, if that does not make it run backwards. -/
def extend? (draft : ClassDraft) (last : Char) : Option ClassDraft :=
  match draft.entries with
  | [] => none
  | (first, _) :: entries => if last < first then none else some ⟨(first, last) :: entries, false⟩

/-- A class with one more character; a hyphen after an entry may start a range. -/
def add? (draft : ClassDraft) (c : Char) : Option ClassDraft :=
  if draft.inRange then draft.extend? c
  else if c = '-' ∧ draft.entries ≠ [] then some { draft with inRange := true }
  else some { draft with entries := (c, c) :: draft.entries }

/-- The entries in order; a hyphen that waited for the end of a range stands for itself. -/
def finish (draft : ClassDraft) : List (Char × Char) :=
  (if draft.inRange then ('-', '-') :: draft.entries else draft.entries).reverse

end ClassDraft

/-- A class up to its closing bracket, which does not close a class without entries. -/
def entries? (draft : ClassDraft) : List Char → Option (List (Char × Char) × List Char)
  | [] => none
  | c :: rest =>
    if c = ']' ∧ draft.entries ≠ [] then some (draft.finish, rest)
    else (draft.add? c).bind fun longer => entries? longer rest

/-- A class after its opening bracket. -/
def class? : List Char → Option (Part × List Char)
  | [] => none
  | c :: rest =>
    let negated := c = '!' ∨ c = '^'
    (entries? ⟨[], false⟩ (if negated then rest else c :: rest)).map fun (entries, rest) =>
      (.oneOf negated entries, rest)

/-! ### Sequences -/

/-- An alternation that is not closed yet: the sequence around it and its branches so far, all in
reverse. -/
structure Level where
  outer : List Part
  branches : List (List Part)

/-- A pattern while it is read: the sequence at hand in reverse, and the alternations around it from
the innermost. -/
structure Draft where
  sequence : List Part
  levels : List Level

namespace Draft

/-- A draft with one more part. -/
def push (draft : Draft) (part : Part) : Draft :=
  { draft with sequence := part :: draft.sequence }

/-- A draft with two runs, for a double star without a meaning of its own. -/
def pushRuns (draft : Draft) : Draft := (draft.push .run).push .run

/-- Opens an alternation. -/
def openLevel (draft : Draft) : Draft := ⟨[], ⟨draft.sequence, []⟩ :: draft.levels⟩

/-- Ends a branch and starts the next; outside of alternations a comma stands for itself. -/
def nextBranch (draft : Draft) : Draft :=
  match draft.levels with
  | [] => draft.push (.literal ',')
  | level :: levels =>
    ⟨[], { level with branches := draft.sequence.reverse :: level.branches } :: levels⟩

/-- Closes the innermost alternation. -/
def closeLevel? (draft : Draft) : Option Draft :=
  match draft.levels with
  | [] => none
  | level :: levels =>
    let branches := (draft.sequence.reverse :: level.branches).reverse
    some ⟨.alternatives branches :: level.outer, levels⟩

/-- Puts a double star in the place of the last part, unless that is one already. -/
def replaceLast (draft : Draft) (star : Part) : Draft :=
  match draft.sequence with
  | .leading :: _ => draft
  | .trailing :: _ => draft
  | _ :: sequence => { draft with sequence := star :: sequence }
  | [] => draft.push star

/-- A double star at the start of a sequence: followed by a slash or nothing it is a leading one. -/
def firstStars (draft : Draft) : List Char → Draft × Option Char × List Char
  | [] => (draft.push .leading, some '*', [])
  | '/' :: rest => (draft.push .leading, some '/', rest)
  | rest => (draft.pushRuns, some '*', rest)

/-- A double star after a slash: a trailing one where the sequence ends, one between slashes where a
slash follows. -/
def laterStars (draft : Draft) : List Char → Draft × Option Char × List Char
  | [] => (draft.replaceLast .trailing, some '*', [])
  | c :: rest =>
    if (c = ',' ∨ c = '\x7d') ∧ draft.levels ≠ [] then
      (draft.replaceLast .trailing, some '*', c :: rest)
    else if c = '/' then (draft.replaceLast .between, some '/', rest)
    else (draft.pushRuns, some '*', c :: rest)

/-- What follows the first star; `previous` is the character before it. The result names the last
character that was read and what remains. -/
def stars (draft : Draft) (previous : Option Char) : List Char → Draft × Option Char × List Char
  | '*' :: rest =>
    if draft.sequence.isEmpty then draft.firstStars rest
    else if previous = some '/' ∨
        (draft.levels ≠ [] ∧ (previous = some ',' ∨ previous = some '\x7b')) then
      draft.laterStars rest
    else (draft.pushRuns, some '*', rest)
  | rest => (draft.push .run, some '*', rest)

end Draft

/-- Reads on from a draft; `previous` is the last character that was read, and `limit` bounds the
number of steps. -/
def continue? : Nat → Draft → Option Char → List Char → Option (List Part)
  | _, draft, _, [] => if draft.levels.isEmpty then some draft.sequence.reverse else none
  | 0, _, _, _ :: _ => none
  | limit + 1, draft, previous, c :: rest =>
    if c = '?' then continue? limit (draft.push .anyByte) (some c) rest
    else if c = '*' then
      let (draft, previous, rest) := draft.stars previous rest
      continue? limit draft previous rest
    else if c = '[' then
      match class? rest with
      | none => none
      | some (part, rest) => continue? limit (draft.push part) (some ']') rest
    else if c = '\x7b' then continue? limit draft.openLevel (some c) rest
    else if c = '\x7d' then
      match draft.closeLevel? with
      | none => none
      | some draft => continue? limit draft (some c) rest
    else if c = ',' then continue? limit draft.nextBranch (some c) rest
    else if c = '\\' then
      match rest with
      | [] => none
      | escaped :: rest => continue? limit (draft.push (.literal escaped)) (some escaped) rest
    else continue? limit (draft.push (.literal c)) (some c) rest

/-- The parts of a pattern, if it is well formed. -/
def ofCharacters? (characters : List Char) : Option (List Part) :=
  continue? characters.length ⟨[], []⟩ none characters

end DesignRules.Glob

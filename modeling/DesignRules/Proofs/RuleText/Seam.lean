/-
**Two parts of a document with a blank line between them.**

A blank line ends whatever token it stands in, and a parenthesis before the word `rule` closes
whatever is open. So a part that ends with a blank line, however damaged it is, and a part that
begins with a rule are read as if each stood alone. Only the lines are counted on.

* `Scanner.tokens_append`, `Scanner.between_after_blankLine`: the scanner at the end of a part.
* `Scanner.tokens_moved`: the tokens of a text some lines further down.
* `Reading.Continues`: a reading of a part with something before it, beside a reading of the part
  alone; `Continues.step`, `Continues.read` and `Continues.forms_finish` keep them together.
* `Forms.ofText_append`: the forms of both parts.
-/

import DesignRules.RuleText.Form
import Mathlib.Data.List.Basic

namespace DesignRules.RuleText

/-! ### The scanner at the end of a part -/

namespace Scanner

/-- The scanner after some characters. -/
def after (scanner : Scanner) (characters : List Char) : Scanner :=
  characters.foldl (fun scanner c => (scanner.step c).1) scanner

/-- The tokens that some characters complete, whatever follows them. -/
def completed (scanner : Scanner) : List Char → List Located
  | [] => []
  | c :: rest => (scanner.step c).2 ++ (scanner.step c).1.completed rest

theorem tokens_cons (scanner : Scanner) (c : Char) (rest : List Char) :
    scanner.tokens (c :: rest) = (scanner.step c).2 ++ (scanner.step c).1.tokens rest := rfl

theorem tokens_append (front back : List Char) (scanner : Scanner) :
    scanner.tokens (front ++ back) =
      scanner.completed front ++ (scanner.after front).tokens back := by
  induction front generalizing scanner with
  | nil => rfl
  | cons c front ih =>
    rw [List.cons_append, tokens_cons, completed, ih, List.append_assoc]
    rfl

theorem after_append (front back : List Char) (scanner : Scanner) :
    scanner.after (front ++ back) = (scanner.after front).after back := List.foldl_append

/-- The two line ends after which nothing of a part is left open. -/
def blankLine : List Char := ['\n', '\n']

/-- A blank line ends every token: a text ends with the line, and an escape takes no more than the
end of the first line. -/
theorem between_after_blankLine (scanner : Scanner) :
    (scanner.after blankLine).mode = .between := by
  obtain ⟨mode, line⟩ := scanner
  cases mode with
  | between => rfl
  | comment => rfl
  | word reversed => rfl
  | text start reversed => rfl
  | escape start reversed => rfl

theorem line_le_stepBetween (line : Nat) (c : Char) : line ≤ (stepBetween line c).1.line := by
  unfold stepBetween
  split_ifs <;> dsimp only <;> omega

theorem line_le_step (scanner : Scanner) (c : Char) : scanner.line ≤ (scanner.step c).1.line := by
  obtain ⟨mode, line⟩ := scanner
  unfold step
  cases mode with
  | between => exact line_le_stepBetween line c
  | comment =>
    dsimp only
    split
    · exact line_le_stepBetween line c
    · exact Nat.le_refl line
  | word reversed =>
    dsimp only
    split
    · exact line_le_stepBetween line c
    · exact Nat.le_refl line
  | text start reversed =>
    dsimp only
    split
    · exact Nat.le_refl line
    split
    · exact line_le_stepBetween line c
    split
    · exact Nat.le_refl line
    · exact Nat.le_refl line
  | escape start reversed => exact Nat.le_refl line

theorem line_le_after (characters : List Char) (scanner : Scanner) :
    scanner.line ≤ (scanner.after characters).line := by
  induction characters generalizing scanner with
  | nil => exact Nat.le_refl _
  | cons c characters ih => exact Nat.le_trans (scanner.line_le_step c) (ih (scanner.step c).1)

end Scanner

/-! ### Lines -/

/-- A token some lines further down. -/
def Located.moved (lines : Nat) (located : Located) : Located :=
  ⟨located.token, located.line + lines⟩

/-- What is being read, some lines further down. -/
def Mode.moved (lines : Nat) : Mode → Mode
  | .between => .between
  | .comment => .comment
  | .word reversed => .word reversed
  | .text start reversed => .text (start + lines) reversed
  | .escape start reversed => .escape (start + lines) reversed

namespace Scanner

/-- A scanner some lines further down. -/
def moved (lines : Nat) (scanner : Scanner) : Scanner :=
  ⟨scanner.mode.moved lines, scanner.line + lines⟩

theorem stepBetween_moved (lines line : Nat) (c : Char) :
    stepBetween (line + lines) c =
      ((stepBetween line c).1.moved lines, (stepBetween line c).2.map (Located.moved lines)) := by
  unfold stepBetween
  split
  · rfl
  split
  · split
    · rw [Nat.add_right_comm]
      rfl
    · rfl
  split
  · rfl
  split
  · rfl
  split
  · rfl
  · rfl

theorem step_moved (lines : Nat) (scanner : Scanner) (c : Char) :
    (scanner.moved lines).step c =
      ((scanner.step c).1.moved lines, (scanner.step c).2.map (Located.moved lines)) := by
  obtain ⟨mode, line⟩ := scanner
  unfold step moved
  cases mode with
  | between => exact stepBetween_moved lines line c
  | comment =>
    dsimp only [Mode.moved]
    split
    · exact stepBetween_moved lines line c
    · rfl
  | word reversed =>
    dsimp only [Mode.moved]
    split
    · rw [stepBetween_moved lines line c]
      rfl
    · rfl
  | text start reversed =>
    dsimp only [Mode.moved]
    split
    · rfl
    split
    · rw [stepBetween_moved lines line c]
      rfl
    split
    · rfl
    · rfl
  | escape start reversed => rfl

theorem finish_moved (lines : Nat) (scanner : Scanner) :
    (scanner.moved lines).finish = scanner.finish.map (Located.moved lines) := by
  obtain ⟨mode, line⟩ := scanner
  cases mode <;> rfl

theorem tokens_moved (lines : Nat) (characters : List Char) (scanner : Scanner) :
    (scanner.moved lines).tokens characters =
      (scanner.tokens characters).map (Located.moved lines) := by
  induction characters generalizing scanner with
  | nil => exact finish_moved lines scanner
  | cons c characters ih => rw [tokens_cons, tokens_cons, step_moved, ih, List.map_append]

/-- **A part that ends with a blank line is scanned as if it stood alone, and so is what follows
it**, some lines further down. -/
theorem tokens_append_blankLine (body : List Char) :
    ∃ lines, ∀ rest : List Char,
      Token.ofCharacters (body ++ blankLine ++ rest) =
        Token.ofCharacters (body ++ blankLine) ++
          (Token.ofCharacters rest).map (Located.moved lines) := by
  refine ⟨(start.after (body ++ blankLine)).line - 1, fun rest => ?_⟩
  have between : (start.after (body ++ blankLine)).mode = .between := by
    rw [after_append]
    exact between_after_blankLine _
  have counted : 1 ≤ (start.after (body ++ blankLine)).line := start.line_le_after _
  have alone : Token.ofCharacters (body ++ blankLine) = start.completed (body ++ blankLine) := by
    have parts := tokens_append (body ++ blankLine) [] start
    rw [List.append_nil, tokens, finish, between, List.append_nil] at parts
    exact parts
  have later : start.after (body ++ blankLine) =
      start.moved ((start.after (body ++ blankLine)).line - 1) := by
    generalize start.after (body ++ blankLine) = reached at between counted ⊢
    obtain ⟨mode, line⟩ := reached
    subst between
    rw [moved, start, Mode.moved, Nat.add_sub_cancel' counted]
  rw [alone, Token.ofCharacters, Token.ofCharacters, tokens_append, ← tokens_moved, ← later]

end Scanner

/-! ### Forms some lines further down -/

namespace Form

mutual

/-- A form some lines further down. -/
def moved (lines : Nat) : Form → Form
  | .atom text quoted line => .atom text quoted (line + lines)
  | .list items line => .list (allMoved lines items) (line + lines)

/-- Some forms some lines further down. -/
def allMoved (lines : Nat) : List Form → List Form
  | [] => []
  | form :: forms => form.moved lines :: allMoved lines forms

end

theorem allMoved_eq_map (lines : Nat) (forms : List Form) :
    allMoved lines forms = forms.map (moved lines) := by
  induction forms with
  | nil => rfl
  | cons form forms ih => rw [allMoved, ih, List.map_cons]

end Form

/-- An open list some lines further down. -/
def OpenList.moved (lines : Nat) (list : OpenList) : OpenList :=
  ⟨list.reversed.map (Form.moved lines), list.line + lines⟩

theorem OpenList.form_moved (lines : Nat) (list : OpenList) :
    (list.moved lines).form = list.form.moved lines := by
  rw [OpenList.form, OpenList.form, Form.moved, Form.allMoved_eq_map, List.map_reverse]
  rfl

/-! ### Two readings side by side -/

namespace Reading

/-- A reading with one more open list. -/
def opened (reading : Reading) (line : Nat) : Reading :=
  { reading with pending := ⟨[], line⟩ :: reading.pending }

/-- Whether a token is a word of the top level, which closes all open lists before its own. -/
def closes (next : Option Located) : Bool := next.any fun located => isTopLevelWord located.token

theorem closes_moved (lines : Nat) (next : Option Located) :
    closes (next.map (Located.moved lines)) = closes next := by
  cases next <;> rfl

theorem openList_eq (reading : Reading) (line : Nat) (next : Option Located) :
    reading.openList line next =
      (if closes next && !reading.pending.isEmpty then
        (reading.report line (.missingParenthesis line)).closeAll
      else reading).opened line := rfl

/-- A reading of a part of a document some lines further down and with some forms before it, beside
a reading of that part alone. -/
structure Continues (lines : Nat) (older : List Form) (whole alone : Reading) : Prop where
  pending : whole.pending = alone.pending.map (OpenList.moved lines)
  forms : whole.forms = alone.forms.map (Form.moved lines) ++ older

variable {lines : Nat} {older : List Form} {whole alone : Reading}

namespace Continues

theorem report (side : Continues lines older whole alone) (line other : Nat) (flaw another : Flaw) :
    Continues lines older (whole.report line flaw) (alone.report other another) :=
  ⟨side.pending, side.forms⟩

theorem opened (side : Continues lines older whole alone) (line : Nat) :
    Continues lines older (whole.opened (line + lines)) (alone.opened line) :=
  ⟨congrArg (_ :: ·) side.pending, side.forms⟩

theorem isEmpty_pending (side : Continues lines older whole alone) :
    whole.pending.isEmpty = alone.pending.isEmpty := by
  rw [side.pending, List.isEmpty_map]

theorem add (side : Continues lines older whole alone) (form : Form) :
    Continues lines older (whole.add (form.moved lines)) (alone.add form) := by
  obtain ⟨_, _, _⟩ := whole
  obtain ⟨pending, forms, _⟩ := alone
  obtain ⟨rfl, rfl⟩ := side
  cases pending with
  | nil => exact ⟨rfl, rfl⟩
  | cons list outer => exact ⟨rfl, rfl⟩

theorem collapse_moved (inner : Form) (outer : List OpenList) :
    collapse (inner.moved lines) (outer.map (OpenList.moved lines)) =
      (collapse inner outer).moved lines := by
  induction outer generalizing inner with
  | nil => rfl
  | cons list outer ih =>
    rw [List.map_cons, collapse, collapse, ← ih, ← OpenList.form_moved]
    rfl

theorem closeAll (side : Continues lines older whole alone) :
    Continues lines older whole.closeAll alone.closeAll := by
  obtain ⟨_, _, _⟩ := whole
  obtain ⟨pending, forms, _⟩ := alone
  obtain ⟨rfl, rfl⟩ := side
  cases pending with
  | nil => exact ⟨rfl, rfl⟩
  | cons list outer =>
    refine ⟨rfl, congrArg (· :: _) ?_⟩
    rw [OpenList.form_moved]
    exact collapse_moved list.form outer

theorem openList (side : Continues lines older whole alone) (line : Nat) (next : Option Located) :
    Continues lines older (whole.openList (line + lines) (next.map (Located.moved lines)))
      (alone.openList line next) := by
  rw [openList_eq, openList_eq, closes_moved, side.isEmpty_pending]
  split
  · exact (side.report _ _ _ _).closeAll.opened line
  · exact side.opened line

theorem closeList (side : Continues lines older whole alone) (line : Nat) :
    Continues lines older (whole.closeList (line + lines)) (alone.closeList line) := by
  obtain ⟨_, _, found⟩ := whole
  obtain ⟨pending, forms, others⟩ := alone
  obtain ⟨rfl, rfl⟩ := side
  cases pending with
  | nil => exact ⟨rfl, rfl⟩
  | cons list outer =>
    have closed : Continues lines older
        ⟨outer.map (OpenList.moved lines), forms.map (Form.moved lines) ++ older, found⟩
        ⟨outer, forms, others⟩ := ⟨rfl, rfl⟩
    have added := closed.add list.form
    rw [← OpenList.form_moved] at added
    exact added

theorem addAtom (side : Continues lines older whole alone) (text : String) (quoted : Bool)
    (line : Nat) :
    Continues lines older (whole.addAtom text quoted (line + lines))
      (alone.addAtom text quoted line) := by
  unfold Reading.addAtom
  rw [side.isEmpty_pending]
  split
  · exact side.report _ _ _ _
  · exact side.add (.atom text quoted line)

/-- One more token. -/
theorem step (side : Continues lines older whole alone) (located : Located)
    (next : Option Located) :
    Continues lines older (whole.step (located.moved lines) (next.map (Located.moved lines)))
      (alone.step located next) := by
  obtain ⟨token, line⟩ := located
  cases token with
  | opening => exact side.openList line next
  | closing => exact side.closeList line
  | word name => exact side.addAtom name false line
  | text content closed => exact side.addAtom content true line

/-- All tokens. -/
theorem read (side : Continues lines older whole alone) (tokens : List Located) :
    Continues lines older (whole.read (tokens.map (Located.moved lines))) (alone.read tokens) := by
  induction tokens generalizing whole alone with
  | nil => exact side
  | cons located rest ih =>
    have stepped := side.step located rest.head?
    rw [← List.head?_map] at stepped
    exact ih stepped

end Continues

/-! ### The end of a part -/

/-- The end of a document closes what is open. -/
theorem forms_finish (reading : Reading) : reading.finish.forms = reading.closeAll.forms := by
  obtain ⟨pending, forms, _⟩ := reading
  unfold finish
  cases last : pending.getLast? with
  | none =>
    rw [List.getLast?_eq_none_iff] at last
    subst last
    rfl
  | some outermost => cases pending <;> rfl

theorem Continues.forms_finish (side : Continues lines older whole alone) :
    whole.finish.forms = alone.finish.forms.map (Form.moved lines) ++ older := by
  rw [Reading.forms_finish, Reading.forms_finish]
  exact side.closeAll.forms

/-- A parenthesis before a word of the top level closes what is open just as the end of the document
does. -/
theorem continues_openList (reading : Reading) (lines line : Nat) (next : Option Located)
    (top : closes next = true) :
    Continues lines reading.finish.forms
      (reading.openList (line + lines) (next.map (Located.moved lines)))
      (openList {} line next) := by
  rw [forms_finish, openList_eq, openList_eq, closes_moved, top]
  obtain ⟨pending, forms, _⟩ := reading
  cases pending with
  | nil => exact ⟨rfl, rfl⟩
  | cons list outer => exact ⟨rfl, rfl⟩

theorem step_congr (reading : Reading) (located : Located) {next other : Option Located}
    (same : closes next = closes other) :
    reading.step located next = reading.step located other := by
  unfold step
  rw [openList_eq, openList_eq, same]

/-- A part before a token that is no word of the top level is read as if the document ended with
it. -/
theorem read_append (front back : List Located) {first : Located}
    (inner : closes (some first) = false) (reading : Reading) :
    reading.read (front ++ first :: back) = (reading.read front).read (first :: back) := by
  induction front generalizing reading with
  | nil => rfl
  | cons located front ih =>
    have same : reading.step located (front ++ first :: back).head? =
        reading.step located front.head? := by
      cases front with
      | nil => exact reading.step_congr located inner
      | cons next rest => rfl
    calc
      reading.read (located :: front ++ first :: back)
        = (reading.step located (front ++ first :: back).head?).read (front ++ first :: back) := rfl
      _ = (reading.step located front.head?).read (front ++ first :: back) := by rw [same]
      _ = ((reading.step located front.head?).read front).read (first :: back) := ih _

end Reading

/-! ### The forms of both parts -/

namespace Forms

/-- **A part that begins with a rule or a version is read as if it stood alone**, whatever was left
open before it. -/
theorem ofTokens_append (front rest : List Located) (lines line : Nat) {second : Located}
    (top : Reading.isTopLevelWord second.token = true) :
    (ofTokens (front ++ (⟨.opening, line⟩ :: second :: rest).map (Located.moved lines))).forms =
      (ofTokens front).forms ++
        (ofTokens (⟨.opening, line⟩ :: second :: rest)).forms.map (Form.moved lines) := by
  have begun := Reading.continues_openList (Reading.read {} front) lines line (some second) top
  have finished := (begun.read (second :: rest)).forms_finish
  have split : Reading.read {} (front ++ (⟨.opening, line⟩ :: second :: rest).map
      (Located.moved lines)) = (Reading.read {} front).read
        ((⟨.opening, line⟩ :: second :: rest).map (Located.moved lines)) :=
    Reading.read_append front _ rfl {}
  simp only [ofTokens]
  rw [split, List.map_reverse, ← List.reverse_append]
  exact congrArg List.reverse finished

/-- **The forms of two parts with a blank line between them.** -/
theorem ofText_append (body : String) :
    ∃ lines, ∀ (rest : String) (first second : Nat) (tokens : List Located),
      Token.ofCharacters rest.toList = ⟨.opening, first⟩ :: ⟨.word "rule", second⟩ :: tokens →
      (ofText (body ++ "\n\n" ++ rest)).forms =
        (ofText (body ++ "\n\n")).forms ++ (ofText rest).forms.map (Form.moved lines) := by
  obtain ⟨lines, parts⟩ := Scanner.tokens_append_blankLine body.toList
  refine ⟨lines, fun rest first second tokens begins => ?_⟩
  have blank : (body ++ "\n\n").toList = body.toList ++ Scanner.blankLine := String.toList_append
  rw [ofText, ofText, ofText, String.toList_append, blank, parts, begins]
  exact ofTokens_append _ tokens lines first rfl

end Forms

end DesignRules.RuleText

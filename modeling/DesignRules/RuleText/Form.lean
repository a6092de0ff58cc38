/-
**The forms of a rule document.**

A form is an atom or a list of forms. Reading never fails: damaged documents give the forms that can
be recovered and a warning for each flaw. Rules and versions stand at the top level only, so where
one starts inside another form, everything open is closed before it.

* `Form`: an atom or a list, with the line at which it starts.
* `Forms`: the forms of a document with the flaws that were found.
* `Forms.ofText`: the forms of a document.
-/

import DesignRules.Diagnostic
import DesignRules.RuleText.Token

namespace DesignRules.RuleText

/-- An atom or a list of forms. -/
inductive Form where
  | atom (text : String) (quoted : Bool) (line : Nat)
  | list (items : List Form) (line : Nat)
  deriving Repr

namespace Form

instance : Inhabited Form := ⟨.list [] 0⟩

/-- The line at which a form starts. -/
def line : Form → Nat
  | .atom _ _ line => line
  | .list _ line => line

/-- The text of an atom. -/
def atom? : Form → Option String
  | .atom text _ _ => some text
  | .list _ _ => none

/-- The bare word that starts a list. -/
def head? : Form → Option String
  | .list (.atom text false _ :: _) _ => some text
  | _ => none

/-- The forms of a list after its first. -/
def arguments : Form → List Form
  | .list items _ => items.drop 1
  | .atom _ _ _ => []

/-- The text of the first argument, if that is an atom. -/
def argument? (form : Form) : Option String := form.arguments.head?.bind atom?

end Form

/-- What is wrong with the structure of a document. -/
inductive Flaw where
  | unterminatedText
  | missingParenthesis (line : Nat)
  | strayParenthesis
  | strayAtom (text : String)
  | unclosedForm
  deriving DecidableEq, Repr

/-- The text of a flaw. -/
def Flaw.message : Flaw → String
  | .unterminatedText => "unterminated string; closing it at end of line"
  | .missingParenthesis line =>
    "missing ')' before line " ++ toString line ++ "; closing the open form"
  | .strayParenthesis => "unexpected ')'"
  | .strayAtom text => "unexpected '" ++ text ++ "' outside of a form"
  | .unclosedForm => "form is not closed before end of document"

/-- The warning about a flaw. -/
def Flaw.diagnostic (line : Nat) (flaw : Flaw) : Diagnostic := .warning line flaw.message

/-- A list that is not closed yet: its items in reverse, and the line of its parenthesis. -/
structure OpenList where
  reversed : List Form
  line : Nat

/-- The list itself. -/
def OpenList.form (list : OpenList) : Form := .list list.reversed.reverse list.line

/-- What has been read: the open lists from the innermost, and the forms and diagnostics so far in
reverse. -/
structure Reading where
  pending : List OpenList := []
  forms : List Form := []
  diagnostics : List Diagnostic := []

namespace Reading

/-- A complete form goes into the innermost open list, or to the top level. -/
def add (reading : Reading) (form : Form) : Reading :=
  match reading.pending with
  | [] => { reading with forms := form :: reading.forms }
  | list :: outer => { reading with pending := { list with reversed := form :: list.reversed } :: outer }

/-- The form of the innermost of some open lists, all of which are closed at once. -/
def collapse (inner : Form) : List OpenList → Form
  | [] => inner
  | list :: outer => collapse (OpenList.form { list with reversed := inner :: list.reversed }) outer

/-- Closes all open lists. -/
def closeAll (reading : Reading) : Reading :=
  match reading.pending with
  | [] => reading
  | list :: outer =>
    { reading with pending := [], forms := collapse list.form outer :: reading.forms }

/-- Reports a flaw. -/
def report (reading : Reading) (line : Nat) (flaw : Flaw) : Reading :=
  { reading with diagnostics := flaw.diagnostic line :: reading.diagnostics }

/-- Whether a token is a word that starts forms of the top level only. -/
def isTopLevelWord : Token → Bool
  | .word name => name == "rule" || name == "version"
  | _ => false

/-- An opening parenthesis; `next` is the token after it. -/
def openList (reading : Reading) (line : Nat) (next : Option Located) : Reading :=
  let atTopLevel := next.any fun located => isTopLevelWord located.token
  let reading :=
    if atTopLevel && !reading.pending.isEmpty then
      (reading.report line (.missingParenthesis line)).closeAll
    else reading
  { reading with pending := ⟨[], line⟩ :: reading.pending }

/-- A closing parenthesis. -/
def closeList (reading : Reading) (line : Nat) : Reading :=
  match reading.pending with
  | [] => reading.report line .strayParenthesis
  | list :: outer => { reading with pending := outer }.add list.form

/-- An atom, which has no place at the top level. -/
def addAtom (reading : Reading) (text : String) (quoted : Bool) (line : Nat) : Reading :=
  if reading.pending.isEmpty then reading.report line (.strayAtom text)
  else reading.add (.atom text quoted line)

/-- One more token; `next` is the one after it. -/
def step (reading : Reading) (located : Located) (next : Option Located) : Reading :=
  match located.token with
  | .opening => reading.openList located.line next
  | .closing => reading.closeList located.line
  | .word name => reading.addAtom name false located.line
  | .text content _ => reading.addAtom content true located.line

/-- The tokens of a document one after the other. -/
def read (reading : Reading) : List Located → Reading
  | [] => reading
  | located :: rest => (reading.step located rest.head?).read rest

/-- The end of the document, at which all open lists are closed. -/
def finish (reading : Reading) : Reading :=
  match reading.pending.getLast? with
  | none => reading
  | some outermost => (reading.report outermost.line .unclosedForm).closeAll

end Reading

/-- The forms of a document, with the diagnostics about its structure. -/
structure Forms where
  forms : List Form
  diagnostics : List Diagnostic

namespace Forms

/-- The warnings about texts that were not closed. -/
def unterminated (tokens : List Located) : List Diagnostic :=
  tokens.filterMap fun located =>
    match located.token with
    | .text _ false => some (Flaw.unterminatedText.diagnostic located.line)
    | _ => none

/-- The forms that some tokens make up. -/
def ofTokens (tokens : List Located) : Forms :=
  let reading := (Reading.read {} tokens).finish
  ⟨reading.forms.reverse, unterminated tokens ++ reading.diagnostics.reverse⟩

/-- The forms of a document. -/
def ofText (text : String) : Forms := ofTokens (Token.ofCharacters text.toList)

end Forms

end DesignRules.RuleText

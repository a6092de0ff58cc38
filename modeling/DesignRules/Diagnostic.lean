/-
**Diagnostics.**

Messages about rules and checks that do not stop a run.

* `Diagnostic`: a message with its level and, where it has one, a line and a rule.
* `Diagnostic.text`: how a diagnostic is shown.
-/

namespace DesignRules

/-- How serious a diagnostic is. -/
inductive Diagnostic.Level where
  | error
  | warning
  | info
  deriving DecidableEq, Repr

/-- The name of a level. -/
def Diagnostic.Level.name : Diagnostic.Level → String
  | .error => "error"
  | .warning => "warning"
  | .info => "info"

/-- A message for the user; lines of a rule document count from one. -/
structure Diagnostic where
  level : Diagnostic.Level
  line : Option Nat
  rule : Option String
  message : String
  deriving DecidableEq, Repr

namespace Diagnostic

/-- A warning about a line. -/
def warning (line : Nat) (message : String) : Diagnostic := ⟨.warning, some line, none, message⟩

/-- A piece of information without a place. -/
def info (message : String) : Diagnostic := ⟨.info, none, none, message⟩

/-- A diagnostic about a rule. -/
def inRule (diagnostic : Diagnostic) (rule : String) : Diagnostic :=
  { diagnostic with rule := some rule }

/-- How a diagnostic is shown. -/
def text (diagnostic : Diagnostic) : String :=
  let line := match diagnostic.line with
    | some line => " (line " ++ toString line ++ ")"
    | none => ""
  let rule := match diagnostic.rule with
    | some rule => " [rule '" ++ rule ++ "']"
    | none => ""
  diagnostic.level.name ++ line ++ rule ++ ": " ++ diagnostic.message

end Diagnostic

end DesignRules

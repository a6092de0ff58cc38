/-
**Severities of rules and violations.**

* `Severity.ofWord?`: the severity that a word names.
* `Severity.name`: the word for a severity.
-/

namespace DesignRules

/-- How serious the violations of a rule are; ignored ones are not recorded. -/
inductive Severity where
  | error
  | warning
  | info
  | ignore
  deriving DecidableEq, Repr

namespace Severity

/-- All severities with their words. -/
def words : List (String × Severity) :=
  [("error", .error), ("warning", .warning), ("info", .info), ("ignore", .ignore)]

/-- The severity that a word names. -/
def ofWord? (word : String) : Option Severity := words.lookup word

/-- The word for a severity. -/
def name : Severity → String
  | .error => "error"
  | .warning => "warning"
  | .info => "info"
  | .ignore => "ignore"

/-- The message about a word that names no severity. -/
def unknownMessage (word : String) : String := "unknown severity '" ++ word ++ "'"

theorem ofWord?_name (severity : Severity) : ofWord? severity.name = some severity := by
  cases severity <;> decide

end Severity

end DesignRules

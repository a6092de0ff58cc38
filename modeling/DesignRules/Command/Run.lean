/-
**The program as a function.**

A run of the program depends on its arguments and on the files that they name.

* `CheckCommand.load`: settings, rules and design, read in this order.
* `CheckCommand.execute`: the run of the standard checks.
* `Ending.ofArguments`: how the program ends.
-/

import DesignRules.Check.Standard
import DesignRules.Command.Arguments
import DesignRules.Decimal.Scalar
import DesignRules.Report.Codec
import DesignRules.Report.Summary
import DesignRules.Session

namespace DesignRules

/-- Why a command cannot be executed. -/
inductive CommandError where
  | usage (error : UsageError)
  | unreadableFile
  | badSettings
  | badDesign (error : DesignError)
  deriving DecidableEq

/-- The text of an error. -/
def CommandError.message : CommandError → String
  | .usage error => error.message
  | .unreadableFile => "I/O error"
  | .badSettings => "Invalid JSON"
  | .badDesign error => "Invalid design: " ++ error.message

/-- The texts of files by their names. -/
abbrev Files := String → Option String

/-- The text of a file. -/
def Files.read (files : Files) (name : String) : Except CommandError String :=
  match files name with
  | some text => .ok text
  | none => .error .unreadableFile

/-- How the program ends. -/
inductive Ending where
  /-- It answers a question about itself. -/
  | told (text : String)
  /-- The checks are run; violations are logged unless it has to be quiet. -/
  | finished (status : Nat) (output : String) (log : List String)
  | refused (error : CommandError)
  deriving DecidableEq

namespace CheckCommand

/-- The settings that are chosen. -/
def loadSettings (command : CheckCommand) (files : Files) : Except CommandError Settings :=
  match command.settings with
  | none => .ok {}
  | some name => do
    match Settings.ofText? (← files.read name) with
    | some settings => return settings
    | none => throw .badSettings

/-- A session with the settings and rules, and the design. -/
def load (command : CheckCommand) (files : Files) :
    Except CommandError (Session Float × Design Float) := do
  let settings ← command.loadSettings files
  let rules ← files.read command.rules
  match Design.ofText (← files.read command.design) with
  | .error error => throw (.badDesign error)
  | .ok design => return (Session.load { settings } rules, design)

/-- What is printed for a report. -/
def output (command : CheckCommand) (report : Report Float) : String :=
  match command.format with
  | .text => String.join (report.lines.map (· ++ "\n"))
  | .json => report.text ++ "\n"

/-- The exit status for a report. -/
def status (report : Report Float) : Nat := if report.hasErrors then 1 else 0

/-- The lines that are logged about violations. -/
def log (command : CheckCommand) (events : List (Event Float)) : List String :=
  if command.quiet then []
  else events.filterMap fun event =>
    match event with
    | .violation _ => some event.logLine
    | _ => none

/-- Runs the standard checks. -/
def execute (command : CheckCommand) (files : Files) : Ending :=
  match command.load files with
  | .error error => .refused error
  | .ok (session, design) =>
    let outcome := ((session.registerAll Check.standard).run design).2
    .finished (status outcome.report) (command.output outcome.report) (command.log outcome.events)

end CheckCommand

namespace Ending

/-- The lines about how to use the program. -/
def help : List String :=
  ["Check a design against a rule document",
    "",
    "Usage: osdrc [OPTIONS] --rules <RULES> --design <DESIGN>",
    "",
    "Options:",
    "      --rules <RULES>        Rule document",
    "      --design <DESIGN>      Design JSON",
    "      --settings <SETTINGS>  Settings JSON; defaults apply to anything it omits",
    "      --output <OUTPUT>      Output format (text or json) [default: text] " ++
      "[possible values: text, json]",
    "      --quiet                Suppress per-violation logging while checking",
    "  -h, --help                 Print help",
    "  -V, --version              Print version"]

/-- The line about the version of the program. -/
def version : String := "osdrc 0.1.0"

/-- How the program ends for some arguments and files. -/
def ofArguments (arguments : List String) (files : Files) : Ending :=
  match Invocation.read {} arguments with
  | .error error => .refused (.usage error)
  | .ok .help => .told (String.join (help.map (· ++ "\n")))
  | .ok .version => .told (version ++ "\n")
  | .ok (.check command) => command.execute files

/-- The exit status. -/
def status : Ending → Nat
  | .told _ => 0
  | .finished status _ _ => status
  | .refused _ => 2

/-- What is printed. -/
def output : Ending → String
  | .told text => text
  | .finished _ output _ => output
  | .refused _ => ""

/-- What is logged. -/
def log : Ending → List String
  | .told _ => []
  | .finished _ _ log => log
  | .refused error => ["error: " ++ error.message]

end Ending

end DesignRules

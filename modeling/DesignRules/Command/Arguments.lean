/-
**Arguments of the command line.**

Arguments are read from left to right; the first one that is wrong, or that asks for help or for the
version, decides.

* `Argument.ofText`: what an argument looks like.
* `Invocation.read`: the command that some arguments give.
* `Command`: help, the version, or a check of a design.
-/

namespace DesignRules

/-! ### Single arguments -/

/-- What an argument looks like. -/
inductive Argument where
  /-- Two hyphens, after which nothing is an option. -/
  | separator
  | long (name : String) (value : Option String)
  /-- A hyphen with letters, the first of which decides. -/
  | short (letter : Char)
  | plain
  deriving DecidableEq, Repr

/-- What an argument looks like. -/
def Argument.ofText (text : String) : Argument :=
  match text.toList with
  | ['-', '-'] => .separator
  | '-' :: '-' :: rest =>
    match rest.dropWhile (· ≠ '=') with
    | [] => .long (String.ofList rest) none
    | _ :: value =>
      .long (String.ofList (rest.takeWhile (· ≠ '='))) (some (String.ofList value))
  | '-' :: letter :: _ => .short letter
  | _ => .plain

/-- How a report is shown. -/
inductive Format where
  | text
  | json
  deriving DecidableEq, Repr

/-- The format with a name. -/
def Format.ofName? : String → Option Format
  | "text" => some .text
  | "json" => some .json
  | _ => none

/-- The options that take a value. -/
inductive Parameter where
  | rules
  | design
  | settings
  | output
  deriving DecidableEq, Repr

/-- The name of an option. -/
def Parameter.name : Parameter → String
  | .rules => "rules"
  | .design => "design"
  | .settings => "settings"
  | .output => "output"

/-- The option with a name. -/
def Parameter.ofName? (name : String) : Option Parameter :=
  [rules, design, settings, output].find? fun parameter => parameter.name == name

/-! ### Commands -/

/-- Why arguments are refused. -/
inductive UsageError where
  | unexpected (argument : String)
  | repeated (name : String)
  | valueMissing (parameter : Parameter)
  | unknownFormat (name : String)
  | required (parameter : Parameter)
  deriving DecidableEq, Repr

/-- The text of an error. -/
def UsageError.message : UsageError → String
  | .unexpected argument => "unexpected argument '" ++ argument ++ "' found"
  | .repeated name => "the argument '--" ++ name ++ "' cannot be used multiple times"
  | .valueMissing parameter =>
    "a value is required for '--" ++ parameter.name ++ "' but none was supplied"
  | .unknownFormat name => "invalid value '" ++ name ++ "' for '--output'"
  | .required parameter => "the argument '--" ++ parameter.name ++ "' was not provided"

/-- Which files a check reads and how its report is shown. -/
structure CheckCommand where
  rules : String
  design : String
  settings : Option String
  format : Format
  quiet : Bool
  deriving DecidableEq, Repr

/-- What arguments ask for. -/
inductive Command where
  | help
  | version
  | check (command : CheckCommand)
  deriving DecidableEq, Repr

/-- What is chosen so far. -/
structure Invocation where
  rules : Option String := none
  design : Option String := none
  settings : Option String := none
  format : Option Format := none
  quiet : Bool := false
  deriving DecidableEq, Repr

namespace Invocation

/-- The command of what is chosen; rules and a design are needed. -/
def command (chosen : Invocation) : Except UsageError Command :=
  match chosen.rules, chosen.design with
  | none, _ => .error (.required .rules)
  | _, none => .error (.required .design)
  | some rules, some design =>
    .ok (.check ⟨rules, design, chosen.settings, chosen.format.getD .text, chosen.quiet⟩)

/-- Whether an option has a value. -/
def has (chosen : Invocation) : Parameter → Bool
  | .rules => chosen.rules.isSome
  | .design => chosen.design.isSome
  | .settings => chosen.settings.isSome
  | .output => chosen.format.isSome

/-- Gives an option a value, once and not an empty one. -/
def assign (chosen : Invocation) (parameter : Parameter) (value : String) :
    Except UsageError Invocation :=
  if chosen.has parameter then .error (.repeated parameter.name)
  else if value.isEmpty then .error (.valueMissing parameter)
  else
    match parameter with
    | .rules => .ok { chosen with rules := some value }
    | .design => .ok { chosen with design := some value }
    | .settings => .ok { chosen with settings := some value }
    | .output =>
      match Format.ofName? value with
      | some format => .ok { chosen with format := some format }
      | none => .error (.unknownFormat value)

/-- Chooses to be quiet, once. -/
def hush (chosen : Invocation) : Except UsageError Invocation :=
  if chosen.quiet then .error (.repeated "quiet") else .ok { chosen with quiet := true }

/-- The command that arguments give after some choices. -/
def read : Invocation → List String → Except UsageError Command
  | chosen, [] => chosen.command
  | chosen, text :: rest =>
    match Argument.ofText text with
    | .plain => .error (.unexpected text)
    | .separator =>
      match rest with
      | [] => chosen.command
      | extra :: _ => .error (.unexpected extra)
    | .short 'h' => .ok .help
    | .short 'V' => .ok .version
    | .short _ => .error (.unexpected text)
    | .long "help" none => .ok .help
    | .long "version" none => .ok .version
    | .long "quiet" none => do read (← chosen.hush) rest
    | .long name value =>
      match Parameter.ofName? name, value, rest with
      | none, _, _ => .error (.unexpected text)
      | some parameter, some value, rest => do read (← chosen.assign parameter value) rest
      | some parameter, none, [] => .error (.valueMissing parameter)
      | some parameter, none, next :: rest =>
        if Argument.ofText next = .plain then do read (← chosen.assign parameter next) rest
        else .error (.valueMissing parameter)

end Invocation

end DesignRules

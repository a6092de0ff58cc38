/-
**The program.**

Reads the named files, runs the checks, prints the report and ends with an exit status.
-/

import DesignRules.Command.Run

namespace DesignRules

/-- The text of a file, if it can be read as text. -/
def readFile (name : String) : IO (Option String) := do
  try
    return some (← IO.FS.readFile name)
  catch _ => return none

/-- The files that arguments name, read at once. -/
def readFiles (arguments : List String) : IO Files := do
  match Invocation.read {} arguments with
  | .ok (.check command) =>
    let names := [command.rules, command.design] ++ command.settings.toList
    let texts ← names.mapM fun name => return (name, ← readFile name)
    return fun name => (texts.lookup name).join
  | _ => return fun _ => none

/-- Runs the program. -/
def runProgram (arguments : List String) : IO UInt32 := do
  let ending := Ending.ofArguments arguments (← readFiles arguments)
  for line in ending.log do
    IO.eprintln line
  IO.print ending.output
  return UInt32.ofNat ending.status

end DesignRules

/-- The entry of the program. -/
def main (arguments : List String) : IO UInt32 := DesignRules.runProgram arguments

import Eligibility.Command.Invocation

/-!
# The program

Reads the arguments, the variables and, where a task needs it, the standard input, and leaves all
else to `Invocation.run`.
-/

namespace Eligibility.Command

/-- The value of a variable of the environment, and its name. -/
def environmentEntry (name : String) : IO (String × Option String) := do
  return (name, ← IO.getEnv name)

/-- The standard input, unless it is a terminal. -/
def pipedInput : IO (Option String) := do
  let stdin ← IO.getStdin
  if ← stdin.isTty then return none
  else return some (← stdin.readToEnd)

/-- Writes what a run leaves behind and gives its exit code. -/
def report (outcome : Outcome) : IO UInt32 := do
  (← IO.getStdout).putStr outcome.output
  (← IO.getStderr).putStr outcome.complaint
  return outcome.code.toUInt32

end Eligibility.Command

open Eligibility Eligibility.Command in
/-- Runs the command line. -/
def main (arguments : List String) : IO UInt32 := do
  match invocationOf arguments with
  | .error stop => report (.ofStop stop)
  | .ok invocation =>
    let entries ← [Settings.parseModeVariable, Settings.connectiveVariable,
      Settings.logLevelVariable].mapM environmentEntry
    let settings := Settings.ofVariables fun name => (entries.lookup name).join
    let input ← if invocation.task.readsInput then pipedInput else pure none
    report (invocation.run settings input)

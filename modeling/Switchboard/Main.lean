import Switchboard.Command.Outcome

/-!
The command line of the program. It has no network of its own: every connection ends as one to a
network that cannot be reached.
-/

open Switchboard

def environment : IO Command.Environment := do
  let values ← Command.variableNames.mapM fun name => do return (name, ← IO.getEnv name)
  return fun name => (values.lookup name).getD none

def main (args : List String) : IO UInt32 := do
  let exit := Command.exit (← environment) .unreachable .absent args
  IO.print exit.output
  if let some error := exit.error then IO.eprintln error
  return exit.code.toUInt32

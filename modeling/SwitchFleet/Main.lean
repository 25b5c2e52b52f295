import SwitchFleet.Client.Call
import SwitchFleet.CommandLine.Execute

/-!
# The program

Queries and controls the agent of a switch from the command line. The program has no network of its
own, so that every agent is out of its reach.
-/

open SwitchFleet

namespace SwitchFleet.CommandLine

/-- The variables of the environment that options look at. -/
def readEnvironment : IO (Keyed String) := do
  let names := allKeys.filterMap Key.environmentName?
  let values ← names.mapM fun name => do return (name, ← IO.getEnv name)
  return Keyed.ofList (values.filterMap fun v => v.2.map fun value => (v.1, value))

end SwitchFleet.CommandLine

/-- Runs the program on its command line. -/
def main (words : List String) : IO UInt32 := do
  let environment ← CommandLine.readEnvironment
  let (ending, ()) := CommandLine.execute (Client.perform Client.noExchange) environment words ()
  IO.print ending.output
  IO.eprint (ending.report?.getD "")
  return ending.exitCode.toUInt32

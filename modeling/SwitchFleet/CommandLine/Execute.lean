import SwitchFleet.CommandLine.Terminal
import SwitchFleet.CommandLine.Usage

/-!
# Whole runs

A run of the program from its command line to its end. The agents are whatever answers a call to an
address.

* `CommandLine.Ending`: how a run ends.
* `CommandLine.execute`: a run of the program.
-/

namespace SwitchFleet.CommandLine

/-- How a run ends. -/
inductive Ending where
  | rejected (e : UsageError)
  | ran (output : String) (outcome : Except CommandError Unit)

namespace Ending

/-- The exit code of a run. -/
def exitCode : Ending → Nat
  | rejected e => e.exitCode
  | ran _ (.ok ()) => 0
  | ran _ (.error .tooWide) => 101
  | ran _ (.error _) => 1

/-- The output of a run. -/
def output : Ending → String
  | rejected e => e.output
  | ran output _ => output

/-- The text about the error that a run ends with. -/
def report? : Ending → Option String
  | rejected e => e.report?
  | ran _ (.error e) => some (e.report ++ "\n")
  | ran _ (.ok ()) => none

end Ending

/-- The agents that commands call: an operation for the agent at an address. -/
abbrev Agents (σ : Type) : Type :=
  String → (op : Operation) → σ → Except ClientError op.Report × σ

/-- A run of the program on a command line in an environment. -/
def execute {σ : Type} (agents : Agents σ) (environment : Keyed String) (words : List String)
    (world : σ) : Ending × σ :=
  match parse allKeys true environment words with
  | .error e => (.rejected e, world)
  | .ok a =>
    let (outcome, t) :=
      (Terminal.start none world).perform (agents a.agentAddress) a.output a.command
    (.ran t.text outcome, t.agent)

end SwitchFleet.CommandLine

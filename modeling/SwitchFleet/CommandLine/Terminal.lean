import SwitchFleet.Client.Channel
import SwitchFleet.CommandLine.Commands

/-!
# Terminals

An output in memory that may accept only so many lines, next to the way to an agent.

* `CommandLine.Terminal`: the output and the agent.
* `CommandLine.Terminal.perform`: a command on a terminal.
-/

namespace SwitchFleet.CommandLine

/-- An output in memory and an agent. The agent is whatever answers a call. -/
structure Terminal (σ : Type) where
  /-- The lines so far, last one first. -/
  lines : List String
  /-- The number of further lines that are accepted, if there is a limit. -/
  room : Option Nat
  agent : σ

namespace Terminal

variable {σ : Type}

/-- Nothing on the output, which accepts a number of lines. -/
def start (room : Option Nat) (agent : σ) : Terminal σ := ⟨[], room, agent⟩

/-- Writes a line if it is accepted. -/
def write (line : String) (t : Terminal σ) : Bool × Terminal σ :=
  if t.room = some 0 then (false, t)
  else (true, { t with lines := line :: t.lines, room := t.room.map (· - 1) })

/-- The answer to a question of a command. -/
def answer (call : (op : Operation) → σ → Except ClientError op.Report × σ) :
    (q : Query) → Terminal σ → q.Answer × Terminal σ
  | .write line, t => t.write line
  | .call op, t =>
    let (outcome, agent) := call op t.agent
    (outcome, { t with agent })

def text (t : Terminal σ) : String :=
  String.join (t.lines.reverse.map fun line => line ++ "\n")

/-- A command on a terminal: its outcome, and the terminal after it. -/
def perform (call : (op : Operation) → σ → Except ClientError op.Report × σ) (format : Format)
    (c : Command) (t : Terminal σ) : Except CommandError Unit × Terminal σ :=
  (CommandLine.perform format c).run.run (answer call) t

end Terminal

end SwitchFleet.CommandLine

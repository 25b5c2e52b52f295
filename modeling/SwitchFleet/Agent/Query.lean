import SwitchFleet.Program
import SwitchFleet.Status
import SwitchFleet.Store.Command
import SwitchFleet.Agent.Link

/-!
# Questions of an agent

An agent asks its device store, the kernel, and the file system of the device. Each operation of the
agent is a program over these questions, so that nothing is assumed about who answers them and what
else goes on between them.

* `Agent.Query`: the questions.
* `Agent.Task`: a program over these questions that may fail with a status.
-/

namespace SwitchFleet.Agent

/-- A question of an agent. -/
inductive Query where
  /-- A live connection to a database. -/
  | database (name : String)
  | command (c : Connection) (q : Command)
  /-- The hardware address of a network link. -/
  | link (name : String)
  /-- The text of the version manifest, if it can be read. -/
  | manifest
  /-- Time for the device to follow a change. -/
  | settle

abbrev Query.Answer : Query → Type
  | database _ => Except StoreError Connection
  | command _ q => Except StoreError q.Answer
  | link _ => LinkReply
  | manifest => Option String
  | settle => Unit

/-- A program over the questions of an agent. -/
abbrev Run (α : Type) : Type := Program Query Query.Answer α

/-- A program that may fail with a status. -/
abbrev Task (α : Type) : Type := ExceptT Status Run α

def ask (q : Query) : Task q.Answer := ExceptT.lift (Program.query q)

/-- The status of a step that failed in the store. -/
def failure (code : UInt32) (step : String) (e : StoreError) : Status :=
  ⟨code, step ++ ": " ++ e.message⟩

/-- A live connection to a database. -/
def database (name : String) : Task Connection := do
  match ← ask (.database name) with
  | .ok c => return c
  | .error e => throw (failure Status.Code.badRequest ("failed to connect to " ++ name) e)

/-- The answer to a command. If the command fails, so does the task, with a given code. -/
def command (c : Connection) (q : Command) (code : UInt32) (step : String) : Task q.Answer := do
  match ← ask (.command c q) with
  | .ok r => return r
  | .error e => throw (failure code step e)

end SwitchFleet.Agent

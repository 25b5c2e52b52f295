import SwitchFleet.Controller.Verb

/-!
# Questions of the operator

Reconciling a resource is a program over these questions, so that nothing is assumed about the
cluster and the agents that answer them.

* `Controller.Query`: the questions.
* `Controller.Task`: a program over these questions that may fail.
* `Controller.Action`: what is to happen to a resource after it was reconciled.
-/

namespace SwitchFleet.Controller

/-- A question of the operator. -/
inductive Query where
  | switches (v : Verb SwitchSpec SwitchStatus)
  | interfaces (v : Verb SwitchInterfaceSpec SwitchInterfaceStatus)
  | client (s : Switch)
  | call (address : String) (op : Operation)
  | now

abbrev Query.Answer : Query → Type
  | switches v => v.Outcome
  | interfaces v => v.Outcome
  | client _ => Except ControllerError String
  | call _ op => Except ClientError op.Report
  | now => String

/-- A program over the questions of the operator. -/
abbrev Run (α : Type) : Type := Program Query Query.Answer α

/-- A program that may fail. -/
abbrev Task (α : Type) : Type := ExceptT ControllerError Run α

/-- What is to happen to a resource after it was reconciled. -/
inductive Action where
  | awaitChange
  | requeue (seconds : Nat)
deriving DecidableEq

/-! ## Single questions -/

def ask (q : Query) : Run q.Answer := Program.query q

/-- A verb on switches. -/
def onSwitches (v : Verb SwitchSpec SwitchStatus) : Run v.Outcome := ask (.switches v)

/-- A verb on interfaces. -/
def onInterfaces (v : Verb SwitchInterfaceSpec SwitchInterfaceStatus) : Run v.Outcome :=
  ask (.interfaces v)

/-- The address of the agent of a switch, for which there is a client now. -/
def client (s : Switch) : Task String := ExceptT.mk (ask (.client s))

/-- The report of an agent on an operation. -/
def call (address : String) (op : Operation) : Run (Except ClientError op.Report) :=
  ask (.call address op)

/-- The time. -/
def now : Run String := ask .now

end SwitchFleet.Controller

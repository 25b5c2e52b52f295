import SwitchFleet.Client.Channel
import SwitchFleet.Controller.ObjectStore
import SwitchFleet.Controller.Query

/-!
# Clusters in memory

A cluster with one mock agent, which stands behind the address of every switch.

* `Controller.Testbed`: the resources, the agent, and what was done with them.
* `Controller.Testbed.answer`: the answer to a question of the operator.
-/

namespace SwitchFleet.Controller

/-- A cluster with one mock agent. -/
structure Testbed where
  switches : ObjectStore SwitchSpec SwitchStatus
  interfaces : ObjectStore SwitchInterfaceSpec SwitchInterfaceStatus
  channel : Channel
  refusesClients : Bool
  /-- The addresses that clients were made for so far, last one first. -/
  addresses : List String
  time : String

namespace Testbed

/-- A cluster without resources, at a time. -/
def start (time : String) : Testbed :=
  ⟨.empty, .empty, .ofAgent .empty, false, [], time⟩

/-- The cluster at another time, without what was recorded so far. -/
def forget (time : String) (t : Testbed) : Testbed :=
  { t with
    switches := t.switches.forget
    interfaces := t.interfaces.forget
    channel := { t.channel with agent := t.channel.agent.forget }
    addresses := []
    time }

/-- The address of a client for the agent of a switch, and the cluster after it was made. -/
def client (s : Switch) (t : Testbed) : Except ControllerError String × Testbed :=
  if t.refusesClients then (.error (.configuration "no client"), t)
  else (.ok s.agentAddress, { t with addresses := s.agentAddress :: t.addresses })

/-- The answer to a question of the operator. -/
def answer : (q : Query) → Testbed → q.Answer × Testbed
  | .switches v, t =>
    let (outcome, switches) := t.switches.answer Switch.schema v
    (outcome, { t with switches })
  | .interfaces v, t =>
    let (outcome, interfaces) := t.interfaces.answer SwitchInterface.schema v
    (outcome, { t with interfaces })
  | .client s, t => t.client s
  | .call _ op, t =>
    let (outcome, channel) := t.channel.perform op
    (outcome, { t with channel })
  | .now, t => (t.time, t)

end Testbed

end SwitchFleet.Controller

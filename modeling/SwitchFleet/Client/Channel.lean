import SwitchFleet.Client.Mock

/-!
# Channels

The way to a mock agent. A call can fail on the way, before the agent has seen it, and the reply to
a change can be altered on its way back.

* `Channel`: an agent with what happens on the way to it.
* `Channel.perform`: the outcome of an operation, and the channel after it.
-/

namespace SwitchFleet

/-- The way to a mock agent. -/
structure Channel where
  agent : Mock
  /-- The operations that fail on the way, with their errors. -/
  faults : List (Operation.Kind × ClientError)
  /-- The admin status and the operational status that replies to a change report. -/
  forged : Option (LineStatus × LineStatus)

namespace Channel

/-- The way to an agent on which nothing happens. -/
def ofAgent (agent : Mock) : Channel := ⟨agent, [], none⟩

/-- The channel with an operation that fails on the way. -/
def fail (k : Operation.Kind) (e : ClientError) (c : Channel) : Channel :=
  { c with faults := (k, e) :: c.faults.filter fun f => f.1 != k }

/-- The channel with replies to a change that report given statuses. -/
def forge (admin operational : LineStatus) (c : Channel) : Channel :=
  { c with forged := some (admin, operational) }

/-- The channel to the same agent on which nothing happens. -/
def clear (c : Channel) : Channel := ofAgent c.agent

/-- A report as it comes back over the channel. -/
def deliver (c : Channel) : (op : Operation) → op.Report → op.Report
  | .setAdminStatus .., i =>
    match c.forged with
    | some (admin, operational) => { i with admin, operational }
    | none => i
  | _, report => report

/-- The outcome of an operation, and the channel after it. -/
def perform (op : Operation) (c : Channel) : Except ClientError op.Report × Channel :=
  match c.faults.lookup op.kind with
  | some e => (.error e, c)
  | none =>
    let (outcome, agent) := c.agent.perform op
    (outcome.map (c.deliver op), { c with agent })

end Channel

end SwitchFleet

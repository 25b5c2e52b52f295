import SwitchFleet.Controller.Interfaces
import SwitchFleet.Controller.Switches
import SwitchFleet.Proofs.Client.Transparency
import SwitchFleet.Proofs.Controller.Interfaces

/-!
# A fleet at work

The whole program together: the operator, the cluster in memory, and the agent at work on a device,
which clients call over its protocol.

* `Fleet`: the resources, the device and the time, with `Fleet.answer` for the questions of the operator.
* `call_ok`: a call that succeeds is an operation of the device.
* `links_answer`, `interfaces_answer`, `switches_answer`, `content_answer`: what no question changes, and
  what only some questions do.
-/

namespace SwitchFleet.Controller

/-- The resources of a cluster, with the device that is behind the agent. -/
structure Fleet where
  switches : ObjectStore SwitchSpec SwitchStatus
  interfaces : ObjectStore SwitchInterfaceSpec SwitchInterfaceStatus
  host : Host
  time : String

namespace Fleet

/-- The answer to a question of the operator, and the fleet after it. -/
def answer : (q : Query) → Fleet → q.Answer × Fleet
  | .switches v, f =>
    let (outcome, switches) := f.switches.answer Switch.schema v
    (outcome, { f with switches })
  | .interfaces v, f =>
    let (outcome, interfaces) := f.interfaces.answer SwitchInterface.schema v
    (outcome, { f with interfaces })
  | .client s, f => (.ok s.agentAddress, f)
  | .call address op, f =>
    let p := Client.perform Host.serve address op f.host
    (p.1, { f with host := p.2 })
  | .now, f => (f.time, f)

/-- The outcome of an attempt at an interface, and the fleet after it. -/
def attempt (f : Fleet) (o : SwitchInterface) : Except ControllerError Action × Fleet :=
  (reconcileInterface o).run.run answer f

/-- The questions of an attempt at an interface with their answers. -/
def asked (f : Fleet) (o : SwitchInterface) : List (Program.Asked Query.Answer) :=
  (reconcileInterface o).run.trace answer f

theorem backed : interfaceKind.Backed answer Fleet.interfaces
    fun interfaces f => { f with interfaces } :=
  ⟨fun _ _ => rfl, fun _ _ => rfl⟩

theorem backedSwitches : switchKind.Backed answer Fleet.switches
    fun switches f => { f with switches } :=
  ⟨fun _ _ => rfl, fun _ _ => rfl⟩

/-! ## Calls of the agent -/

theorem answer_call (address : String) (op : Operation) (f : Fleet) :
    answer (.call address op) f =
      ((Client.perform Host.serve address op f.host).1,
        { f with host := (Client.perform Host.serve address op f.host).2 }) := rfl

theorem call_ok {address : String} {op : Operation} {f f' : Fleet} {x : op.Report}
    (h : answer (.call address op) f = (.ok x, f')) :
    f.host.attempt (Agent.perform op) = (.ok x, f'.host) := by
  rw [answer_call] at h
  rcases hp : Client.perform Host.serve address op f.host with ⟨r, host⟩
  rw [hp] at h
  cases h
  exact Client.perform_ok hp

/-! ## What is left alone -/

theorem interfaces_answer {q : Query} (hq : ∀ v, q ≠ .interfaces v) (f : Fleet) :
    (answer q f).2.interfaces = f.interfaces := by
  cases q with
  | interfaces v => exact absurd rfl (hq v)
  | call address op => simp only [answer_call]
  | _ => rfl

theorem switches_answer {q : Query} (hq : ∀ v, q ≠ .switches v) (f : Fleet) :
    (answer q f).2.switches = f.switches := by
  cases q with
  | switches v => exact absurd rfl (hq v)
  | call address op => simp only [answer_call]
  | _ => rfl

theorem links_answer (q : Query) (f : Fleet) : (answer q f).2.host.links = f.host.links := by
  cases q with
  | call address op =>
    simp only [answer_call]
    exact Client.perform_keeps Host.links op address f.host (f.host.keeps_links (Agent.perform op))
  | _ => rfl

theorem content_answer {q : Query}
    (hq : ∀ address name status, q ≠ .call address (.setAdminStatus name status)) (f : Fleet) :
    (answer q f).2.host.content = f.host.content := by
  cases q with
  | call address op =>
    simp only [answer_call]
    refine Client.perform_keeps Host.content op address f.host
      (f.host.keeps_content (Host.reads_perform ?_))
    rintro name status rfl
    exact hq address name status rfl
  | _ => rfl

end Fleet

end SwitchFleet.Controller

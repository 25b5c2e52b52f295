import SwitchFleet.Resource.SwitchInterface
import SwitchFleet.Device.LineStatus

/-!
# States and line statuses

The states of a resource and the line statuses of a device stand for each other. A state that is
wanted must be up or down, and so must a status that is read back after a change. An observed status
may be unknown.

* `LinkState.lineStatus`: the line status that a wanted state asks for.
* `LineStatus.linkState`: the state that a line status stands for.
* `LineStatus.observedAdmin`, `LineStatus.observedOperational`: the states of an observed status.
-/

namespace SwitchFleet

/-- A state or a line status that stands for nothing on the other side. -/
inductive ConversionError where
  | state (s : LinkState)
  | status (s : LineStatus)
deriving DecidableEq

def ConversionError.message : ConversionError → String
  | state s => "unknown admin state: " ++ s.name
  | status s => "unknown device status: " ++ s.text

/-- The line status that a wanted state asks for. -/
def LinkState.lineStatus : LinkState → Except ConversionError LineStatus
  | up => .ok .up
  | down => .ok .down
  | unknown => .error (.state unknown)

/-- The state that a line status stands for. -/
def LineStatus.linkState : LineStatus → Except ConversionError LinkState
  | up => .ok .up
  | down => .ok .down
  | unknown => .error (.status unknown)

/-- The state of an observed administrative status. -/
def LineStatus.observedAdmin : LineStatus → LinkState
  | up => .up
  | down => .down
  | unknown => .unknown

/-- The state of an observed operational status. Everything but up counts as down. -/
def LineStatus.observedOperational (s : LineStatus) : LinkState :=
  if s = .up then .up else .down

end SwitchFleet

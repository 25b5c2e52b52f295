import SwitchFleet.Controller.Reconcile

/-!
# Reconciling interfaces

The admin state that is wanted of an interface is set on the device at every attempt, and what the
device reports after that is written into the status.

* `Controller.reconcileInterface`: one attempt at an interface.
-/

namespace SwitchFleet.Controller

/-- Interfaces as a kind of resource. An interface without a switch waits for a change. -/
def interfaceKind : Kind SwitchInterfaceSpec SwitchInterfaceStatus where
  schema := SwitchInterface.schema
  send := onInterfaces
  empty := .empty
  state s := s.state
  setState state s := { s with state := some state }
  conditions s := s.conditions
  setConditions conditions s := { s with conditions }
  isLasting
    | .missingSwitchRef _ => true
    | _ => false

/-- The switch that an interface belongs to. -/
def switchOf (o : SwitchInterface) (name : String) : Task Switch := do
  match o.spec.switchRef with
  | none => throw (.missingSwitchRef name)
  | some reference =>
    match ← ExceptT.mk (onSwitches (.get reference.name)) with
    | none => throw (.switchNotFound reference.name)
    | some s => return s

/-- A peer as it is written into the status. -/
def neighborOf (p : Peer) : Neighbor := ⟨p.macAddress, p.systemName, p.handle⟩

/-- The peer on an interface. An interface may have none. -/
def observedNeighbor (address handle : String) : Task Neighbor := do
  match ← ExceptT.lift (call address (.peer handle)) with
  | .ok p => return neighborOf p
  | .error e => if e.isNotFound then return .empty else throw (.agent e)

/-- Compares an interface with its device. -/
def observeInterface (o : SwitchInterface) (name : String) :
    Observation SwitchInterfaceStatus Action := do
  let k := interfaceKind
  let switch ← k.orFail (switchOf o name)
  let address ← k.orFail (client switch)
  let before ← k.reportOrFail address (.interface o.spec.handle)
  let admin ← k.convertOrFail before.admin.linkState
  modify fun s => { s with
    adminState := some admin
    operationalState := some before.operational.observedOperational
    macAddress := before.macAddress }
  let wanted ← k.convertOrFail o.spec.adminState.lineStatus
  let after ← k.reportOrFail address (.setAdminStatus o.spec.handle wanted)
  let admin ← k.convertOrFail after.admin.linkState
  let operational ← k.convertOrFail after.operational.linkState
  modify fun s => { s with
    adminState := some admin
    operationalState := some operational }
  let neighbor ← k.orFail (observedNeighbor address o.spec.handle)
  modify fun s => { s with neighbor, state := some .ready }
  return .awaitChange

/-- One attempt at an interface. -/
def reconcileInterface (o : SwitchInterface) : Task Action :=
  interfaceKind.reconcile observeInterface o

end SwitchFleet.Controller

import SwitchFleet.Controller.Reconcile
import SwitchFleet.Text.Casing

/-!
# Reconciling switches

A switch takes its identity and its ports from the device, and owns one interface resource for each
interface of the device.

* `Controller.childName`: the name of the resource for an interface.
* `Controller.child`: the resource for an interface as the switch wants it.
* `Controller.reconcileSwitch`: one attempt at a switch.
-/

namespace SwitchFleet.Controller

/-- The name of the resource for an interface of a switch. -/
def childName (switch handle : String) : String := switch ++ "-" ++ Text.lower handle

/-- Switches as a kind of resource. -/
def switchKind : Kind SwitchSpec SwitchStatus where
  schema := Switch.schema
  send := onSwitches
  empty := .empty
  state s := s.state
  setState state s := { s with state := some state }
  conditions s := s.conditions
  setConditions conditions s := { s with conditions }
  isLasting _ := false

/-- The reference by which a resource names its switch as its owner. -/
def ownerReference? (o : Switch) : Option OwnerReference := do
  let name ← o.metadata.name
  let uid ← o.metadata.uid
  return ⟨Group.apiVersion, none, some true, Switch.schema.kind, name, uid⟩

/-- The resource for an interface as a switch wants it. -/
def child (o : Switch) (name : String) (i : Interface) : Except ControllerError SwitchInterface :=
  match ownerReference? o with
  | none => .error (.missingField "metadata.uid")
  | some owner =>
    .ok {
      metadata := { Metadata.named (childName name i.name) with
        labels := some [(Group.switchLabel, name)]
        ownerReferences := some [owner] }
      spec := ⟨i.name, some ⟨name⟩, i.admin.observedAdmin⟩
      status := none }

/-- Applies the resources for the interfaces of a switch, up to the first one that fails. -/
def applyChildren (o : Switch) (name : String) : List Interface → Task Unit
  | [] => return ()
  | i :: is => do
    let c ← child o name i
    ExceptT.mk (onInterfaces (.apply c))
    applyChildren o name is

/-- What is observed of a port, given the interfaces of the switch. -/
def portStatus (name : String) (interfaces : List Interface) (p : Port) : PortStatus :=
  ⟨p.name, (interfaces.filter fun i => i.name == p.name).map fun i => ⟨childName name i.name⟩⟩

/-- Compares a switch with its device. -/
def observeSwitch (o : Switch) (name : String) : Observation SwitchStatus Action := do
  let address ← Kind.attempt (client o)
  let device ← switchKind.reportOrFail address .deviceInfo
  modify fun s => { s with
    macAddress := device.macAddress
    firmwareVersion := device.osVersion
    sku := device.hardwareSku }
  let interfaces ← switchKind.reportOrFail address .interfaces
  Kind.attempt (applyChildren o name interfaces)
  let ports ← switchKind.reportOrFail address .ports
  modify fun s => { s with
    ports := ports.map (portStatus name interfaces)
    state := some .ready }
  return .awaitChange

/-- One attempt at a switch. -/
def reconcileSwitch (o : Switch) : Task Action := switchKind.reconcile observeSwitch o

end SwitchFleet.Controller

import SwitchFleet.Resource.Switch

/-!
# Switch interfaces

The resource for one interface of a switch: its handle on the device, the state that is wanted, and
the states that were observed.

* `SwitchInterface`: the resource, with `SwitchInterfaceSpec` and `SwitchInterfaceStatus`.
* `LinkState`: the administrative or operational state of an interface.
* `Neighbor`: the peer that was found on an interface.
-/

namespace SwitchFleet

/-- The administrative or operational state of an interface. -/
inductive LinkState where
  | unknown
  | up
  | down
deriving DecidableEq

namespace LinkState

def name : LinkState → String
  | unknown => "Unknown"
  | up => "Up"
  | down => "Down"

def all : List LinkState := [unknown, up, down]

def codec : Codec LinkState := .names all name

end LinkState

/-- What is wanted of an interface. -/
structure SwitchInterfaceSpec where
  /-- The name of the interface on the device. -/
  handle : String
  switchRef : Option LocalReference
  adminState : LinkState
deriving DecidableEq

def SwitchInterfaceSpec.codec : Codec SwitchInterfaceSpec :=
  (Record.of SwitchInterfaceSpec.mk
    |>.required "handle" handle .text
    |>.optional "switchRef" switchRef LocalReference.codec
    |>.defaulted "adminState" adminState LinkState.codec .unknown).codec

/-- The peer that was found on an interface. -/
structure Neighbor where
  macAddress : String
  systemName : String
  interfaceHandle : String
deriving DecidableEq

namespace Neighbor

def empty : Neighbor := ⟨"", "", ""⟩

def isEmpty (n : Neighbor) : Bool :=
  n.macAddress.isEmpty && n.systemName.isEmpty && n.interfaceHandle.isEmpty

def codec : Codec Neighbor :=
  (Record.of Neighbor.mk
    |>.string "macAddress" macAddress
    |>.string "systemName" systemName
    |>.string "interfaceHandle" interfaceHandle).codec

end Neighbor

/-- What was observed of an interface. -/
structure SwitchInterfaceStatus where
  adminState : Option LinkState
  operationalState : Option LinkState
  /-- Missing on a resource that the operator has not seen yet. -/
  state : Option Lifecycle
  neighbor : Neighbor
  macAddress : String
  conditions : List Condition
deriving DecidableEq

/-- The status of an interface that the operator has not seen yet. -/
def SwitchInterfaceStatus.empty : SwitchInterfaceStatus := ⟨none, none, none, .empty, "", []⟩

def SwitchInterfaceStatus.codec : Codec SwitchInterfaceStatus :=
  (Record.of SwitchInterfaceStatus.mk
    |>.optional "adminState" adminState LinkState.codec
    |>.optional "operationalState" operationalState LinkState.codec
    |>.optional "state" state Lifecycle.codec
    |>.field "neighbor" neighbor Neighbor.codec (.default .empty) Neighbor.isEmpty
    |>.string "macAddress" macAddress
    |>.listed "conditions" conditions Condition.codec).codec

/-- The resource for one interface of a switch. -/
abbrev SwitchInterface : Type := Object SwitchInterfaceSpec SwitchInterfaceStatus

def SwitchInterface.schema : Schema SwitchInterfaceSpec SwitchInterfaceStatus :=
  ⟨"SwitchInterface", "switchinterfaces", SwitchInterfaceSpec.codec, SwitchInterfaceStatus.codec⟩

end SwitchFleet

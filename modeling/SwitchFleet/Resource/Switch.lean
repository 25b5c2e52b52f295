import SwitchFleet.Device.Operation
import SwitchFleet.Resource.Object
import SwitchFleet.Resource.Condition

/-!
# Switches

The resource for a switch: how to reach its agent, and what the agent reports about it.

* `Switch`: the resource, with `SwitchSpec` and `SwitchStatus`.
* `Management.address?`, `Switch.agentAddress`: the address of the agent.
* `Lifecycle`: how far the operator has come with a resource.
-/

namespace SwitchFleet

/-! ## References -/

/-- A reference to a resource by its name. -/
structure LocalReference where
  name : String
deriving DecidableEq

def LocalReference.codec : Codec LocalReference :=
  (Record.of LocalReference.mk |>.defaulted "name" name .text "").codec

/-- A reference to an object of any kind. -/
structure ObjectReference where
  kind : String
  «namespace» : String
  name : String
  apiVersion : String
deriving DecidableEq

def ObjectReference.empty : ObjectReference := ⟨"", "", "", ""⟩

def ObjectReference.codec : Codec ObjectReference :=
  (Record.of ObjectReference.mk
    |>.string "kind" kind
    |>.string "namespace" «namespace»
    |>.string "name" name
    |>.string "apiVersion" apiVersion).codec

/-! ## Lifecycle -/

/-- How far the operator has come with a resource. -/
inductive Lifecycle where
  /-- Accepted, and not yet compared with the device. -/
  | pending
  /-- Compared with the device. -/
  | ready
  /-- The last comparison failed. -/
  | failed
deriving DecidableEq

namespace Lifecycle

def name : Lifecycle → String
  | pending => "Pending"
  | ready => "Ready"
  | failed => "Failed"

def all : List Lifecycle := [pending, ready, failed]

def codec : Codec Lifecycle := .names all name

end Lifecycle

/-! ## Specification -/

/-- How to reach the agent of a switch. -/
structure Management where
  host : String
  port : String
  credentials : ObjectReference
deriving DecidableEq

namespace Management

def empty : Management := ⟨"", "", .empty⟩

def codec : Codec Management :=
  (Record.of Management.mk
    |>.defaulted "host" host .text ""
    |>.defaulted "port" port .text ""
    |>.defaulted "credentials" credentials ObjectReference.codec .empty).codec

/-- The address of the agent, if a host or a port is given. -/
def address? (m : Management) : Option String :=
  if m.host.isEmpty && m.port.isEmpty then none else some (m.host ++ ":" ++ m.port)

end Management

/-- A port that is declared for a switch. -/
structure PortSpec where
  name : String
deriving DecidableEq

def PortSpec.codec : Codec PortSpec := (Record.of PortSpec.mk |>.required "name" name .text).codec

/-- What is wanted of a switch. -/
structure SwitchSpec where
  management : Management
  macAddress : String
  ports : List PortSpec
deriving DecidableEq

def SwitchSpec.codec : Codec SwitchSpec :=
  (Record.of SwitchSpec.mk
    |>.defaulted "management" management Management.codec .empty
    |>.defaulted "macAddress" macAddress .text ""
    |>.listed "ports" ports PortSpec.codec).codec

/-! ## Status -/

/-- What was observed of a port. -/
structure PortStatus where
  name : String
  interfaceRefs : List LocalReference
deriving DecidableEq

def PortStatus.codec : Codec PortStatus :=
  (Record.of PortStatus.mk
    |>.required "name" name .text
    |>.listed "interfaceRefs" interfaceRefs LocalReference.codec).codec

/-- What was observed of a switch. -/
structure SwitchStatus where
  /-- Missing on a resource that the operator has not seen yet. -/
  state : Option Lifecycle
  ports : List PortStatus
  macAddress : String
  firmwareVersion : String
  sku : String
  conditions : List Condition
deriving DecidableEq

/-- The status of a switch that the operator has not seen yet. -/
def SwitchStatus.empty : SwitchStatus := ⟨none, [], "", "", "", []⟩

def SwitchStatus.codec : Codec SwitchStatus :=
  (Record.of SwitchStatus.mk
    |>.optional "state" state Lifecycle.codec
    |>.listed "ports" ports PortStatus.codec
    |>.string "macAddress" macAddress
    |>.string "firmwareVersion" firmwareVersion
    |>.string "sku" sku
    |>.listed "conditions" conditions Condition.codec).codec

/-! ## The resource -/

/-- The resource for a switch. -/
abbrev Switch : Type := Object SwitchSpec SwitchStatus

namespace Switch

def schema : Schema SwitchSpec SwitchStatus :=
  ⟨"Switch", "switches", SwitchSpec.codec, SwitchStatus.codec⟩

/-- The address of the agent of a switch. -/
def agentAddress (s : Switch) : String := s.spec.management.address?.getD Agent.defaultAddress

end Switch

end SwitchFleet

import SwitchFleet.Device.LineStatus

/-!
# Devices

What an agent reports about a switch: its identity, its interfaces, the peers that link-layer
discovery has found on them, and its physical ports.

* `Device`, `Interface`, `Peer`, `Port`: the reports, with their codecs.
* `Listing`: a kind and the names of the objects of a report, for short output.
-/

namespace SwitchFleet

/-- The identity of a switch. -/
structure Device where
  macAddress : String
  hardwareSku : String
  osVersion : String
  asicType : String
  /-- One as soon as the identity has been read, zero before. -/
  readiness : UInt32
deriving DecidableEq

/-- The readiness of a device whose identity has been read. -/
def Device.ready : UInt32 := 1

/-- A network interface of a switch. -/
structure Interface where
  name : String
  macAddress : String
  operational : LineStatus
  admin : LineStatus
deriving DecidableEq

/-- The peer on the other side of an interface. -/
structure Peer where
  name : String
  /-- The MAC address of the peer. -/
  macAddress : String
  /-- The name of the peer's system. -/
  systemName : String
  /-- The handle of the peer's interface. -/
  handle : String
deriving DecidableEq

/-- A physical port of a switch. -/
structure Port where
  name : String
  label : String
deriving DecidableEq

/-! ## Codecs -/

def Device.codec : Codec Device :=
  (Record.of Device.mk
    |>.required "local_mac_address" macAddress .text
    |>.required "hwsku" hardwareSku .text
    |>.required "sonic_os_version" osVersion .text
    |>.required "asic_type" asicType .text
    |>.required "readiness" readiness .word32).codec

/-- An interface as JSON. Only its name must be given. -/
def Interface.codec : Codec Interface :=
  (Record.of Interface.mk
    |>.required "name" name .text
    |>.defaulted "mac_address" macAddress .text ""
    |>.defaulted "operation_status" operational LineStatus.codec .unknown
    |>.defaulted "admin_status" admin LineStatus.codec .unknown).codec

def Peer.codec : Codec Peer :=
  (Record.of Peer.mk
    |>.required "name" name .text
    |>.required "mac_address" macAddress .text
    |>.required "system_name" systemName .text
    |>.required "handle" handle .text).codec

def Port.codec : Codec Port :=
  (Record.of Port.mk
    |>.required "name" name .text
    |>.required "alias" label .text).codec

/-- A list of reports as JSON: an object with the list as its only member. -/
def itemsCodec {α : Type} (c : Codec α) : Codec (List α) :=
  (Record.of id |>.required "items" id c.list).codec

/-! ## Kinds and names -/

/-- The kind of a report and the name of its object. -/
structure Listing where
  kind : String
  name : String
deriving DecidableEq

/-- A switch is named after its MAC address. -/
def Device.listing (d : Device) : Listing := ⟨"SwitchDevice", "switch-" ++ d.macAddress⟩

/-- The kind and the name of an interface. -/
def Interface.listing (i : Interface) : Listing := ⟨"Interface", i.name⟩

/-- The kind and the name of a peer, which is named after the interface it was found on. -/
def Peer.listing (p : Peer) : Listing := ⟨"InterfaceNeighbor", p.name⟩

/-- The kind and the name of a port. -/
def Port.listing (p : Port) : Listing := ⟨"Port", p.name⟩

end SwitchFleet

import SwitchFleet.Agent.Manifest
import SwitchFleet.Agent.Query
import SwitchFleet.Device.Operation

/-!
# Operations of an agent

What an agent does for each device operation.

* `Agent.deviceInfo`: the identity of the device, completed from the version manifest.
* `Agent.interfaces`, `Agent.interface`: all interfaces in the order of their names, and one of them.
* `Agent.setAdminStatus`: a change of the admin status, taken back if the device does not answer.
* `Agent.peer`, `Agent.ports`: the peer of an interface, and the physical ports.
* `Agent.perform`: the operation that is asked for.
-/

namespace SwitchFleet.Agent

open Status

/-! ## Keys of the device store -/

def identityKey : String := "DEVICE_METADATA|localhost"

/-- The beginning of the keys of configured interfaces. -/
def configuredStart : String := "PORT|"

def configuredKey (name : String) : String := configuredStart ++ name

def stateKey (name : String) : String := "PORT_TABLE|" ++ name

/-- The beginning of the keys of ports. -/
def portStart : String := "PORT_TABLE:"

def peerKey (name : String) : String := "LLDP_ENTRY_TABLE:" ++ name

def adminField : String := "admin_status"

def operationalField : String := "netdev_oper_status"

/-- The name at the end of a key that has a given beginning. It is not empty. -/
def nameAfter? (start key : String) : Option String :=
  (Text.afterStart? start key).filter fun name => !name.isEmpty

/-! ## Identity -/

/-- A text, or the entry of the manifest in its place if it is empty. -/
def orEntry (manifest : Keyed String) (key text : String) : String :=
  if text.isEmpty then (manifest.get? key).getD "" else text

/-- A device with the entries of the manifest in the place of empty texts. -/
def completed (manifest : Keyed String) (d : Device) : Device :=
  { d with
    hardwareSku := orEntry manifest "hwsku" d.hardwareSku
    osVersion := orEntry manifest "sonic_os_version" d.osVersion
    asicType := orEntry manifest "asic_type" d.asicType }

/-- The device that the fields of its identity describe. -/
def deviceOf (macAddress : String) (fields : Hash) : Device :=
  ⟨macAddress, fields.text "hwsku", fields.text "sonic_os_version", fields.text "asic_type",
    Device.ready⟩

/-- Whether nothing of a device is left to the manifest. -/
def isComplete (d : Device) : Bool :=
  !d.hardwareSku.isEmpty && !d.osVersion.isEmpty && !d.asicType.isEmpty

/-- The identity of the device. -/
def deviceInfo : Task Device := do
  let config ← database Database.configurationName
  let fields ← command config (.fields identityKey) Code.badRequest "failed to get device info"
  match Keyed.get? "mac" fields with
  | none => throw (.notFound "missing or invalid MAC address")
  | some mac =>
    let device := deviceOf mac fields
    if isComplete device then return device
    else
      match ← ask .manifest with
      | some text => return completed (Manifest.parse text) device
      | none => return device

/-! ## Interfaces -/

/-- A name that is not empty. -/
def requireName (name : String) : Task Unit :=
  if name.isEmpty then throw (.badRequest "interface name cannot be empty") else return ()

/-- The state of an interface. Nothing is known of an interface whose state cannot be read. -/
def observed (state : Connection) (name : String) : Task Hash := do
  match ← ask (.command state (.fields (stateKey name))) with
  | .ok fields => return fields
  | .error _ => return []

/-- The MAC address of the link of an interface. -/
def linkAddress (name : String) : Task String := do
  match ← ask (.link name) with
  | .ok (some mac) => return mac
  | .ok none => throw (.notFound ("no MAC address found for interface " ++ name))
  | .error e => throw (.notFound ("failed to get interface " ++ name ++ ": " ++ e.message))

/-- An interface with its state and the address of its link. -/
def readInterface (state : Connection) (name : String) : Task Interface := do
  let fields ← observed state name
  let mac ← linkAddress name
  return ⟨name, mac, .ofField (fields.text operationalField), .ofField (fields.text adminField)⟩

/-- The interfaces of a list of keys. -/
def readInterfaces (state : Connection) : List String → Task (List Interface)
  | [] => return []
  | key :: keys => do
    match nameAfter? configuredStart key with
    | none => throw (.badRequest ("failed to parse interface name from key " ++ key))
    | some name =>
      let i ← readInterface state name
      return i :: (← readInterfaces state keys)

/-- All configured interfaces in the order of their names. -/
def interfaces : Task (List Interface) := do
  let config ← database Database.configurationName
  let state ← database Database.stateName
  let keys ← command config (.keys (configuredStart ++ "*")) Code.badRequest
    "failed to obtain iface keys"
  readInterfaces state (keys.mergeSort fun a b => a ≤ b)

/-- The status of an interface that is not configured. -/
def interfaceNotFound (name : String) : Status :=
  .notFound ("interface " ++ name ++ " not found")

/-- One configured interface. -/
def interface (name : String) : Task Interface := do
  requireName name
  let config ← database Database.configurationName
  let state ← database Database.stateName
  let exists? ← command config (.has (configuredKey name)) Code.badRequest
    "failed to check interface existence"
  if exists? then readInterface state name else throw (interfaceNotFound name)

/-! ## Changes of the admin status -/

/-- The state of an interface after a change. -/
def stateAfterChange (name : String) : Task Hash := do
  let state ← database Database.stateName
  command state (.fields (stateKey name)) Code.keyCheckFailed "failed to get state info"

/-- The admin status of an interface, set to a text. -/
def writeAdminStatus (config : Connection) (name text step : String) : Task Unit :=
  command config (.setField (configuredKey name) adminField text) Code.writeFailed step

/-- A change of the admin status of an interface. If the state of the interface cannot be read
after the change, the old admin status is written back. -/
def setAdminStatus (name : String) (status : LineStatus) : Task Interface := do
  requireName name
  if status = .unknown then
    throw (.badRequest "invalid admin status unknown, it has to be 'up' or 'down'")
  let config ← database Database.configurationName
  let before ← command config (.fields (configuredKey name)) Code.keyCheckFailed
    "failed to get current admin status"
  writeAdminStatus config name status.text "failed to set admin status"
  let exists? ← command config (.has (configuredKey name)) Code.keyCheckFailed
    "failed to verify interface existence"
  if !exists? then throw (interfaceNotFound name)
  ask .settle
  let state ← tryCatch (stateAfterChange name) fun s => do
    writeAdminStatus config name (Hash.text before adminField) "failed to rollback admin status"
    throw s
  return ⟨name, "", .ofField (Hash.text state operationalField), status⟩

/-! ## Peers -/

/-- The peer that the fields of an entry describe, if they are complete. -/
def peerOf? (name : String) (fields : Hash) : Option Peer :=
  let mac := fields.text "lldp_rem_chassis_id"
  let system := fields.text "lldp_rem_sys_name"
  let description := fields.text "lldp_rem_port_desc"
  let handle := if description.isEmpty then fields.text "lldp_rem_port_id" else description
  if mac.isEmpty || system.isEmpty then none else some ⟨name, mac, system, handle⟩

/-- The peer on the other side of an interface. -/
def peer (name : String) : Task Peer := do
  requireName name
  let application ← database Database.applicationName
  let exists? ← command application (.has (peerKey name)) Code.badRequest
    "failed to check LLDP entry existence"
  if !exists? then throw (.notFound ("no LLDP neighbor found for interface " ++ name))
  let fields ← command application (.fields (peerKey name)) Code.badRequest
    "failed to get LLDP entry"
  match peerOf? name fields with
  | some p => return p
  | none => throw (.notFound ("incomplete LLDP information for interface " ++ name))

/-! ## Ports -/

/-- The port that the fields of an entry describe, if it is its own parent. -/
def portOf? (name : String) (fields : Hash) : Option Port :=
  if Keyed.get? "parent_port" fields = some name then
    let label := fields.text "alias"
    some ⟨name, if label.isEmpty then name else label⟩
  else none

/-- The ports of a list of keys. Entries that cannot be read are passed over. -/
def readPorts (application : Connection) : List String → Task (List Port)
  | [] => return []
  | key :: keys => do
    match nameAfter? portStart key with
    | none => readPorts application keys
    | some name =>
      match ← ask (.command application (.fields key)) with
      | .error _ => readPorts application keys
      | .ok fields => return (portOf? name fields).toList ++ (← readPorts application keys)

/-- All physical ports in the order of their names. -/
def ports : Task (List Port) := do
  let application ← database Database.applicationName
  let keys ← command application (.keys (portStart ++ "*")) Code.badRequest
    "failed to obtain PORT_TABLE keys"
  let found ← readPorts application keys
  return found.mergeSort fun a b => a.name ≤ b.name

/-! ## All operations -/

/-- The report on an operation. -/
def perform : (op : Operation) → Task op.Report
  | .deviceInfo => deviceInfo
  | .interfaces => interfaces
  | .setAdminStatus name status => setAdminStatus name status
  | .interface name => interface name
  | .peer name => peer name
  | .ports => ports

end SwitchFleet.Agent

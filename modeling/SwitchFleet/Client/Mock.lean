import SwitchFleet.Client.Error
import SwitchFleet.Text.Quoted

/-!
# Mock agents

An agent that keeps its device in memory, and whose operations can be made to fail.

* `Mock`: the device, and the operations that fail.
* `Mock.perform`: the outcome of an operation, and the device after it.
-/

namespace SwitchFleet

/-- An agent that keeps its device in memory. -/
structure Mock where
  device : Device
  interfaces : Keyed Interface
  peers : Keyed Peer
  ports : List Port
  /-- The operations that fail, with the status that they fail with. -/
  failures : List (Operation.Kind × Status)
  /-- The changes of the admin status that were asked for, first one first. -/
  changes : List (String × LineStatus)

namespace Mock

/-- An agent without anything on its device. -/
def empty : Mock := ⟨⟨"", "", "", "", 0⟩, [], [], [], [], []⟩

/-! ## Setting up -/

/-- The agent with another identity of its device. -/
def setDevice (macAddress hardwareSku osVersion : String) (m : Mock) : Mock :=
  { m with device := ⟨macAddress, hardwareSku, osVersion, "vs", Device.ready⟩ }

/-- A MAC address that ends in the number of bytes of a name. -/
def addressFor (name : String) : String :=
  let ds := Text.hex name.utf8ByteSize
  "02:00:00:00:00:" ++ String.ofList (List.replicate (2 - ds.length) '0' ++ ds)

/-- The agent with an interface added or replaced. -/
def addInterface (name : String) (admin operational : LineStatus) (m : Mock) : Mock :=
  { m with interfaces := m.interfaces.put name ⟨name, addressFor name, operational, admin⟩ }

/-- The agent with another operational status of an interface. -/
def setOperational (name : String) (operational : LineStatus) (m : Mock) : Mock :=
  match m.interfaces.get? name with
  | some i => { m with interfaces := m.interfaces.put name { i with operational } }
  | none => m

/-- The agent with a peer added or replaced. -/
def addPeer (p : Peer) (m : Mock) : Mock := { m with peers := m.peers.put p.name p }

/-- The agent without the peer of an interface. -/
def removePeer (name : String) (m : Mock) : Mock := { m with peers := m.peers.erase name }

/-- The agent with one more port. -/
def addPort (p : Port) (m : Mock) : Mock := { m with ports := m.ports ++ [p] }

/-- The agent with an operation that works again. -/
def recover (k : Operation.Kind) (m : Mock) : Mock :=
  { m with failures := m.failures.filter fun f => f.1 != k }

/-- The agent with an operation that fails. -/
def fail (k : Operation.Kind) (s : Status) (m : Mock) : Mock :=
  { m with failures := (k, s) :: (m.recover k).failures }

/-- The agent without the changes that were asked for so far. -/
def forget (m : Mock) : Mock := { m with changes := [] }

/-! ## Operations -/

/-- What an operation reports if something is there to report. -/
def found {α : Type} (x : Option α) (missing : String) : Except ClientError α :=
  match x with
  | some x => .ok x
  | none => .error (.remote (.notFound missing))

/-- A change of the admin status. The change is recorded even if there is no such interface. -/
def setAdminStatus (name : String) (status : LineStatus) (m : Mock) :
    Except ClientError Interface × Mock :=
  let m := { m with changes := m.changes ++ [(name, status)] }
  match m.interfaces.get? name with
  | none => (.error (.remote (.notFound ("interface " ++ name ++ " not found"))), m)
  | some i =>
    let i := { i with admin := status }
    (.ok { i with macAddress := "" }, { m with interfaces := m.interfaces.put name i })

/-- The outcome of an operation that does not fail, and the device after it. -/
def performNow : (op : Operation) → Mock → Except ClientError op.Report × Mock
  | .deviceInfo, m => (.ok m.device, m)
  | .interfaces, m => (.ok (m.interfaces.map (·.2)), m)
  | .setAdminStatus name status, m => m.setAdminStatus name status
  | .interface name, m =>
    (found (m.interfaces.get? name)
      ("failed to get interface: interface " ++ name ++ " not found"), m)
  | .peer name, m =>
    (found (m.peers.get? name)
      ("failed to get interface neighbor: no LLDP neighbor found for interface " ++ name), m)
  | .ports, m => (.ok m.ports, m)

/-- The outcome of an operation, and the device after it. -/
def perform (op : Operation) (m : Mock) : Except ClientError op.Report × Mock :=
  match m.failures.lookup op.kind with
  | some s => (.error (.remote s), m)
  | none => m.performNow op

end Mock

end SwitchFleet

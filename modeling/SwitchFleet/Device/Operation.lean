import SwitchFleet.Device.Basic
import SwitchFleet.Status

/-!
# Device operations

The six operations of the agent protocol. Each has a name, arguments that travel in the body of a
request, and a report that travels in the body of the reply.

* `Operation`: an operation with its arguments.
* `Operation.Report`: what an operation reports on success.
* `Operation.body`: the arguments as JSON.
* `Reply`: a status with a report.
-/

namespace SwitchFleet

/-- An operation on a device. -/
inductive Operation where
  | deviceInfo
  | interfaces
  | setAdminStatus (name : String) (status : LineStatus)
  | interface (name : String)
  | peer (name : String)
  | ports
deriving DecidableEq

/-- The operations without their arguments. -/
inductive Operation.Kind where
  | deviceInfo
  | interfaces
  | setAdminStatus
  | interface
  | peer
  | ports
deriving DecidableEq

namespace Operation

/-- An operation without its arguments. -/
def kind : Operation → Kind
  | deviceInfo => .deviceInfo
  | interfaces => .interfaces
  | setAdminStatus .. => .setAdminStatus
  | interface _ => .interface
  | peer _ => .peer
  | ports => .ports

/-- The operation of a kind, on an interface and with a status where it takes one. -/
def ofKind (name : String) (status : LineStatus) : Kind → Operation
  | .deviceInfo => deviceInfo
  | .interfaces => interfaces
  | .setAdminStatus => setAdminStatus name status
  | .interface => interface name
  | .peer => peer name
  | .ports => ports

namespace Kind

def all : List Kind := [deviceInfo, interfaces, setAdminStatus, interface, peer, ports]

def name : Kind → String
  | deviceInfo => "GetDeviceInfo"
  | interfaces => "ListInterfaces"
  | setAdminStatus => "SetInterfaceAdminStatus"
  | interface => "GetInterface"
  | peer => "GetInterfaceNeighbor"
  | ports => "ListPorts"

def ofName? (name : String) : Option Kind := all.find? fun k => k.name == name

/-- The path of an operation in the protocol. -/
def path (k : Kind) : String := "/v1/" ++ k.name

/-- What an operation reports on success. -/
abbrev Report : Kind → Type
  | deviceInfo => Device
  | interfaces => List Interface
  | setAdminStatus => Interface
  | interface => Interface
  | peer => Peer
  | ports => List Port

/-- The codec of the report of an operation. -/
def codec : (k : Kind) → Codec k.Report
  | deviceInfo => Device.codec
  | interfaces => itemsCodec Interface.codec
  | setAdminStatus => Interface.codec
  | interface => Interface.codec
  | peer => Peer.codec
  | ports => itemsCodec Port.codec

end Kind

/-- What an operation reports on success. -/
abbrev Report (op : Operation) : Type := op.kind.Report

end Operation

/-- The address of an agent for which none is given. -/
def Agent.defaultAddress : String := "localhost:50051"

/-! ## Requests -/

/-- The arguments of an operation on one interface. -/
structure InterfaceRequest where
  name : String
deriving DecidableEq

/-- The arguments of a change of the admin status. -/
structure AdminStatusRequest where
  name : String
  status : LineStatus
deriving DecidableEq

/-- The arguments of an operation without any. -/
def noArguments : Codec Unit := (Record.of ()).codec

def InterfaceRequest.codec : Codec InterfaceRequest :=
  (Record.of InterfaceRequest.mk |>.required "name" name .text).codec

def AdminStatusRequest.codec : Codec AdminStatusRequest :=
  (Record.of AdminStatusRequest.mk
    |>.required "name" name .text
    |>.required "admin_status" status LineStatus.codec).codec

/-- The arguments of an operation as JSON. -/
def Operation.body : Operation → Json
  | deviceInfo => noArguments.encode ()
  | interfaces => noArguments.encode ()
  | setAdminStatus name status => AdminStatusRequest.codec.encode ⟨name, status⟩
  | interface name => InterfaceRequest.codec.encode ⟨name⟩
  | peer name => InterfaceRequest.codec.encode ⟨name⟩
  | ports => noArguments.encode ()

/-- The operation of a kind whose arguments have the given document. Operations without arguments
do not look at it. -/
def Operation.ofBody {ε : Type} (decode : {α : Type} → Codec α → Except ε α) :
    Operation.Kind → Except ε Operation
  | .deviceInfo => .ok .deviceInfo
  | .interfaces => .ok .interfaces
  | .setAdminStatus => (decode AdminStatusRequest.codec).map fun r => .setAdminStatus r.name r.status
  | .interface => (decode InterfaceRequest.codec).map fun r => .interface r.name
  | .peer => (decode InterfaceRequest.codec).map fun r => .peer r.name
  | .ports => .ok .ports

/-! ## Replies -/

/-- A status with a report. -/
structure Reply (α : Type) where
  status : Status
  data : Option α

namespace Reply

variable {α : Type}

/-- The reply to an operation that ended with a report or a status. -/
def ofResult : Except Status α → Reply α
  | .ok x => ⟨.ok, some x⟩
  | .error s => ⟨s, none⟩

/-- The outcome that a reply stands for. A status other than success counts more than a report. -/
def result (r : Reply α) : Except Status (Option α) :=
  if r.status.isOk then .ok r.data else .error r.status

def codec (c : Codec α) : Codec (Reply α) :=
  (Record.of Reply.mk
    |>.required "status" status Status.codec
    |>.optional "data" data c).codec

end Reply

end SwitchFleet

import SwitchFleet.Client.Error
import SwitchFleet.Resource.Conversion
import SwitchFleet.Text.Quoted

/-!
# Errors of the operator

* `ApiStatus`: how the cluster refuses a request.
* `ControllerError`: why a resource could not be reconciled.
* `ControllerError.reason`: the word for an error in the condition of a resource.
* `ControllerError.isRetriable`: whether another attempt may succeed without any change.
-/

namespace SwitchFleet

/-- How the cluster refuses a request. -/
structure ApiStatus where
  status : String
  message : String
  reason : String
  code : UInt16
deriving DecidableEq

namespace ApiStatus

def codec : Codec ApiStatus :=
  (Record.of ApiStatus.mk
    |>.required "status" status .text
    |>.defaulted "message" message .text ""
    |>.defaulted "reason" reason .text ""
    |>.required "code" code .word16).codec

/-- A refusal as a text, with all of its parts. -/
def describe (s : ApiStatus) : String :=
  "ApiError: " ++ s.message ++ ": " ++ s.reason ++ " (ErrorResponse \x7b status: " ++
    Text.quote s.status ++ ", message: " ++ Text.quote s.message ++ ", reason: " ++
    Text.quote s.reason ++ ", code: " ++ toString s.code ++ " \x7d)"

end ApiStatus

/-- Why a request to the cluster failed. -/
inductive ClusterFault where
  | refused (s : ApiStatus)
  | invalidName
  | unreachable
  | unreadable
deriving DecidableEq

def ClusterFault.text : ClusterFault → String
  | refused s => s.describe
  | invalidName => "failed to build request"
  | unreachable => "ServiceError: no response"
  | unreadable => "Error deserializing response"

/-- Why a resource could not be reconciled. -/
inductive ControllerError where
  | cluster (fault : ClusterFault)
  | agent (e : ClientError)
  | conversion (e : ConversionError)
  | missingSwitchRef (name : String)
  | switchNotFound (name : String)
  | missingField (field : String)
  | serialization
  | configuration (text : String)
  | network (text : String)
deriving DecidableEq

namespace ControllerError

/-- The text of an error. -/
def message : ControllerError → String
  | cluster fault => "Kubernetes API error: " ++ fault.text
  | agent e => e.message
  | conversion e => "invalid state: " ++ e.message
  | missingSwitchRef name => "switch interface " ++ name ++ " has no switch reference"
  | switchNotFound name => "switch not found: " ++ name
  | missingField field => "missing field: " ++ field
  | serialization => "serialization error: value of another type"
  | configuration text => "configuration error: " ++ text
  | network text => "I/O error: " ++ text

/-- Whether another attempt may succeed without any change. -/
def isRetriable : ControllerError → Bool
  | cluster _ => true
  | network _ => true
  | agent e => e.isRetriable
  | _ => false

/-- The word for an error in the condition of a resource. -/
def reason : ControllerError → String
  | conversion _ => "InvalidState"
  | missingSwitchRef _ => "MissingSwitchRef"
  | switchNotFound _ => "MissingSwitchRef"
  | _ => "AgentError"

end ControllerError

end SwitchFleet

import SwitchFleet.Device.Operation
import SwitchFleet.Http.Reason

/-!
# Errors of an agent's client

* `ClientError`: why a call of an agent failed: the agent was not reached, its reply was not
  understood, or it reported a failure of its own.
* `ClientError.message`: the text of an error.
* `ClientError.isNotFound`, `ClientError.isRetriable`: what follows from an error.
-/

namespace SwitchFleet

/-- Why there is no reply. -/
inductive TransportFault where
  | unreachable (k : Operation.Kind) (url : String)
  | refused (k : Operation.Kind) (code : Nat)
  | other (text : String)
deriving DecidableEq

def TransportFault.text : TransportFault → String
  | unreachable k url => k.name ++ " request failed: error sending request for url (" ++ url ++ ")"
  | refused k code => k.name ++ " returned HTTP " ++ Http.describeCode code
  | other text => text

/-- Why a reply was not understood. -/
inductive ReplyFault where
  | unreadable (k : Operation.Kind)
  /-- The reply reports success without a report. -/
  | empty (k : Operation.Kind)
  | other (text : String)
deriving DecidableEq

def ReplyFault.text : ReplyFault → String
  | unreadable k => k.name ++ ": error decoding response body"
  | empty k => k.name ++ ": missing payload"
  | other text => text

/-- Why a call of an agent failed. -/
inductive ClientError where
  | transport (fault : TransportFault)
  | decode (fault : ReplyFault)
  | remote (s : Status)
  | configuration (text : String)
deriving DecidableEq

namespace ClientError

/-- The text of an error. -/
def message : ClientError → String
  | transport fault => "transport error: " ++ fault.text
  | decode fault => "invalid response: " ++ fault.text
  | remote s => "agent error: " ++ s.describe
  | configuration text => "configuration error: " ++ text

/-- The code that the agent reported. -/
def code? : ClientError → Option UInt32
  | remote s => some s.code
  | _ => none

def isNotFound (e : ClientError) : Bool := e.code? == some Status.Code.notFound

/-- Whether the same call may succeed later. -/
def isRetriable : ClientError → Bool
  | transport _ => true
  | _ => false

end ClientError

end SwitchFleet

/-!
# Errors of the device store

* `StoreError`: why a command of the device store failed.
* `StoreError.isRetriable`: whether the same command may succeed later.
* `AgentError`: why an agent could not start.
-/

namespace SwitchFleet

/-- A fault of the protocol that the device store speaks. -/
inductive ProtocolFault where
  | connection (text : String)
  | type (text : String)
deriving DecidableEq

def ProtocolFault.text : ProtocolFault → String
  | connection text => text
  | type text => text

/-- Why a command of the device store failed. -/
inductive StoreError where
  | unknownDatabase (name : String)
  | protocol (fault : ProtocolFault)
  | unavailable (reason : String)
deriving DecidableEq

namespace StoreError

def message : StoreError → String
  | unknownDatabase name => "unknown database name: " ++ name
  | protocol fault => "redis error: " ++ fault.text
  | unavailable reason => "store unavailable: " ++ reason

/-- Whether the same command may succeed later. -/
def isRetriable : StoreError → Bool
  | unknownDatabase _ => false
  | protocol (.connection _) => true
  | protocol (.type _) => false
  | unavailable _ => true

end StoreError

/-- Why an agent could not start. -/
inductive AgentError where
  | store (e : StoreError)
  | listener (reason : String)
deriving DecidableEq

def AgentError.message : AgentError → String
  | store e => "store error: " ++ e.message
  | listener reason => "I/O error: " ++ reason

end SwitchFleet

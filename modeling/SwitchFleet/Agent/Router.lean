import SwitchFleet.Agent.Operations
import SwitchFleet.Http.Basic

/-!
# The protocol of an agent

Each device operation has a path of its own. A reply is sent with the code of success, whatever the
status in it.

* `Agent.respond`: the response of an agent to a request.
* `Agent.replyTo`: the reply to an operation, in which a failure names the operation.
-/

namespace SwitchFleet

/-- What the failure of an operation is introduced by. -/
def Operation.Kind.context? : Operation.Kind → Option String
  | deviceInfo => none
  | interfaces => some "failed to list interfaces"
  | setAdminStatus => none
  | interface => some "failed to get interface"
  | peer => some "failed to get interface neighbor"
  | ports => some "failed to list ports"

/-- The status of an operation that failed, as it is sent. -/
def Operation.Kind.explain (k : Operation.Kind) (s : Status) : Status :=
  match k.context? with
  | none => s
  | some context => s.within context

namespace Agent

/-- The reply to an operation with a given outcome. -/
def replyTo (op : Operation) (outcome : Except Status op.Report) : Http.Response :=
  .json 200 ((Reply.codec op.kind.codec).encode (.ofResult (outcome.mapError op.kind.explain)))

/-- The response to a request for an operation. -/
def respondTo (k : Operation.Kind) (r : Http.Request) : Run Http.Response :=
  if r.method ≠ "POST" then return .bare 405
  else
    match Operation.ofBody (Http.decodeBody r) k with
    | .error response => return response
    | .ok op => do return replyTo op (← (perform op).run)

/-- The response of an agent to a request. -/
def respond (r : Http.Request) : Run Http.Response :=
  if r.path = "/health" then return Http.get r.method (Http.healthy "switch-agent")
  else if r.path = "/ready" then return Http.get r.method (.text 200 "ready")
  else
    match Operation.Kind.all.find? fun k => k.path = r.path with
    | some k => respondTo k r
    | none => return .bare 404

end Agent

end SwitchFleet

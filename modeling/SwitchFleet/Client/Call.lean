import SwitchFleet.Client.Error
import SwitchFleet.Http.Basic
import SwitchFleet.Text.Blank

/-!
# Calls of an agent

* `Client.baseUrl`: the address of an agent as the beginning of URLs.
* `Client.request`: the request for an operation.
* `Client.interpret`: the outcome that a response stands for.
* `Client.perform`: an operation over an exchange of requests and responses.
-/

namespace SwitchFleet.Client

/-- The address of an agent as the beginning of URLs. An empty address stands for the default one,
and an address that is a URL already keeps its scheme. -/
def baseUrl (address : String) : String :=
  let address := if address.isEmpty then Agent.defaultAddress else address
  if Text.contains "://".toList address.toList then
    String.ofList (Text.dropEndWhile (· == '/') address.toList)
  else "http://" ++ address

/-- The URL of an operation. -/
def url (base : String) (k : Operation.Kind) : String := base ++ k.path

/-- The request for an operation. -/
def request (op : Operation) : Http.Request :=
  ⟨"POST", op.kind.path, some Http.MediaType.json, op.body.render⟩

/-- The outcome that a reply stands for. A reply that reports success has to hold a report. -/
def outcome (k : Operation.Kind) (r : Reply k.Report) : Except ClientError k.Report :=
  match r.result with
  | .error s => .error (.remote s)
  | .ok none => .error (.decode (.empty k))
  | .ok (some x) => .ok x

/-- The outcome that a response stands for, or the lack of one. -/
def interpret (base : String) (k : Operation.Kind) :
    Option Http.Response → Except ClientError k.Report
  | none => .error (.transport (.unreachable k (url base k)))
  | some r =>
    if r.isSuccess then
      match (Reply.codec k.codec).decodeText r.body with
      | .error _ => .error (.decode (.unreadable k))
      | .ok reply => outcome k reply
    else .error (.transport (.refused k r.code))

/-- An operation over an exchange of requests and responses, which takes the base of URLs. -/
def perform {σ : Type} (exchange : String → Http.Request → σ → Option Http.Response × σ)
    (address : String) (op : Operation) (world : σ) : Except ClientError op.Report × σ :=
  let base := baseUrl address
  let (response, world) := exchange base (request op) world
  (interpret base op.kind response, world)

/-- The exchange in which nothing can be reached. -/
def noExchange {σ : Type} (_ : String) (_ : Http.Request) (world : σ) :
    Option Http.Response × σ :=
  (none, world)

end SwitchFleet.Client

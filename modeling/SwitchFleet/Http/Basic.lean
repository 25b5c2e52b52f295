import SwitchFleet.Http.MediaType
import SwitchFleet.Http.Reason
import SwitchFleet.Json.Codec

/-!
# Requests and responses

* `Http.Request`, `Http.Response`: the messages of the protocol.
* `Http.Response.json`, `Http.Response.text`, `Http.Response.bare`: responses with and without a body.
* `Http.decodeBody`: the value in the body of a request, or the response to a body without one.
-/

namespace SwitchFleet.Http

/-- A request. -/
structure Request where
  method : String
  /-- The path with the query after it. -/
  target : String
  contentType : Option String
  body : String
deriving DecidableEq

/-- A response. -/
structure Response where
  code : Nat
  contentType : Option String
  body : String
deriving DecidableEq

namespace Request

/-- The path that a request is for, without the query. -/
def path (r : Request) : String :=
  String.ofList (r.target.toList.takeWhile fun c => c != '?' && c != '#')

end Request

namespace Response

def json (code : Nat) (v : Json) : Response := ⟨code, some MediaType.json, v.render⟩

/-- A response with a plain text. -/
def text (code : Nat) (s : String) : Response := ⟨code, some MediaType.plain, s⟩

/-- A response without a body. -/
def bare (code : Nat) : Response := ⟨code, none, ""⟩

def isSuccess (r : Response) : Bool := 200 ≤ r.code && r.code < 300

/-- The response to the same request without a body. -/
def withoutBody (r : Response) : Response := { r with body := "" }

end Response

/-! ## Bodies -/

/-- The number of bytes that the body of a request may have. -/
def bodyLimit : Nat := 2097152

/-- The code of the response to a body that does not hold a value. -/
def faultCode : Fault → Nat
  | .malformed => 400
  | .mismatch => 422

/-- The value in the body of a request, or the response to a body without one. -/
def decodeBody (r : Request) {α : Type} (c : Codec α) : Except Response α :=
  if !(r.contentType.any MediaType.isJson) then .error (.bare 415)
  else if bodyLimit < r.body.utf8ByteSize then .error (.bare 413)
  else (c.decodeText r.body).mapError fun f => .bare (faultCode f)

/-! ## Health -/

/-- The response to a request that only takes one response, which is read with `GET`, or with `HEAD`
to see it without its body. -/
def get (method : String) (response : Response) : Response :=
  if method = "GET" then response
  else if method = "HEAD" then response.withoutBody
  else .bare 405

/-- The response about the health of a service. -/
def healthy (service : String) : Response :=
  .json 200 (.ofMembers [("status", .string "healthy"), ("service", .string service)])

end SwitchFleet.Http

import SwitchFleet.Controller.Verb
import SwitchFleet.Http.Basic

/-!
# Resources of a cluster

The verbs on resources as requests to the cluster, and the outcomes that its responses stand for.

* `ClusterApi.request`: the request for a verb.
* `ClusterApi.interpret`: the outcome that a response stands for.
* `ClusterApi.perform`: a verb over an exchange of requests and responses.
-/

namespace SwitchFleet.ClusterApi

variable {Spec Status : Type}

/-- The name under which the operator applies resources. -/
def fieldManager : String := "switch-controller"

/-- The media type of merge patches. -/
def mergePatchType : String := "application/merge-patch+json"

/-- The media type of resources that are applied. -/
def applyPatchType : String := "application/apply-patch+yaml"

/-! ## Requests -/

/-- The path of all resources of a kind. -/
def collectionPath (s : Schema Spec Status) : String :=
  "/apis/" ++ Group.apiVersion ++ "/" ++ s.plural

def isPathChar (c : Char) : Bool :=
  let n := c.toNat
  0x21 ≤ n && c != '<' && c != '>' && c != '\x60' && c != '?'

def isQueryChar (c : Char) : Bool :=
  let n := c.toNat
  0x21 ≤ n && c != '"' && c != '<' && c != '>'

/-- A path with a query as it is sent: without what follows a number sign, and only if all of its
characters may stand where they stand. -/
def target? (s : String) : Option String :=
  let cs := s.toList.takeWhile (· != '#')
  let path := cs.takeWhile (· != '?')
  let query := (cs.dropWhile (· != '?')).drop 1
  if path.all isPathChar && query.all isQueryChar then some (String.ofList cs) else none

/-- The path of a resource, followed by a text. -/
def targetOf (s : Schema Spec Status) (name rest : String) : Except ControllerError String :=
  if name.isEmpty then .error (.cluster .invalidName)
  else
    match target? (collectionPath s ++ "/" ++ name ++ rest) with
    | some target => .ok target
    | none => .error (.cluster .invalidName)

/-- A request that changes a resource. -/
def patchRequest (target contentType : String) (body : Json) : Http.Request :=
  ⟨"PATCH", target, some contentType, body.render⟩

/-- The request for a verb. -/
def request (s : Schema Spec Status) : Verb Spec Status → Except ControllerError Http.Request
  | .get name => do return ⟨"GET", ← targetOf s name "", none, ""⟩
  | .patchFinalizers name finalizers => do
    let body := Json.ofMembers
      [("metadata", .ofMembers [("finalizers", .strings finalizers)])]
    return patchRequest (← targetOf s name "?") mergePatchType body
  | .patchStatus name patch => do
    let body := Json.ofMembers [("status", patch)]
    return patchRequest (← targetOf s name "/status?") mergePatchType body
  | .apply o => do
    let name ← o.name
    let target ← targetOf s name ("?&force=true&fieldManager=" ++ fieldManager)
    return patchRequest target applyPatchType (s.codec.encode o)

/-! ## Responses -/

/-- How a response refuses a request. A body that does not say so is quoted. -/
def refusal (r : Http.Response) : ApiStatus :=
  match ApiStatus.codec.decodeText r.body with
  | .ok s => s
  | .error _ =>
    ⟨Http.describeCode r.code, Text.quote r.body, "Failed to parse error data",
      UInt16.ofNat r.code⟩

/-- The resource that a response holds. -/
def object (s : Schema Spec Status) : Option Http.Response →
    Except ControllerError (Object Spec Status)
  | none => .error (.cluster .unreachable)
  | some r =>
    if 400 ≤ r.code then .error (.cluster (.refused (refusal r)))
    else
      match s.codec.decodeText r.body with
      | .ok o => .ok o
      | .error _ => .error (.cluster .unreadable)

/-- Whether a request was refused because there is no such resource. -/
def isNotFound : ControllerError → Bool
  | .cluster (.refused s) => s.reason == "NotFound"
  | _ => false

/-- The outcome of reading a resource, given the resource in the response. -/
def found : Except ControllerError (Object Spec Status) →
    Except ControllerError (Option (Object Spec Status))
  | .ok o => .ok (some o)
  | .error e => if isNotFound e then .ok none else .error e

/-- The outcome that a response stands for. -/
def interpret (s : Schema Spec Status) :
    (v : Verb Spec Status) → Option Http.Response → v.Outcome
  | .get _, r => found (object s r)
  | .patchFinalizers .., r => (object s r).map fun _ => ()
  | .patchStatus .., r => (object s r).map fun _ => ()
  | .apply _, r => (object s r).map fun _ => ()

/-- A verb over an exchange of requests and responses. -/
def perform {σ : Type} (exchange : Http.Request → σ → Option Http.Response × σ)
    (s : Schema Spec Status) (v : Verb Spec Status) (world : σ) : v.Outcome × σ :=
  match request s v with
  | .error e => (.error e, world)
  | .ok r =>
    let (response, world) := exchange r world
    (interpret s v response, world)

end SwitchFleet.ClusterApi

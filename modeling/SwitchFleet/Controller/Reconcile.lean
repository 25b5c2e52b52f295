import SwitchFleet.Controller.Query
import SwitchFleet.Json.MergePatch

/-!
# Reconciling resources

What reconciling a resource has in common for all kinds. A resource that is being deleted loses its
finalizer. A new resource gets the finalizer first. Any other is compared with the device. The status
that comes of it, with a condition that tells whether the resource is ready, is written back even if
the comparison failed.

* `Kind`: what has to be known about a kind of resource.
* `Observation`: the comparison with a device, which changes a status as it goes.
* `reconcile`: one attempt at a resource.
-/

namespace SwitchFleet.Controller

/-- What has to be known about a kind of resource. -/
structure Kind (Spec Status : Type) where
  schema : Schema Spec Status
  send : (v : Verb Spec Status) → Run v.Outcome
  /-- The status of a resource that was not seen yet. -/
  empty : Status
  state : Status → Option Lifecycle
  setState : Lifecycle → Status → Status
  conditions : Status → List Condition
  setConditions : List Condition → Status → Status
  /-- Whether an error stays until the resource is changed, so that another attempt is of no use. -/
  isLasting : ControllerError → Bool

/-- The comparison with a device, which changes a status as it goes. -/
abbrev Observation (Status α : Type) : Type := ExceptT ControllerError (StateT Status Run) α

variable {Spec Status α : Type}

namespace Kind

/-- A program over verbs as a program of the operator. -/
def perform (k : Kind Spec Status) (t : Verb.Task Spec Status α) : Task α :=
  ExceptT.mk (t.run.answerWith k.send)

/-- A part of a comparison that leaves the state of the resource as it is if it fails. -/
def attempt (t : Task α) : Observation Status α :=
  ExceptT.mk fun s => do return (← t.run, s)

/-- A part of a comparison that makes the resource failed if it fails. -/
def orFail (k : Kind Spec Status) (t : Task α) : Observation Status α :=
  ExceptT.mk fun s => do
    match ← t.run with
    | .ok a => return (.ok a, s)
    | .error e => return (.error e, k.setState .failed s)

/-- A report of an agent, without which the resource is failed. -/
def reportOrFail (k : Kind Spec Status) (address : String) (op : Operation) :
    Observation Status op.Report :=
  k.orFail (ExceptT.mk do return (← call address op).mapError .agent)

/-- A conversion, without which the resource is failed. -/
def convertOrFail (k : Kind Spec Status) (x : Except ConversionError α) : Observation Status α :=
  k.orFail (ExceptT.mk (pure (x.mapError .conversion)))

/-- The comparison with the device, once the resource has a state. A new resource gets one. -/
def sinceSeen (k : Kind Spec Status) (observe : Observation Status Action) :
    Observation Status Action := do
  if (k.state (← get)).isNone then
    modify (k.setState .pending)
    return .requeue 0
  observe

end Kind

/-! ## Conditions -/

/-- The condition of a resource in a given state. -/
def readyCondition (state : Lifecycle) (error : Option ControllerError) (now : String)
    (generation : Option Int64) : Condition :=
  match state, error with
  | .pending, _ =>
    .ready false "Pending" "waiting for the first reconcile" now generation
  | .ready, _ => .ready true "Reconciled" "reconciled with the switch agent" now generation
  | .failed, some e => .ready false e.reason e.message now generation
  | .failed, none => .ready false "AgentError" "reconcile failed" now generation

/-- The error of an outcome. -/
def error? (r : Except ControllerError α) : Option ControllerError :=
  match r with
  | .ok _ => none
  | .error e => some e

/-- A status with the condition that follows from an outcome. -/
def Kind.withCondition (k : Kind Spec Status) (generation : Option Int64)
    (outcome : Except ControllerError Action) (status : Status) : Run Status :=
  match k.state status with
  | none => return status
  | some state => do
    let condition := readyCondition state (error? outcome) (← now) generation
    return k.setConditions (Condition.set (k.conditions status) condition) status

/-! ## Attempts -/

/-- The merge patch from one status to another. -/
def Kind.statusPatch (k : Kind Spec Status) (before after : Status) : Json :=
  (k.schema.status.encode before).diff (k.schema.status.encode after)

/-- Writes a status back. Nothing is written if the status did not change. -/
def Kind.flush (k : Kind Spec Status) (name : String) (before after : Status) : Task Unit :=
  let patch := k.statusPatch before after
  if patch.isEmptyPatch then return () else k.perform (Verb.ask (.patchStatus name patch))

/-- The outcome of an attempt, given that of writing the status back. An error of the attempt
itself counts more. -/
def settle (outcome : Except ControllerError Action) (flushed : Except ControllerError Unit) :
    Except ControllerError Action :=
  match outcome with
  | .error e => .error e
  | .ok action => flushed.map fun _ => action

/-- The outcome of an attempt that ends in a lasting error is to wait for a change. -/
def Kind.excuse (k : Kind Spec Status) :
    Except ControllerError Action → Except ControllerError Action
  | .error e => if k.isLasting e then .ok .awaitChange else .error e
  | .ok action => .ok action

/-- Compares a resource with the device, and writes the status that comes of it back. -/
def Kind.compare (k : Kind Spec Status) (observe : Observation Status Action) (name : String)
    (o : Object Spec Status) : Task Action :=
  ExceptT.mk do
    let before := o.status.getD k.empty
    let (outcome, status) ← (k.sinceSeen observe).run.run before
    let after ← k.withCondition o.metadata.generation outcome status
    let flushed ← (k.flush name before after).run
    return settle (k.excuse outcome) flushed

/-- One attempt at a resource. -/
def Kind.reconcile (k : Kind Spec Status)
    (observe : Object Spec Status → String → Observation Status Action)
    (o : Object Spec Status) : Task Action := do
  let name ← o.name
  if o.metadata.isDeleting then
    let _ ← k.perform (ensureNoFinalizer o Group.finalizer)
    return .awaitChange
  if ← k.perform (ensureFinalizer o Group.finalizer) then return .requeue 0
  k.compare (observe o name) name o

end SwitchFleet.Controller

import SwitchFleet.Controller.Interfaces
import SwitchFleet.Controller.Switches
import SwitchFleet.Controller.Testbed

/-!
# Collections of resources

The resources of one kind in a cluster in memory, whatever the kind.

* `Controller.Collection`: a kind of resource with its place in a cluster.
* `Controller.Collection.attempt`: one attempt at a resource.
* `Controller.Collection.perform`: a program over verbs.
-/

namespace SwitchFleet.Controller

/-- A kind of resource with its place in a cluster. -/
structure Collection where
  {Spec Status : Type}
  schema : Schema Spec Status
  store : Testbed → ObjectStore Spec Status
  setStore : ObjectStore Spec Status → Testbed → Testbed
  reconcile : Object Spec Status → Task Action

namespace Collection

/-- The switches of a cluster. -/
def switches : Collection :=
  ⟨Switch.schema, Testbed.switches, fun switches t => { t with switches }, reconcileSwitch⟩

/-- The interfaces of a cluster. -/
def interfaces : Collection :=
  ⟨SwitchInterface.schema, Testbed.interfaces, fun interfaces t => { t with interfaces },
    reconcileInterface⟩

/-- The collection of a kind. -/
def ofKind (kind : String) : Collection :=
  if kind = Switch.schema.kind then switches else interfaces

variable (c : Collection)

/-- The resource of a collection that a JSON value holds. -/
def object? (v : Json) : Option (Object c.Spec c.Status) := (c.schema.codec.decodeJson v).toOption

/-- The resource with a name. -/
def find? (name : String) (t : Testbed) : Option (Object c.Spec c.Status) :=
  (c.store t).objects.get? name

/-- The cluster after the resources of a collection were changed. -/
def modify (f : ObjectStore c.Spec c.Status → ObjectStore c.Spec c.Status) (t : Testbed) :
    Testbed :=
  c.setStore (f (c.store t)) t

/-- The cluster with a resource that a JSON value holds, if it holds one. -/
def insertJson (t : Testbed) (v : Json) : Testbed :=
  match c.object? v with
  | some o => c.modify (·.put o) t
  | none => t

/-- The cluster with a resource changed by a merge patch, if there is such a resource. -/
def edit? (name : String) (patch : Json) (t : Testbed) : Option Testbed :=
  ((c.store t).edit? c.schema name patch).map fun store => c.setStore store t

/-- The cluster in which only the given verbs are rejected, apart from that of applying. -/
def rejectOnly (names : List String) (t : Testbed) : Testbed :=
  [Verb.Kind.get, .patchFinalizers, .patchStatus].foldl
    (fun t k => c.modify (·.reject k (names.contains k.name)) t) t

/-- One attempt at a resource: its outcome, and the cluster after it. -/
def attempt (o : Object c.Spec c.Status) (t : Testbed) :
    Except ControllerError Action × Testbed :=
  (c.reconcile o).run.run Testbed.answer t

/-- A program over verbs: its outcome, and the cluster after it. -/
def perform {α : Type} (task : Verb.Task c.Spec c.Status α) (t : Testbed) :
    Except ControllerError α × Testbed :=
  let (outcome, store) := task.run.run (fun v store => store.answer c.schema v) (c.store t)
  (outcome, c.setStore store t)

end Collection

end SwitchFleet.Controller

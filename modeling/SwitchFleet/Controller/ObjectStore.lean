import SwitchFleet.Controller.Verb
import SwitchFleet.Json.MergePatch

/-!
# Resources in memory

The resources of one kind, kept in memory and changed in the way the cluster changes them. A resource
that is being deleted goes away with its last finalizer.

* `ObjectStore`: the resources, and what was done with them.
* `ObjectStore.answer`: the outcome of a verb, and the store after it.
-/

namespace SwitchFleet

/-- The resources of one kind. -/
structure ObjectStore (Spec Status : Type) where
  objects : Keyed (Object Spec Status)
  /-- The patches of statuses so far, first one first. -/
  statusPatches : List (String × Json)
  /-- The names of the resources that were applied so far, first one first. -/
  applied : List String
  rejected : List Verb.Kind

namespace ObjectStore

variable {Spec Status : Type}

def empty : ObjectStore Spec Status := ⟨[], [], [], []⟩

/-- The store with a resource added or replaced. -/
def insert (name : String) (o : Object Spec Status) (t : ObjectStore Spec Status) :
    ObjectStore Spec Status :=
  { t with objects := t.objects.put name o }

/-- The store with a resource added or replaced under its own name. -/
def put (o : Object Spec Status) (t : ObjectStore Spec Status) : ObjectStore Spec Status :=
  t.insert (o.metadata.name.getD "") o

/-- The store with a resource changed by a merge patch, if there is such a resource and it is still
one after the change. -/
def edit? (s : Schema Spec Status) (name : String) (patch : Json) (t : ObjectStore Spec Status) :
    Option (ObjectStore Spec Status) := do
  let o ← t.objects.get? name
  let o ← (s.codec.decodeJson ((s.codec.encode o).patch patch)).toOption
  return t.put o

/-- The store that rejects a verb, or accepts it again. -/
def reject (k : Verb.Kind) (rejects : Bool) (t : ObjectStore Spec Status) :
    ObjectStore Spec Status :=
  let others := t.rejected.filter (· != k)
  { t with rejected := if rejects then k :: others else others }

/-- The store without what was recorded so far. -/
def forget (t : ObjectStore Spec Status) : ObjectStore Spec Status :=
  { t with statusPatches := [], applied := [] }

/-! ## Verbs -/

/-- The error about a verb that the store rejects. -/
def rejection (k : Verb.Kind) : ControllerError := .configuration (k.name ++ " rejected")

/-- The error about a resource that does not exist. -/
def notFound (name : String) : ControllerError :=
  .cluster (.refused ⟨"Failure", name ++ " not found", "NotFound", 404⟩)

/-- The status of a resource after a merge patch. A resource without a status has an empty one. -/
def patchedStatus (s : Schema Spec Status) (o : Object Spec Status) (patch : Json) :
    Except Fault (Option Status) :=
  s.status.option.decodeJson (((o.status.map s.status.encode).getD (.object [])).patch patch)

/-- The resource that takes the place of another one when it is applied: it keeps the status, the
identity and the finalizers that are there. -/
def replacing (old new : Object Spec Status) : Object Spec Status :=
  { new with
    metadata := { new.metadata with
      uid := old.metadata.uid.or new.metadata.uid
      finalizers := old.metadata.finalizers.or new.metadata.finalizers }
    status := old.status.or new.status }

/-- The store after a resource got other finalizers. -/
def setFinalizers (name : String) (finalizers : List String) (o : Object Spec Status)
    (t : ObjectStore Spec Status) : ObjectStore Spec Status :=
  if finalizers.isEmpty && o.metadata.isDeleting then { t with objects := t.objects.erase name }
  else
    let kept := if finalizers.isEmpty then none else some finalizers
    t.insert name { o with metadata := { o.metadata with finalizers := kept } }

/-- The store after a resource was applied. -/
def applyObject (name : String) (o : Object Spec Status) (t : ObjectStore Spec Status) :
    ObjectStore Spec Status :=
  let o := match t.objects.get? name with
    | some old => replacing old o
    | none => o
  { t.insert name o with applied := t.applied ++ [name] }

/-- The outcome of a verb that is not rejected, and the store after it. -/
def accept (s : Schema Spec Status) : (v : Verb Spec Status) → ObjectStore Spec Status →
    v.Outcome × ObjectStore Spec Status
  | .get name, t => (.ok (t.objects.get? name), t)
  | .patchFinalizers name finalizers, t =>
    match t.objects.get? name with
    | none => (.error (notFound name), t)
    | some o => (.ok (), t.setFinalizers name finalizers o)
  | .patchStatus name patch, t =>
    match t.objects.get? name with
    | none => (.error (notFound name), t)
    | some o =>
      match patchedStatus s o patch with
      | .error _ => (.error .serialization, t)
      | .ok status =>
        (.ok (), { t.insert name { o with status } with
          statusPatches := t.statusPatches ++ [(name, patch)] })
  | .apply o, t =>
    match o.name with
    | .error e => (.error e, t)
    | .ok name => (.ok (), t.applyObject name o)

/-- The outcome of a verb, and the store after it. -/
def answer (s : Schema Spec Status) (v : Verb Spec Status) (t : ObjectStore Spec Status) :
    v.Outcome × ObjectStore Spec Status :=
  if t.rejected.contains v.kind then (.error (rejection v.kind), t) else t.accept s v

end ObjectStore

end SwitchFleet

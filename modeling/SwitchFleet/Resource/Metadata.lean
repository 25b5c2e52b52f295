import SwitchFleet.Instant

/-!
# Metadata of resources

What the cluster keeps about every resource, whatever its kind.

* `OwnerReference`: the resource that another one belongs to.
* `Metadata`: the name of a resource, its finalizers, labels and owners, and whether it is being
  deleted.
* `Group`: the names that all resources of the operator share.
-/

namespace SwitchFleet

/-! ## Names of the group -/

namespace Group

/-- The group of the operator's resources. -/
def name : String := "networking.metal.ironcore.dev"

def version : String := "v1alpha1"

def apiVersion : String := name ++ "/" ++ version

/-- The finalizer that the operator sets on its resources. -/
def finalizer : String := name ++ "/switch-operator"

/-- The label with the name of the switch that an interface belongs to. -/
def switchLabel : String := name ++ "/switch"

end Group

/-! ## Owners -/

/-- The resource that another one belongs to. -/
structure OwnerReference where
  apiVersion : String
  blockOwnerDeletion : Option Bool
  controller : Option Bool
  kind : String
  name : String
  uid : String
deriving DecidableEq

/-- A text, which is empty where the document has `null`. -/
def textOrNull : Codec String where
  encode := .string
  decode
    | .null => .ok ""
    | d => Codec.text.decode d

/-- An owner as JSON. Missing texts are empty. -/
def OwnerReference.codec : Codec OwnerReference :=
  (Record.of OwnerReference.mk
    |>.defaulted "apiVersion" apiVersion textOrNull ""
    |>.optional "blockOwnerDeletion" blockOwnerDeletion .bool
    |>.optional "controller" controller .bool
    |>.defaulted "kind" kind textOrNull ""
    |>.defaulted "name" name textOrNull ""
    |>.defaulted "uid" uid textOrNull "").objectCodec

/-! ## Metadata -/

/-- What the cluster keeps about every resource. -/
structure Metadata where
  name : Option String
  uid : Option String
  generation : Option Int64
  finalizers : Option (List String)
  labels : Option (Keyed String)
  annotations : Option (Keyed String)
  resourceVersion : Option String
  deletionTimestamp : Option Instant
  ownerReferences : Option (List OwnerReference)
deriving DecidableEq

namespace Metadata

/-- Metadata of a resource that has nothing but a name. -/
def named (name : String) : Metadata :=
  ⟨some name, none, none, none, none, none, none, none, none⟩

/-- Metadata as JSON. Every part of it may be missing. -/
def codec : Codec Metadata :=
  (Record.of Metadata.mk
    |>.optional "name" name .text
    |>.optional "uid" uid .text
    |>.optional "generation" generation .int64
    |>.optional "finalizers" finalizers (.list .text)
    |>.optional "labels" labels (.keyed .text)
    |>.optional "annotations" annotations (.keyed .text)
    |>.optional "resourceVersion" resourceVersion .text
    |>.optional "deletionTimestamp" deletionTimestamp Instant.codec
    |>.optional "ownerReferences" ownerReferences (.list OwnerReference.codec)).objectCodec

def isDeleting (m : Metadata) : Bool := m.deletionTimestamp.isSome

/-- The finalizers of a resource. -/
def finalizerList (m : Metadata) : List String := m.finalizers.getD []

end Metadata

end SwitchFleet

import SwitchFleet.Resource.Metadata

/-!
# Resources

A resource has metadata, a specification of what is wanted, and a status of what was observed.

* `Object`: a resource with specifications and statuses of given types.
* `Schema`: the kind of a resource and the codecs of its parts.
* `Schema.codec`: a resource as JSON.
-/

namespace SwitchFleet

/-- A resource. -/
structure Object (Spec Status : Type) where
  metadata : Metadata
  spec : Spec
  status : Option Status
deriving DecidableEq

/-- The kind of a resource, and the codecs of its parts. -/
structure Schema (Spec Status : Type) where
  kind : String
  plural : String
  spec : Codec Spec
  status : Codec Status

namespace Schema

variable {Spec Status : Type} (s : Schema Spec Status)

/-- The parts of a resource. An array must give the status. -/
def record : Record (Object Spec Status) (Object Spec Status) :=
  Record.of Object.mk
    |>.required "metadata" Object.metadata Metadata.codec
    |>.required "spec" Object.spec s.spec
    |>.field "status" Object.status s.status.option (.named none) Option.isNone

/-- A resource as JSON. Its version and its kind are written, and not looked at on reading. -/
def codec : Codec (Object Spec Status) where
  encode x := Json.ofMembers <|
    ("apiVersion", .string Group.apiVersion) :: ("kind", .string s.kind) :: s.record.write x
  decode := s.record.codec.decode

end Schema

end SwitchFleet

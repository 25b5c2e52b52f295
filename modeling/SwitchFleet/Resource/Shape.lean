import SwitchFleet.Json.Basic

/-!
# Shapes

The description of the values of a type, in the form in which a cluster wants to have it: the kind of
value, its parts, and texts for people.

* `Shape`: the members of the object that describes a type.
* `Shape.text`, `Shape.oneOf`, `Shape.int64`, `Shape.listOf`, `Shape.objectOf`: the kinds of value.
* `Shape.about`, `Shape.orElse`, `Shape.nullable`: what may be said about any of them.
-/

namespace SwitchFleet

/-- The members of the object that describes a type. -/
abbrev Shape : Type := List (String × Json)

namespace Shape

def json (s : Shape) : Json := .ofMembers s

/-- Texts. -/
def text : Shape := [("type", .string "string")]

/-- Texts out of a list. -/
def oneOf (names : List String) : Shape := ("enum", .strings names) :: text

/-- Integers of 64 bits. -/
def int64 : Shape := [("format", .string "int64"), ("type", .string "integer")]

def listOf (items : Shape) : Shape := [("items", items.json), ("type", .string "array")]

/-- Objects with given members, some of which must be there. -/
def objectOf (members : List (String × Shape)) (required : List String) : Shape :=
  [("properties", .ofMembers (members.map fun m => (m.1, m.2.json))), ("type", .string "object")] ++
    if required.isEmpty then [] else [("required", .strings required)]

/-- A shape with a text for people. -/
def about (description : String) (s : Shape) : Shape := ("description", .string description) :: s

/-- A shape whose value may be missing and is then a given one. -/
def orElse (v : Json) (s : Shape) : Shape := ("default", v) :: s

/-- A shape whose value may be `null`. -/
def nullable (s : Shape) : Shape := ("nullable", .bool true) :: s

end Shape

end SwitchFleet

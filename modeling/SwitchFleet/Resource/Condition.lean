import SwitchFleet.Json.Codec

/-!
# Conditions

A condition is one observation about a resource: its type, whether it holds, why, and since when.
A resource has at most one condition of each type.

* `Condition.codec`: a condition as JSON.
* `Condition.set`: a list of conditions with one of them set. The time of the last change is kept as
  long as the truth of the condition stays the same.
* `Condition.find?`: the condition of a type.
-/

namespace SwitchFleet

/-- Whether a condition holds. -/
inductive Truth where
  | yes
  | no
  | unknown
deriving DecidableEq

namespace Truth

def name : Truth → String
  | yes => "True"
  | no => "False"
  | unknown => "Unknown"

def all : List Truth := [yes, no, unknown]

def codec : Codec Truth := .names all name

/-- The truth value of a decision. -/
def ofBool (b : Bool) : Truth := if b then yes else no

end Truth

/-- One observation about a resource. -/
structure Condition where
  type : String
  status : Truth
  /-- One word for machines. -/
  reason : String
  /-- A text for people. -/
  message : String
  /-- When the truth of the condition last changed. -/
  lastTransitionTime : String
  observedGeneration : Option Int64
deriving DecidableEq

namespace Condition

/-- A condition as JSON. Its type and its truth must be given. -/
def codec : Codec Condition :=
  (Record.of Condition.mk
    |>.required "type" type .text
    |>.required "status" status Truth.codec
    |>.defaulted "reason" reason .text ""
    |>.defaulted "message" message .text ""
    |>.defaulted "lastTransitionTime" lastTransitionTime .text ""
    |>.optional "observedGeneration" observedGeneration .int64).codec

/-- The type of the condition that tells whether a resource is ready. -/
def readyType : String := "Ready"

/-- The condition that tells whether a resource is ready. -/
def ready (isReady : Bool) (reason message now : String) (generation : Option Int64) : Condition :=
  ⟨readyType, .ofBool isReady, reason, message, now, generation⟩

/-- A condition that replaces another one of its type. -/
def replacing (old new : Condition) : Condition :=
  if old.status = new.status then { new with lastTransitionTime := old.lastTransitionTime } else new

/-- The conditions with one of them set. A condition of a new type is added at the end. -/
def set (conditions : List Condition) (new : Condition) : List Condition :=
  match conditions with
  | [] => [new]
  | old :: rest =>
    if old.type = new.type then replacing old new :: rest else old :: set rest new

/-- The condition of a type. -/
def find? (conditions : List Condition) (type : String) : Option Condition :=
  conditions.find? fun c => c.type == type

end Condition

end SwitchFleet

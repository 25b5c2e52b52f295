import SwitchFleet.Json.Codec

/-!
# Line statuses

The administrative or operational status of a device component: up, down, or not known.

* `LineStatus.ofField`: the status that a field of the device store stands for.
* `LineStatus.parse`: the status that a person asks for, which is up or down.
-/

namespace SwitchFleet

/-- The administrative or operational status of a device component. -/
inductive LineStatus where
  | up
  | down
  | unknown
deriving DecidableEq

namespace LineStatus

/-- The statuses in the order of their declaration. -/
def all : List LineStatus := [up, down, unknown]

def text : LineStatus → String
  | up => "up"
  | down => "down"
  | unknown => "unknown"

/-- The status that a field of the device store stands for: everything but `up` is down. -/
def ofField (value : String) : LineStatus := if value = "up" then up else down

/-- The status with a given text. Other texts stand for a status that is not known. -/
def ofText (s : String) : LineStatus :=
  if s = "up" then up else if s = "down" then down else unknown

def codec : Codec LineStatus := .names all text

/-- A text that asks for no status. -/
structure Invalid where
  text : String
deriving DecidableEq

def Invalid.message (e : Invalid) : String :=
  "invalid device status: " ++ e.text ++ ", it has to be 'up' or 'down'"

/-- The status that a person asks for, which is up or down. -/
def parse (s : String) : Except Invalid LineStatus :=
  if s = "up" then .ok up else if s = "down" then .ok down else .error ⟨s⟩

end LineStatus

end SwitchFleet

import SwitchFleet.Store.Content
import SwitchFleet.Store.Error

/-!
# Commands of the device store

* `Connection`: a connection to one logical database.
* `Command`: what a database can be asked over a connection.
* `Command.Answer`: what a command that succeeds answers.
-/

namespace SwitchFleet

/-- A connection to one logical database. -/
structure Connection where
  /-- The name under which the database was asked for. -/
  name : String
  database : Database
  /-- The number of connections that were opened before this one. -/
  serial : Nat
deriving DecidableEq

/-- What a database can be asked. -/
inductive Command where
  | fields (key : String)
  | setField (key field value : String)
  | has (key : String)
  | keys (pattern : String)
deriving DecidableEq

abbrev Command.Answer : Command → Type
  | fields _ => Hash
  | setField .. => Unit
  | has _ => Bool
  | keys _ => List String

end SwitchFleet

import SwitchFleet.CommandLine.Table
import SwitchFleet.Device.Operation
import SwitchFleet.Text.Casing

/-!
# Sheets

What is shown of a report: a table, or a line with the kind and the name of each object.

* `Sheet`: the table and the objects of a report.
* `Sheet.lines`: a sheet in a given format.
* `Operation.Kind.sheet`: the sheet of the report on an operation.
-/

namespace SwitchFleet

/-- How reports are shown. -/
inductive Format where
  | table
  | basic
deriving DecidableEq

/-- The table and the objects of a report. -/
structure Sheet where
  headers : List String
  rows : List (List String)
  listings : List Listing

namespace Sheet

/-- An object as a line: its kind in lower case and its name. -/
def listingLine (l : Listing) : String := Text.lower l.kind ++ "/" ++ l.name

/-- A sheet in a given format, after a line of introduction if there is one. A line of a table may be
one that cannot be made. -/
def lines (format : Format) (introduction : String) (s : Sheet) : List (Option String) :=
  (if introduction.isEmpty then [] else [some introduction]) ++
    match format with
    | .basic => s.listings.map fun l => some (listingLine l)
    | .table => Table.lines s.headers s.rows

end Sheet

/-- The sheet of a switch. -/
def Device.sheet (d : Device) : Sheet where
  headers := ["Name", "MAC Address", "HW SKU", "Sonic OS Version", "ASIC Type", "Readiness"]
  rows := [[d.listing.name, d.macAddress, d.hardwareSku, d.osVersion, d.asicType,
    toString d.readiness]]
  listings := [d.listing]

/-- The row of an interface. -/
def Interface.row (i : Interface) : List String :=
  [i.name, i.macAddress, i.operational.text, i.admin.text]

/-- The sheet of interfaces. -/
def Interface.sheet (is : List Interface) : Sheet where
  headers := ["Name", "MAC Address", "Operation Status", "Admin Status"]
  rows := is.map Interface.row
  listings := is.map Interface.listing

/-- The sheet of a peer. -/
def Peer.sheet (p : Peer) : Sheet where
  headers := ["Neighbor Name", "Handle", "MAC Address"]
  rows := [[p.systemName, p.handle, p.macAddress]]
  listings := [p.listing]

/-- The sheet of ports. -/
def Port.sheet (ps : List Port) : Sheet where
  headers := ["Name", "Alias"]
  rows := ps.map fun p => [p.name, p.label]
  listings := ps.map Port.listing

/-- The sheet of the report on an operation. -/
def Operation.Kind.sheet : (k : Operation.Kind) → k.Report → Sheet
  | deviceInfo, d => d.sheet
  | interfaces, is => Interface.sheet is
  | setAdminStatus, i => Interface.sheet [i]
  | interface, i => Interface.sheet [i]
  | peer, p => p.sheet
  | ports, ps => Port.sheet ps

/-- The line about a status that an agent reported. -/
def Status.errorLine (s : Status) : String :=
  "server error: " ++ toString s.code ++ ", " ++ s.message

end SwitchFleet

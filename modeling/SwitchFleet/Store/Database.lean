/-!
# Logical databases

The device store is divided into logical databases, each with a name and a number. Two names stand
for one and the same database.

* `Database.ofName?`: the database of a name.
* `Database.index`: the number of a database.
-/

namespace SwitchFleet

/-- A logical database of the device store. -/
inductive Database where
  | application
  | asic
  | counters
  | logLevel
  | configuration
  | flexCounters
  | state
  | snmpOverlay
  | restApi
  | gearboxAsic
  | gearboxCounters
  | gearboxFlexCounters
  | applicationState
deriving DecidableEq

namespace Database

def index : Database → Nat
  | application => 0
  | asic => 1
  | counters => 2
  | logLevel => 3
  | configuration => 4
  | flexCounters => 5
  | state => 6
  | snmpOverlay => 7
  | restApi => 8
  | gearboxAsic => 9
  | gearboxCounters => 10
  | gearboxFlexCounters => 11
  | applicationState => 14

/-- The databases by their names. -/
def named : List (String × Database) :=
  [("APPL_DB", application), ("ASIC_DB", asic), ("COUNTERS_DB", counters),
    ("LOGLEVEL_DB", logLevel), ("CONFIG_DB", configuration), ("PFC_WD_DB", flexCounters),
    ("FLEX_COUNTER_DB", flexCounters), ("STATE_DB", state), ("SNMP_OVERLAY_DB", snmpOverlay),
    ("RESTAPI_DB", restApi), ("GB_ASIC_DB", gearboxAsic), ("GB_COUNTERS_DB", gearboxCounters),
    ("GB_FLEX_COUNTER_DB", gearboxFlexCounters), ("APPL_STATE_DB", applicationState)]

def ofName? (name : String) : Option Database := named.lookup name

def applicationName : String := "APPL_DB"

def configurationName : String := "CONFIG_DB"

def stateName : String := "STATE_DB"

end Database

end SwitchFleet

import SwitchFleet.Store.Command

/-!
# Device stores in memory

A device store in memory, which can be made to fail: it can be out of reach, some of its keys may be
unreadable, and it may accept a limited number of writes.

* `Memory.connect`, `Memory.ping`: open a connection, and ask whether it is alive.
* `Memory.execute`: the answer to a command.
-/

namespace SwitchFleet

/-- A device store in memory. -/
structure Memory where
  content : Content
  reachable : Bool
  unreadable : List (Option Database × String)
  /-- How many more writes succeed, if not all of them. -/
  writesLeft : Option Nat
  opened : Nat
  /-- How many of the connections were closed, the oldest ones first. -/
  closed : Nat

namespace Memory

def empty : Memory := ⟨.empty, true, [], none, 0, 0⟩

/-- A new connection to a database. -/
def connect (name : String) (db : Database) (m : Memory) : Except StoreError Connection × Memory :=
  if m.reachable then (.ok ⟨name, db, m.opened⟩, { m with opened := m.opened + 1 })
  else (.error (.unavailable "connection refused"), m)

def ping (c : Connection) (m : Memory) : Except StoreError Unit :=
  if m.reachable && m.closed ≤ c.serial then .ok () else .error (.unavailable "connection closed")

/-- The store with all connections closed. -/
def closeAll (m : Memory) : Memory := { m with closed := m.opened }

def isReadable (db : Option Database) (key : String) (m : Memory) : Bool :=
  !m.unreadable.contains (db, key)

/-- Whether the store accepts one more write. -/
def acceptsWrite (m : Memory) : Bool := m.writesLeft != some 0

/-- The answer to a command, and the store after it. -/
def execute (db : Option Database) : (q : Command) → Memory → Except StoreError q.Answer × Memory
  | .fields key, m =>
    if m.isReadable db key then (.ok (m.content.hash db key), m)
    else (.error (.unavailable ("read of " ++ key ++ " failed")), m)
  | .setField key field value, m =>
    if m.acceptsWrite then
      (.ok (), { m with
        content := m.content.setField db key field value
        writesLeft := m.writesLeft.map (· - 1) })
    else (.error (.unavailable "write rejected"), m)
  | .has key, m => (.ok (m.content.has db key), m)
  | .keys pattern, m => (.ok (m.content.matching db pattern), m)

end Memory

end SwitchFleet

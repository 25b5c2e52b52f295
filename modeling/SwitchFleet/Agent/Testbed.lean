import SwitchFleet.Agent.Netlink
import SwitchFleet.Agent.Query
import SwitchFleet.Store.Memory
import SwitchFleet.Store.Pool

/-!
# A testbed for agents

A world that answers the questions of an agent: a device store in memory behind a connection pool, a
table of links or a socket to the kernel, a manifest, and a clock. Calls of the store are recorded, and
single ones can be made to fail.

* `Testbed`: the world.
* `Testbed.Injection`: what a call of the store is made to do.
* `Testbed.step`: the answer to a step of the pool.
* `Testbed.answer`: the answer to a question of an agent.
-/

namespace SwitchFleet

namespace Testbed

/-- A call of the store. -/
inductive Call where
  | dial (name : String) (index : Nat)
  | ping (name : String)
  | command (name : String) (q : Command)
deriving DecidableEq

namespace Call

def name : Call → String
  | dial .. => "connect"
  | ping _ => "ping"
  | command _ (.fields _) => "hgetall"
  | command _ (.setField ..) => "hset"
  | command _ (.has _) => "exists"
  | command _ (.keys _) => "keys"

/-- The name of the database that is called. -/
def database : Call → String
  | dial name _ => name
  | ping name => name
  | command name _ => name

/-- The key that is asked for. -/
def key : Call → String
  | dial .. => ""
  | ping _ => ""
  | command _ (.fields key) => key
  | command _ (.setField key ..) => key
  | command _ (.has key) => key
  | command _ (.keys pattern) => pattern

end Call

/-- What a call of the store is made to do. -/
inductive Injection where
  | unavailable (reason : String)
  | has (b : Bool)
  | keys (found : List String)
  | slow (milliseconds : Nat)
deriving DecidableEq

/-- A place at which calls are made to do something: a call, a database, and a key or a star for
every key. -/
structure Place where
  call : String
  database : String
  key : String
deriving DecidableEq

/-- How network links are looked up. -/
inductive Links where
  | table (addresses : Keyed (Option String))
  | socket (s : Netlink.Socket)

/-- The address of a link, and the links after the look-up. -/
def Links.lookUp (name : String) : Links → LinkReply × Links
  | table addresses =>
    match addresses.get? name with
    | some address => (.ok address, .table addresses)
    | none => (.error (.missing name), .table addresses)
  | socket s =>
    let (reply, s) := Netlink.lookUp name s
    (reply, .socket s)

end Testbed

/-- A world that answers the questions of an agent. -/
structure Testbed where
  memory : Memory
  cached : Keyed Connection
  links : Testbed.Links
  /-- The text of the version manifest, if it can be read. -/
  manifest : Option String
  injections : List (Testbed.Place × Testbed.Injection)
  /-- The calls of the store so far, last one first. -/
  calls : List Testbed.Call
  /-- The time in milliseconds. -/
  clock : Nat
  dialDelay : Nat
  settleDelay : Nat

namespace Testbed

/-- A world without anything in it. -/
def empty : Testbed := ⟨.empty, [], .table [], none, [], [], 0, 0, 0⟩

/-- What a call is made to do. An injection for its key comes before one for every key. -/
def injection? (t : Testbed) (c : Call) : Option Injection :=
  (t.injections.lookup ⟨c.name, c.database, c.key⟩).orElse fun _ =>
    t.injections.lookup ⟨c.name, c.database, "*"⟩

/-- The world with a call recorded. -/
def record (c : Call) (t : Testbed) : Testbed := { t with calls := c :: t.calls }

/-- The world some time later. -/
def wait (milliseconds : Nat) (t : Testbed) : Testbed :=
  { t with clock := t.clock + milliseconds }

/-! ## Steps of the pool -/

/-- The call of the store that a step of the pool makes. -/
def callOf? : Pool.Step → Option Call
  | .ping c => some (.ping c.name)
  | .dial name db => some (.dial name db.index)
  | _ => none

/-- How long a step of the pool takes. -/
def duration (q : Pool.Step) (t : Testbed) : Nat :=
  match q, (callOf? q).bind t.injection? with
  | .dial .., some (.unavailable _) => 0
  | .dial .., _ => t.dialDelay
  | .ping _, some (.slow milliseconds) => milliseconds
  | _, _ => 0

/-- The world in which a step of the pool begins. -/
def begin (q : Pool.Step) (t : Testbed) : Testbed :=
  match callOf? q with
  | some c => t.record c
  | none => t

/-- The answer to a step of the pool at the end of its time. -/
def conclude : (q : Pool.Step) → Testbed → q.Answer × Testbed
  | .look name, t => (t.cached.get? name, t)
  | .lookAgain name, t => (t.cached.get? name, t)
  | .acquire, t => ((), t)
  | .release, t => ((), t)
  | .evict name, t => ((), { t with cached := t.cached.erase name })
  | .insert name c, t => ((), { t with cached := t.cached.put name c })
  | .ping c, t =>
    match t.injection? (.ping c.name) with
    | some (.unavailable reason) => (.error (.unavailable reason), t)
    | _ => (t.memory.ping c, t)
  | .dial name db, t =>
    match t.injection? (.dial name db.index) with
    | some (.unavailable reason) => (.error (.unavailable reason), t)
    | _ =>
      let (c, memory) := t.memory.connect name db
      (c, { t with memory })

/-- The answer to a step of the pool, from its beginning to its end. -/
def step (q : Pool.Step) (t : Testbed) : q.Answer × Testbed :=
  conclude q ((t.begin q).wait (t.duration q))

/-! ## Questions of an agent -/

/-- The answer to a command that is not made to do anything. A store lists keys in descending
order. -/
def execute (c : Connection) (q : Command) (t : Testbed) : Except StoreError q.Answer × Testbed :=
  let (r, memory) := t.memory.execute (some c.database) q
  let t := { t with memory }
  match q, r with
  | .keys _, .ok found => (.ok found.reverse, t)
  | _, r => (r, t)

/-- The answer to a command. -/
def command (c : Connection) (q : Command) (t : Testbed) : Except StoreError q.Answer × Testbed :=
  let t := t.record (.command c.name q)
  match t.injection? (.command c.name q), q with
  | some (.unavailable reason), _ => (.error (.unavailable reason), t)
  | some (.has b), .has _ => (.ok b, t)
  | some (.keys found), .keys _ => (.ok found, t)
  | _, q => t.execute c q

/-- The answer to a question of an agent. -/
def answer : (q : Agent.Query) → Testbed → q.Answer × Testbed
  | .database name, t => (Pool.connect name).run step t
  | .command c q, t => t.command c q
  | .link name, t =>
    let (reply, links) := t.links.lookUp name
    (reply, { t with links })
  | .manifest, t => (t.manifest, t)
  | .settle, t => ((), t.wait t.settleDelay)

end Testbed

end SwitchFleet

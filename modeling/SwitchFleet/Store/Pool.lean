import SwitchFleet.Program
import SwitchFleet.Store.Command

/-!
# Connection pools

A pool keeps one connection for each name of a database. A connection is looked up under a shared
lock, and opened or replaced under an exclusive lock, where it is looked up once more. A connection is
given out only after it has answered a ping.

* `Pool.Step`: the single steps of the pool, between which other tasks may run.
* `Pool.connect`: a live connection to a database, which is opened if need be.
* `Pool.probe`: whether the store answers at all, on a connection that is not kept.
-/

namespace SwitchFleet.Pool

/-- One step of the pool. -/
inductive Step where
  /-- Look the connection of a name up, under the shared lock. -/
  | look (name : String)
  | ping (c : Connection)
  | acquire
  /-- Look the connection of a name up, under the exclusive lock. -/
  | lookAgain (name : String)
  | evict (name : String)
  | dial (name : String) (db : Database)
  | insert (name : String) (c : Connection)
  | release

abbrev Step.Answer : Step → Type
  | look _ => Option Connection
  | ping _ => Except StoreError Unit
  | lookAgain _ => Option Connection
  | dial _ _ => Except StoreError Connection
  | _ => Unit

/-- Programs over the steps of a pool. -/
abbrev Run (α : Type) : Type := Program Step Step.Answer α

def ask (q : Step) : Run q.Answer := Program.query q

/-- A connection that was found, if it answers a ping. -/
def alive? : Option Connection → Run (Option Connection)
  | none => return none
  | some c => do
    match ← ask (.ping c) with
    | .ok () => return some c
    | .error _ => return none

/-- A new connection that has answered a ping. -/
def openLive (name : String) : Run (Except StoreError Connection) :=
  match Database.ofName? name with
  | none => return .error (.unknownDatabase name)
  | some db => do
    match ← ask (.dial name db) with
    | .error e => return .error e
    | .ok c =>
      match ← ask (.ping c) with
      | .error e => return .error e
      | .ok () => return .ok c

/-- A live connection, looked up or opened under the exclusive lock. -/
def connectLocked (name : String) : Run (Except StoreError Connection) := do
  let cached ← ask (.lookAgain name)
  match ← alive? cached with
  | some c => return .ok c
  | none =>
    if cached.isSome then ask (.evict name)
    match ← openLive name with
    | .error e => return .error e
    | .ok c =>
      ask (.insert name c)
      return .ok c

/-- A live connection to a database. -/
def connect (name : String) : Run (Except StoreError Connection) := do
  match ← alive? (← ask (.look name)) with
  | some c => return .ok c
  | none =>
    ask .acquire
    let result ← connectLocked name
    ask .release
    return result

/-- Whether a database answers, on a connection that is not kept. -/
def probe (name : String) : Run (Except StoreError Unit) := do
  return (← openLive name).map fun _ => ()

end SwitchFleet.Pool

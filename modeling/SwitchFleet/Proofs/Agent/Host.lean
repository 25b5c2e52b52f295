import SwitchFleet.Agent.Operations
import SwitchFleet.Store.Memory
import SwitchFleet.Proofs.Program.Trace
import SwitchFleet.Proofs.Store.Fields

/-!
# Agents at work

A device as an agent finds it: a device store any call of which may fail, the links of the kernel,
and the version manifest. A call that fails changes nothing.

* `Turn`: what is left to the store in one call: whether it fails, the connection that it gives out,
  and the order in which it lists keys.
* `Host`: a device, with the turns of all calls to come, and `Host.answer`.
* `Host.attempt`, `Host.asked`, `Host.Runs`: the outcome of a task, and the questions it asks. The
  outcome of a single call follows from its turn (`runs_database`, `runs_command`, …).
-/

namespace SwitchFleet

open Agent

/-- What is left to the store in one call. -/
structure Turn where
  /-- Why the call fails, if it does. -/
  fault : Option StoreError
  /-- The number of the connection that is given out. -/
  serial : Nat
  order : List String → List String
  order_perm : ∀ keys, (order keys).Perm keys

/-- The turn of a call that does not fail. -/
def Turn.smooth : Turn := ⟨none, 0, id, fun _ => .refl _⟩

/-- The turn of a call that fails. -/
def Turn.failing (e : StoreError) : Turn := { Turn.smooth with fault := some e }

/-- A device store in memory that answers everything. -/
def Memory.holding (c : Content) : Memory := { Memory.empty with content := c }

/-- A device as an agent finds it. -/
structure Host where
  content : Content
  links : String → LinkReply
  manifest : Option String
  /-- The turns of the calls of the store to come. -/
  turns : Nat → Turn

namespace Host

/-- The database of configured interfaces. -/
abbrev configuration : Option Database := some .configuration

/-! ## Answers -/

/-- Why a call to come fails, if it does. -/
def fault (h : Host) (n : Nat) : Option StoreError := (h.turns n).fault

/-- The device after a number of calls of the store. -/
def skip (h : Host) (n : Nat) : Host := { h with turns := fun k => h.turns (k + n) }

/-- The device after a call of the store. -/
def next (h : Host) : Host := h.skip 1

/-- The device with other content of its store. -/
def store (h : Host) (c : Content) : Host := { h with content := c }

/-- The connection that the store gives out next. -/
def connection (h : Host) (name : String) (db : Database) : Connection :=
  ⟨name, db, (h.turns 0).serial⟩

/-- A connection, unless the call fails or there is no such database. -/
def connect (h : Host) (name : String) : Except StoreError Connection :=
  match h.fault 0, Database.ofName? name with
  | some e, _ => .error e
  | none, none => .error (.unknownDatabase name)
  | none, some db => .ok (h.connection name db)

/-- The answer to a command, with keys in the order of a turn. -/
def inOrder (t : Turn) : (q : Command) → q.Answer → q.Answer
  | .keys _, found => t.order found
  | .fields _, r => r
  | .setField .., r => r
  | .has _, r => r

/-- The answer to a command, and the device after it. -/
def execute (h : Host) (c : Connection) (q : Command) : Except StoreError q.Answer × Host :=
  match h.fault 0 with
  | some e => (.error e, h.next)
  | none =>
    let (r, memory) := (Memory.holding h.content).execute (some c.database) q
    (r.map (inOrder (h.turns 0) q), h.next.store memory.content)

/-- The answer to a question of an agent, and the device after it. -/
def answer : (q : Agent.Query) → Host → q.Answer × Host
  | .database name, h => (h.connect name, h.next)
  | .command c q, h => h.execute c q
  | .link name, h => (h.links name, h)
  | .manifest, h => (h.manifest, h)
  | .settle, h => ((), h)

variable {α : Type} (h : Host)

@[simp] theorem skip_content (n : Nat) : (h.skip n).content = h.content := rfl
@[simp] theorem skip_fault (n k : Nat) : (h.skip n).fault k = h.fault (k + n) := rfl
@[simp] theorem next_content : h.next.content = h.content := rfl
@[simp] theorem next_links : h.next.links = h.links := rfl
@[simp] theorem next_manifest : h.next.manifest = h.manifest := rfl
@[simp] theorem next_fault (n : Nat) : h.next.fault n = h.fault (n + 1) := rfl
@[simp] theorem store_content (c : Content) : (h.store c).content = c := rfl
@[simp] theorem store_links (c : Content) : (h.store c).links = h.links := rfl
@[simp] theorem store_manifest (c : Content) : (h.store c).manifest = h.manifest := rfl
@[simp] theorem store_fault (c : Content) (n : Nat) : (h.store c).fault n = h.fault n := rfl
@[simp] theorem next_store (c : Content) : (h.store c).next = h.next.store c := rfl
@[simp] theorem store_store (c c' : Content) : (h.store c).store c' = h.store c' := rfl
@[simp] theorem store_self : h.store h.content = h := rfl

theorem execute_fault (c : Connection) (q : Command) {e : StoreError} (hf : h.fault 0 = some e) :
    h.execute c q = (.error e, h.next) := by
  rw [execute, hf]

theorem execute_fields (c : Connection) (key : String) (hf : h.fault 0 = none) :
    h.execute c (.fields key) = (.ok (h.content.hash (some c.database) key), h.next) := by
  rw [execute, hf]
  rfl

theorem execute_setField (c : Connection) (key field value : String) (hf : h.fault 0 = none) :
    h.execute c (.setField key field value) =
      (.ok (), h.next.store (h.content.setField (some c.database) key field value)) := by
  rw [execute, hf]
  rfl

theorem execute_has (c : Connection) (key : String) (hf : h.fault 0 = none) :
    h.execute c (.has key) = (.ok (h.content.has (some c.database) key), h.next) := by
  rw [execute, hf]
  rfl

theorem execute_keys (c : Connection) (pattern : String) (hf : h.fault 0 = none) :
    h.execute c (.keys pattern) =
      (.ok ((h.turns 0).order (h.content.matching (some c.database) pattern)), h.next) := by
  rw [execute, hf]
  rfl

/-! ## Tasks -/

/-- The outcome of a task, and the device after it. -/
abbrev attempt (t : Agent.Task α) : Except Status α × Host := t.run.run answer h

/-- The questions of a task with their answers. -/
abbrev asked (t : Agent.Task α) : List (Program.Asked Agent.Query.Answer) := t.run.trace answer h

/-- A task on a device ends with an outcome, on the device `h'`, after it has asked certain
questions. -/
abbrev Runs (h : Host) (t : Agent.Task α) (r : Except Status α) (h' : Host)
    (asked : List (Program.Asked Agent.Query.Answer)) : Prop :=
  Program.Runs answer t h r h' asked

variable {h} {c : Connection} {q : Command} {code : UInt32} {step name : String} {e : StoreError}

theorem Runs.attempt_eq {t : Agent.Task α} {r : Except Status α} {h' : Host}
    {asked : List (Program.Asked Agent.Query.Answer)} (hr : h.Runs t r h' asked) :
    h.attempt t = (r, h') := hr.run_eq

theorem Runs.asked_eq {t : Agent.Task α} {r : Except Status α} {h' : Host}
    {asked : List (Program.Asked Agent.Query.Answer)} (hr : h.Runs t r h' asked) :
    h.asked t = asked := hr.trace_eq

theorem runs_database (name : String) (db : Database) (hn : Database.ofName? name = some db)
    (hf : h.fault 0 = none) :
    h.Runs (database name) (.ok (h.connection name db)) h.next
      [⟨.database name, .ok (h.connection name db)⟩] := by
  have hc : answer (.database name) h = (.ok (h.connection name db), h.next) := by
    simp only [answer, connect, hf, hn]
  have hq := Program.Runs.query (ε := Status) answer (.database name) h
  rw [hc] at hq
  exact hq.bind_ok (.pure _ _)

theorem runs_database_fault (hf : h.fault 0 = some e) :
    h.Runs (database name)
      (.error (failure Status.Code.badRequest ("failed to connect to " ++ name) e)) h.next
      [⟨.database name, .error e⟩] := by
  have hc : answer (.database name) h = (.error e, h.next) := by
    simp only [answer, connect, hf]
  have hq := Program.Runs.query (ε := Status) answer (.database name) h
  rw [hc] at hq
  exact hq.bind_ok (.throw _ _)

theorem runs_command {r : q.Answer} {h' : Host} (hc : h.execute c q = (.ok r, h')) :
    h.Runs (command c q code step) (.ok r) h' [⟨.command c q, .ok r⟩] := by
  have hq := Program.Runs.query (ε := Status) answer (.command c q) h
  rw [show answer (.command c q) h = (.ok r, h') from hc] at hq
  exact hq.bind_ok (.pure _ _)

theorem runs_command_fault (hf : h.fault 0 = some e) :
    h.Runs (command c q code step) (.error (failure code step e)) h.next
      [⟨.command c q, .error e⟩] := by
  have hq := Program.Runs.query (ε := Status) answer (.command c q) h
  rw [show answer (.command c q) h = (.error e, h.next) from h.execute_fault c q hf] at hq
  exact hq.bind_ok (.throw _ _)

end Host

end SwitchFleet

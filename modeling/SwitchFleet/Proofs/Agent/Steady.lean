import SwitchFleet.Proofs.Agent.Reading

/-!
# Devices at rest

A device on which every question has one answer: its store is within reach and executes every command,
but the fields of some keys cannot be read, and keys are listed in any order.

* `Steady`: such a device, and `Steady.answer`.
* `Steady.attempt`: the outcome of a task. A task that only reads leaves the device as it is
  (`run_of_reads`), so the outcome of a sequence follows from the outcomes of its parts
  (**`attempt_bind`**).
-/

namespace SwitchFleet

open Agent

/-- A device at rest. -/
@[ext]
structure Steady where
  content : Content
  sorted : content.Sorted
  links : String → LinkReply
  manifest : Option String
  /-- Why the fields of a key cannot be read, if they cannot. -/
  unread : Database → String → Option StoreError
  order : List String → List String
  order_perm : ∀ keys, (order keys).Perm keys

namespace Steady

/-- A device that stores nothing. -/
instance : Inhabited Steady :=
  ⟨⟨.empty, Content.sorted_empty, fun _ => .ok none, none, fun _ _ => none, id, List.Perm.refl⟩⟩

/-- Why a question fails in the store, if it does. -/
def fault (s : Steady) : Agent.Query → Option StoreError
  | .command c (.fields key) => s.unread c.database key
  | _ => none

/-- The device as it is when a question is asked. -/
def host (s : Steady) (q : Agent.Query) : Host :=
  ⟨s.content, s.links, s.manifest, fun _ => ⟨s.fault q, 0, s.order, s.order_perm⟩⟩

theorem sorted_answer (s : Steady) (q : Agent.Query) : (Host.answer q (s.host q)).2.content.Sorted := by
  cases q with
  | command c q =>
    cases q with
    | setField key field value =>
      change (Host.execute _ c (.setField key field value)).2.content.Sorted
      rw [Host.execute_setField _ _ _ _ _ rfl]
      exact s.sorted.setField
    | fields _ | has _ | keys _ =>
      rw [Host.content_answer (by trivial)]
      exact s.sorted
  | _ => exact s.sorted

/-- The answer to a question of an agent, and the device after it. -/
def answer (q : Agent.Query) (s : Steady) : q.Answer × Steady :=
  ((Host.answer q (s.host q)).1, { s with
    content := (Host.answer q (s.host q)).2.content
    sorted := s.sorted_answer q })

variable {α β : Type} (s : Steady)

/-- The outcome of a task. -/
def attempt (t : Agent.Task α) : Except Status α := (t.run.run answer s).1

theorem answer_of_reads {q : Agent.Query} (hq : q.Reads) : (answer q s).2 = s :=
  Steady.ext (Host.content_answer hq _) rfl rfl rfl rfl

theorem run_of_reads {t : Agent.Task α} (ht : Host.Within Query.Reads t) :
    t.run.run answer s = (s.attempt t, s) :=
  Prod.ext rfl (Program.run_keeps (fun s => s) (fun _ s hq => s.answer_of_reads hq) ht s)

/-- **Sequences.** After a task that only reads, the device is the same. -/
theorem attempt_bind {x : Agent.Task α} {f : α → Agent.Task β} (hx : Host.Within Query.Reads x) :
    s.attempt (x >>= f) = s.attempt x >>= fun a => s.attempt (f a) := by
  unfold attempt
  rw [ExceptT.run_bind, Program.bind_eq, Program.run_bind, s.run_of_reads hx]
  unfold attempt
  rcases (x.run.run answer s).1 with e | a <;> rfl

theorem attempt_bind_ok {x : Agent.Task α} {f : α → Agent.Task β} {a : α}
    (hx : Host.Within Query.Reads x) (ha : s.attempt x = .ok a) :
    s.attempt (x >>= f) = s.attempt (f a) := by
  rw [attempt_bind s hx, ha]
  rfl

theorem attempt_bind_error {x : Agent.Task α} {f : α → Agent.Task β} {e : Status}
    (hx : Host.Within Query.Reads x) (he : s.attempt x = .error e) :
    s.attempt (x >>= f) = .error e := by
  rw [attempt_bind s hx, he]
  rfl

@[simp] theorem attempt_pure (a : α) : s.attempt (pure a) = .ok a := rfl

theorem attempt_ask_bind {q : Agent.Query} (hq : q.Reads) (f : q.Answer → Agent.Task β) :
    s.attempt (ask q >>= f) = s.attempt (f (answer q s).1) :=
  s.attempt_bind_ok (Program.Within.query hq) rfl

/-- The connection that is given out for a database. -/
def connection (name : String) (db : Database) : Connection := ⟨name, db, 0⟩

theorem attempt_database (name : String) (db : Database) (hn : Database.ofName? name = some db) :
    s.attempt (database name) = .ok (connection name db) := by
  have hc : (answer (.database name) s).1 = .ok (connection name db) := by
    simp only [answer, Host.answer, Host.connect, hn]
    rfl
  unfold database
  rw [attempt_ask_bind s (q := .database name) trivial, hc]
  rfl

variable (c : Connection) (code : UInt32) (step : String)

theorem attempt_has (key : String) :
    s.attempt (command c (.has key) code step) = .ok (s.content.has (some c.database) key) := by
  have hc : (answer (.command c (.has key)) s).1 = .ok (s.content.has (some c.database) key) :=
    congrArg Prod.fst (Host.execute_has _ c key rfl)
  unfold command
  rw [attempt_ask_bind s (q := .command c (.has key)) trivial, hc]
  rfl

theorem attempt_keys (pattern : String) :
    s.attempt (command c (.keys pattern) code step) =
      .ok (s.order (s.content.matching (some c.database) pattern)) := by
  have hc : (answer (.command c (.keys pattern)) s).1 =
      .ok (s.order (s.content.matching (some c.database) pattern)) :=
    congrArg Prod.fst (Host.execute_keys _ c pattern rfl)
  unfold command
  rw [attempt_ask_bind s (q := .command c (.keys pattern)) trivial, hc]
  rfl

end Steady

end SwitchFleet

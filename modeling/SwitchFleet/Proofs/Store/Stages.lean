import SwitchFleet.Store.Pool
import SwitchFleet.Proofs.Program.Concurrent

/-!
# Stages of a pool's calls

A call that connects looks for a connection, asks for the lock, looks again, and opens a connection if
none is alive. A call that probes opens one and asks whether it is alive.

* `Pool.Call`, `Pool.Stage`: the calls of a pool, and what a call is about to do. `Pool.Next`: what it
  goes on with.
* **`follows_program`**: every call goes from stage to stage, whatever it is answered.
* `Pool.Path`: what a call did until it came to a stage.
  * `Path.pinged`: only a connection that has answered a ping is given.
  * **`Path.checked`**: a database is dialed only after the lock was taken and no live connection was
    found under it.
  * `Path.released`: a call that fails gives the lock back last.
  * `Path.length_le`, `Stage.rank_le`: a call takes ten steps at most.
-/

namespace SwitchFleet.Pool

open Program

/-- A call of a pool. -/
inductive Call where
  | connect (name : String)
  | probe (name : String)
deriving DecidableEq

/-- What a call ends with. Only a call that connects has a connection to give. -/
abbrev Outcome : Type := Except StoreError (Option Connection)

namespace Call

def name : Call → String
  | connect name => name
  | probe name => name

/-- The steps of a call. -/
def program : Call → Pool.Run Outcome
  | connect name => do return (← Pool.connect name).map some
  | probe name => do return (← Pool.probe name).map fun _ => none

end Call

/-! ## Stages -/

/-- What a call is about to do. -/
inductive Stage where
  | look
  | ping (c : Connection)
  | acquire
  | lookAgain
  | pingAgain (c : Connection)
  | evict
  | dial (db : Database)
  | pingNew (c : Connection)
  | insert (c : Connection)
  | release (r : Outcome)
  | dialOnly (db : Database)
  | pingOnly (c : Connection)
  | ended (r : Outcome)

/-- What comes after it was found that no connection is live. -/
def missing (name : String) : Stage :=
  match Database.ofName? name with
  | none => .release (.error (.unknownDatabase name))
  | some db => .dial db

/-- What a call is about to do in the beginning. -/
def Call.first : Call → Stage
  | connect _ => .look
  | probe name =>
    match Database.ofName? name with
    | none => .ended (.error (.unknownDatabase name))
    | some db => .dialOnly db

/-- What a call for the database `name` goes on with after a step and the answer to it. -/
inductive Next (name : String) : Stage → (q : Step) → q.Answer → Stage → Prop
  | lookNone : Next name .look (.look name) none .acquire
  | lookSome (c : Connection) : Next name .look (.look name) (some c) (.ping c)
  | pingOk (c : Connection) : Next name (.ping c) (.ping c) (.ok ()) (.ended (.ok (some c)))
  | pingError (c : Connection) (e : StoreError) : Next name (.ping c) (.ping c) (.error e) .acquire
  | acquire : Next name .acquire .acquire () .lookAgain
  | againNone : Next name .lookAgain (.lookAgain name) none (missing name)
  | againSome (c : Connection) : Next name .lookAgain (.lookAgain name) (some c) (.pingAgain c)
  | againOk (c : Connection) :
    Next name (.pingAgain c) (.ping c) (.ok ()) (.release (.ok (some c)))
  | againError (c : Connection) (e : StoreError) :
    Next name (.pingAgain c) (.ping c) (.error e) .evict
  | evict : Next name .evict (.evict name) () (missing name)
  | dialError (db : Database) (e : StoreError) :
    Next name (.dial db) (.dial name db) (.error e) (.release (.error e))
  | dialOk (db : Database) (c : Connection) :
    Next name (.dial db) (.dial name db) (.ok c) (.pingNew c)
  | newError (c : Connection) (e : StoreError) :
    Next name (.pingNew c) (.ping c) (.error e) (.release (.error e))
  | newOk (c : Connection) : Next name (.pingNew c) (.ping c) (.ok ()) (.insert c)
  | insert (c : Connection) :
    Next name (.insert c) (.insert name c) () (.release (.ok (some c)))
  | release (r : Outcome) : Next name (.release r) .release () (.ended r)
  | onlyError (db : Database) (e : StoreError) :
    Next name (.dialOnly db) (.dial name db) (.error e) (.ended (.error e))
  | onlyOk (db : Database) (c : Connection) :
    Next name (.dialOnly db) (.dial name db) (.ok c) (.pingOnly c)
  | testError (c : Connection) (e : StoreError) :
    Next name (.pingOnly c) (.ping c) (.error e) (.ended (.error e))
  | testOk (c : Connection) : Next name (.pingOnly c) (.ping c) (.ok ()) (.ended (.ok none))

/-- A program takes the steps that a stage allows, whatever it is answered. -/
def Follows (name : String) : Pool.Run Outcome → Stage → Prop
  | .done r, stage => stage = .ended r
  | .ask q next, stage => ∀ r, ∃ stage', Next name stage q r stage' ∧ Follows name (next r) stage'

theorem follows_release (name : String) (r : Outcome) :
    Follows name (.ask .release fun _ => .done r) (.release r) := fun _ => ⟨_, .release r, rfl⟩

/-- A new connection that is kept. -/
def openKept (name : String) : Pool.Run (Except StoreError Connection) := do
  match ← openLive name with
  | .error e => return .error e
  | .ok c =>
    ask (.insert name c)
    return .ok c

/-- What is done at the end of a call that has the lock. -/
def leave (r : Except StoreError Connection) : Pool.Run Outcome :=
  .ask .release fun _ => .done (r.map some)

theorem follows_missing (name : String) :
    Follows name ((openKept name).bind leave) (missing name) := by
  unfold openKept openLive missing
  cases Database.ofName? name with
  | none => exact follows_release _ _
  | some db =>
    rintro (e | c)
    · exact ⟨_, .dialError db e, follows_release _ _⟩
    · refine ⟨_, .dialOk db c, ?_⟩
      rintro (e | ⟨⟩)
      · exact ⟨_, .newError c e, follows_release _ _⟩
      · exact ⟨_, .newOk c, fun _ => ⟨_, .insert c, follows_release _ _⟩⟩

theorem follows_lookAgain (name : String) :
    Follows name ((connectLocked name).bind leave) .lookAgain := by
  rintro (_ | c)
  · exact ⟨_, .againNone, follows_missing name⟩
  · refine ⟨_, .againSome c, ?_⟩
    rintro (e | ⟨⟩)
    · exact ⟨_, .againError c e, fun _ => ⟨_, .evict, follows_missing name⟩⟩
    · exact ⟨_, .againOk c, follows_release _ _⟩

/-- What is done once the lock is asked for. -/
def enter (name : String) : Pool.Run (Except StoreError Connection) := do
  ask .acquire
  let result ← connectLocked name
  ask .release
  return result

theorem follows_acquire (name : String) :
    Follows name ((enter name).bind fun r => .done (r.map some)) .acquire := by
  refine fun _ => ⟨_, .acquire, ?_⟩
  have hassoc : ((connectLocked name).bind fun r => .ask .release fun _ => .done r).bind
      (fun r => .done (r.map some)) = (connectLocked name).bind leave := bind_assoc _ _ _
  have hfollows := follows_lookAgain name
  rw [← hassoc] at hfollows
  exact hfollows

theorem follows_connect (name : String) :
    Follows name (Call.connect name).program (Call.connect name).first := by
  rintro (_ | c)
  · exact ⟨_, .lookNone, follows_acquire name⟩
  · refine ⟨_, .lookSome c, ?_⟩
    rintro (e | ⟨⟩)
    · exact ⟨_, .pingError c e, follows_acquire name⟩
    · exact ⟨_, .pingOk c, rfl⟩

theorem follows_probe (name : String) :
    Follows name (Call.probe name).program (Call.probe name).first := by
  simp only [Call.program, Call.first, Pool.probe, openLive]
  cases Database.ofName? name with
  | none => rfl
  | some db =>
    rintro (e | c)
    · exact ⟨_, .onlyError db e, rfl⟩
    · refine ⟨_, .onlyOk db c, ?_⟩
      rintro (e | ⟨⟩)
      · exact ⟨_, .testError c e, rfl⟩
      · exact ⟨_, .testOk c, rfl⟩

/-- **Stages.** Every call goes from stage to stage. -/
theorem follows_program (call : Call) : Follows call.name call.program call.first :=
  match call with
  | .connect name => follows_connect name
  | .probe name => follows_probe name

/-! ## Paths -/

/-- What a call did until it came to a stage. -/
inductive Path (call : Call) : List (Asked Step.Answer) → Stage → Prop where
  | start : Path call [] call.first
  | step {t : List (Asked Step.Answer)} {stage stage' : Stage} {q : Step} {r : q.Answer}
    (h : Path call t stage) (hn : Next call.name stage q r stage') :
    Path call (t ++ [⟨q, r⟩]) stage'

/-- A stage at which a call has the lock. -/
def Stage.Locked : Stage → Prop
  | lookAgain | pingAgain _ | evict | dial _ | pingNew _ | insert _ | release _ => True
  | look | ping _ | acquire | dialOnly _ | pingOnly _ | ended _ => False

/-- The connection that a call is going to give. -/
def Stage.gives? : Stage → Option Connection
  | insert c => some c
  | release (.ok c) => c
  | ended (.ok c) => c
  | _ => none

/-- A stage belongs to a call. A probe opens a connection and asks whether it is alive, and nothing
else, and only a probe succeeds without a connection. -/
def Stage.Of : Call → Stage → Prop
  | .connect _, dialOnly _ | .connect _, pingOnly _ => False
  | .connect _, release (.ok none) | .connect _, ended (.ok none) => False
  | .connect _, _ => True
  | .probe _, dialOnly _ | .probe _, pingOnly _ | .probe _, ended _ => True
  | .probe _, _ => False

variable {call : Call} {name : String} {t : List (Asked Step.Answer)} {stage stage' : Stage}
  {q : Step} {r : q.Answer} {c : Connection} {db : Database}

/-- What is known of a call that lacks a connection. -/
theorem missing_cases (name : String) :
    (Database.ofName? name = none ∧
        missing name = .release (.error (.unknownDatabase name))) ∨
      ∃ db, Database.ofName? name = some db ∧ missing name = .dial db := by
  unfold missing
  cases Database.ofName? name with
  | none => exact .inl ⟨rfl, rfl⟩
  | some db => exact .inr ⟨db, rfl, rfl⟩

theorem locked_missing (name : String) : (missing name).Locked := by
  rcases missing_cases name with ⟨-, h⟩ | ⟨db, -, h⟩ <;> rw [h] <;> trivial

theorem gives?_missing (name : String) : (missing name).gives? = none := by
  rcases missing_cases name with ⟨-, h⟩ | ⟨db, -, h⟩ <;> rw [h] <;> rfl

theorem first_probe_cases (name : String) :
    (Database.ofName? name = none ∧
        (Call.probe name).first = .ended (.error (.unknownDatabase name))) ∨
      ∃ db, Database.ofName? name = some db ∧ (Call.probe name).first = .dialOnly db := by
  simp only [Call.first]
  cases Database.ofName? name with
  | none => exact .inl ⟨rfl, rfl⟩
  | some db => exact .inr ⟨db, rfl, rfl⟩

theorem of_next (hs : stage.Of call) (hn : Next call.name stage q r stage') : stage'.Of call := by
  cases call with
  | connect name =>
    have hmissing : (missing name).Of (.connect name) := by
      rcases missing_cases name with ⟨-, h⟩ | ⟨db, -, h⟩ <;> rw [h] <;> trivial
    cases hn with
    | release r => cases r with
      | error e => trivial
      | ok c => cases c <;> trivial
    | _ => trivial
  | probe name => cases hn <;> trivial

theorem Path.of (h : Path call t stage) : stage.Of call := by
  induction h with
  | start =>
    cases call with
    | connect name => trivial
    | probe name =>
      rcases first_probe_cases name with ⟨-, h⟩ | ⟨db, -, h⟩ <;> rw [h] <;> trivial
  | step _ hn ih => exact of_next ih hn

theorem Path.pinged (h : Path call t stage) (hc : stage.gives? = some c) :
    ⟨.ping c, .ok ()⟩ ∈ t := by
  induction h with
  | start =>
    cases call with
    | connect name => cases hc
    | probe name =>
      rcases first_probe_cases name with ⟨-, h⟩ | ⟨db, -, h⟩ <;> rw [h] at hc <;> cases hc
  | step _ hn ih =>
    rw [List.mem_append]
    cases hn with
    | pingOk _ | againOk _ | newOk _ =>
      cases hc
      exact .inr (.head _)
    | insert _ => exact .inl (ih hc)
    | release r => exact .inl (ih (by cases r <;> exact hc))
    | againNone | evict =>
      rw [gives?_missing] at hc
      cases hc
    | _ => cases hc

/-- The steps of a call that connects from the lock on, until it comes to a stage. -/
def Checked (name : String) (t : List (Asked Step.Answer)) : Stage → Prop
  | .lookAgain => ∃ t', t = t' ++ [⟨.acquire, ()⟩]
  | .pingAgain c => ∃ t', t = t' ++ [⟨.acquire, ()⟩, ⟨.lookAgain name, some c⟩]
  | .evict => ∃ t' c e,
    t = t' ++ [⟨.acquire, ()⟩, ⟨.lookAgain name, some c⟩, ⟨.ping c, .error e⟩]
  | .dial db => Database.ofName? name = some db ∧
    ((∃ t', t = t' ++ [⟨.acquire, ()⟩, ⟨.lookAgain name, none⟩]) ∨
      ∃ t' c e, t = t' ++ [⟨.acquire, ()⟩, ⟨.lookAgain name, some c⟩, ⟨.ping c, .error e⟩,
        ⟨.evict name, ()⟩])
  | .pingNew _ | .insert _ => (Database.ofName? name).isSome = true
  | _ => True

theorem checked_missing
    (h : (∃ t', t = t' ++ [⟨.acquire, ()⟩, ⟨.lookAgain name, none⟩]) ∨
      ∃ t' c e, t = t' ++ [⟨.acquire, ()⟩, ⟨.lookAgain name, some c⟩, ⟨.ping c, .error e⟩,
        ⟨.evict name, ()⟩]) : Checked name t (missing name) := by
  rcases missing_cases name with ⟨-, hm⟩ | ⟨db, hdb, hm⟩ <;> rw [hm]
  · trivial
  · exact ⟨hdb, h⟩

/-- **What was checked.** A database is dialed only after the lock was taken and no live connection was
found under it. -/
theorem Path.checked (h : Path call t stage) : Checked call.name t stage := by
  induction h with
  | start =>
    cases call with
    | connect name => trivial
    | probe name =>
      rcases first_probe_cases name with ⟨-, h⟩ | ⟨db, -, h⟩ <;> rw [h] <;> trivial
  | step _ hn ih =>
    cases hn with
    | acquire => exact ⟨_, rfl⟩
    | againNone =>
      obtain ⟨t', rfl⟩ := ih
      exact checked_missing (.inl ⟨t', by simp⟩)
    | againSome c =>
      obtain ⟨t', rfl⟩ := ih
      exact ⟨t', by simp⟩
    | againError c e =>
      obtain ⟨t', rfl⟩ := ih
      exact ⟨t', c, e, by simp⟩
    | evict =>
      obtain ⟨t', c, e, rfl⟩ := ih
      exact checked_missing (.inr ⟨t', c, e, by simp⟩)
    | dialOk db c => exact Option.isSome_of_eq_some ih.1
    | newOk c => exact ih
    | _ => trivial

theorem Path.released {e : StoreError} (h : Path (.connect name) t (.ended (.error e))) :
    ∃ t', t = t' ++ [⟨.release, ()⟩] := by
  generalize hended : Stage.ended (.error e) = stage at h
  have hlocked (hm : Stage.ended (.error e) = missing name) : False := by
    have hl := locked_missing name
    rwa [← hm] at hl
  cases h with
  | start => cases hended
  | step h hn =>
    cases hn with
    | release => exact ⟨_, rfl⟩
    | againNone | evict => exact (hlocked hended).elim
    | onlyError | testError => exact h.of.elim
    | _ => cases hended

/-- How many steps lead to a stage, at most. -/
def Stage.rank : Stage → Nat
  | look => 0
  | ping _ => 1
  | acquire => 2
  | lookAgain => 3
  | pingAgain _ => 4
  | evict => 5
  | dial _ => 6
  | pingNew _ => 7
  | insert _ => 8
  | release _ => 9
  | dialOnly _ => 0
  | pingOnly _ => 1
  | ended _ => 10

theorem rank_missing (name : String) : 6 ≤ (missing name).rank := by
  rcases missing_cases name with ⟨-, h⟩ | ⟨db, -, h⟩ <;> rw [h] <;> simp [Stage.rank]

theorem Path.length_le (h : Path call t stage) : t.length ≤ stage.rank := by
  induction h with
  | start => exact Nat.zero_le _
  | step _ hn ih =>
    have hmissing := rank_missing call.name
    rw [List.length_append, List.length_singleton]
    cases hn with
    | againNone | evict =>
      simp only [Stage.rank] at ih
      omega
    | _ =>
      simp only [Stage.rank] at ih ⊢
      omega

theorem Stage.rank_le (stage : Stage) : stage.rank ≤ 10 := by
  cases stage <;> simp [rank]

end SwitchFleet.Pool

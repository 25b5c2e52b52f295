import SwitchFleet.Agent.Testbed

/-!
# Concurrent connections

Several tasks that connect to databases at the same time, over one pool. The lock of the pool is fair:
tasks get it in the order in which they asked for it. A task goes on until it has to wait for the
lock or for the end of a call.

* `Schedule`: the tasks, the lock, and the world.
* `Schedule.advance`: one step of the first task that can go on.
* `Testbed.connectAll`: connections to a list of databases, asked for at the same time.
-/

namespace SwitchFleet

/-- A task that connects to a database. -/
structure Worker where
  program : Pool.Run (Except StoreError Connection)
  /-- The end of the call that the task has begun. -/
  until? : Option Nat

/-- Tasks that share a pool. -/
structure Schedule where
  workers : List Worker
  /-- Whether a task has the exclusive lock. -/
  locked : Bool
  /-- The tasks that wait for the lock, first one first. -/
  queue : List Nat
  world : Testbed

namespace Schedule

/-- Whether a task may have the lock now: nobody has it, and nobody asked for it earlier. -/
def mayLock (s : Schedule) (i : Nat) : Bool :=
  !s.locked && (s.queue.isEmpty || s.queue.head? == some i)

def Worker.isDone (w : Worker) : Bool :=
  match w.program with
  | .done _ => true
  | .ask .. => false

/-- Whether a task can go on. -/
def canGoOn (s : Schedule) (i : Nat) (w : Worker) : Bool :=
  !Worker.isDone w &&
    match w.until? with
    | some time => time ≤ s.world.clock
    | none => !s.queue.contains i || s.mayLock i

/-- The schedule with a task replaced. -/
def setWorker (s : Schedule) (i : Nat) (w : Worker) : Schedule :=
  { s with workers := s.workers.set i w }

/-- The schedule after a step of a task that has its answer. -/
def goOn (s : Schedule) (i : Nat) {q : Pool.Step}
    (next : q.Answer → Pool.Run (Except StoreError Connection)) : Schedule :=
  let (r, world) := Testbed.conclude q s.world
  { s with world }.setWorker i ⟨next r, none⟩

/-- The schedule after a task got the lock, or joined those who wait for it. -/
def lock (s : Schedule) (i : Nat) (keep : Bool) {q : Pool.Step}
    (next : q.Answer → Pool.Run (Except StoreError Connection)) : Schedule :=
  if s.mayLock i then { s with locked := keep, queue := s.queue.erase i }.goOn i next
  else if s.queue.contains i then s
  else { s with queue := s.queue ++ [i] }

/-- The schedule after a task began a call, or ended it. -/
def call (s : Schedule) (i : Nat) (w : Worker) {q : Pool.Step}
    (next : q.Answer → Pool.Run (Except StoreError Connection)) : Schedule :=
  match w.until? with
  | some _ => s.goOn i next
  | none =>
    let time := s.world.clock + s.world.duration q
    { s with world := s.world.begin q }.setWorker i { w with until? := some time }

/-- The schedule after one step of a task. -/
def stepOf (s : Schedule) (i : Nat) (w : Worker) : Schedule :=
  match w.program with
  | .done _ => s
  | .ask (.look name) next => s.lock i false (q := .look name) next
  | .ask .acquire next => s.lock i true (q := .acquire) next
  | .ask .release next => { s with locked := false }.goOn i (q := .release) next
  | .ask q next => s.call i w (q := q) next

/-- The schedule at the time at which the next call ends. -/
def passTime (s : Schedule) : Schedule :=
  match (s.workers.filterMap (·.until?)).min? with
  | some time => { s with world := { s.world with clock := max s.world.clock time } }
  | none => s

/-- The schedule after one step of the first task that can go on, or after the time until one
can. -/
def advance (s : Schedule) : Schedule :=
  match s.workers.zipIdx.find? fun w => s.canGoOn w.2 w.1 with
  | some (w, i) => s.stepOf i w
  | none => s.passTime

/-- The schedule after a number of steps. -/
def advanceBy : Nat → Schedule → Schedule
  | 0, s => s
  | n + 1, s => advanceBy n s.advance

/-- A number of steps in which each task comes to its end. -/
def stepsFor (tasks : Nat) : Nat := 32 * (tasks + 1)

end Schedule

/-- What connecting to a list of databases at the same time gives, and the world after it. -/
def Testbed.connectAll (names : List String) (t : Testbed) :
    List (Option (Except StoreError Connection)) × Testbed :=
  let s := Schedule.advanceBy (Schedule.stepsFor names.length)
    ⟨names.map fun name => ⟨Pool.connect name, none⟩, false, [], t⟩
  (s.workers.map fun w => match w.program with
    | .done r => some r
    | .ask .. => none, s.world)

end SwitchFleet

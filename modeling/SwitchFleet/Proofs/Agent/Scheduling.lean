import SwitchFleet.Agent.Schedule
import SwitchFleet.Proofs.Store.Safety

/-!
# Scheduled tasks use a pool

A schedule decides which task goes on, and how long a call of the store takes. Whatever it decides, its
tasks use their pool like any other calls, so that what is known of pools in use is known of them.

* `Schedule.Shows`: the tasks of a schedule are the calls of a pool.
* `Shows.step`: a step of a task is a step of its call, or none at all. **`Shows.advanceBy`**: so is
  every number of steps.
* **`use_connectAll`**: connecting to a list of databases at the same time is a use of a pool.
-/

namespace SwitchFleet.Schedule

open Program Pool

variable {names : List String} {s : Schedule} {i : Nat} {w : Worker} {q : Pool.Step}
  {next : q.Answer → Pool.Run (Except StoreError Connection)}

/-- The calls of tasks that connect to a list of databases. -/
abbrev tasks (names : List String) (i : Fin names.length) : Pool.Call := .connect names[i]

/-- What a task has still to do, as what is left of a call. -/
def Worker.left (w : Worker) : Pool.Run Outcome := w.program.bind fun r => .done (r.map some)

/-- The tasks of a schedule are the calls of a pool, which is cached in the world of the schedule. -/
structure Shows (names : List String) (s : Schedule) (p : Fin names.length → Pool.Run Outcome)
    (shared : Shared (Fin names.length)) (log : List (Fin names.length × Asked Step.Answer)) :
    Prop where
  use : Use (tasks names) p shared log
  length : s.workers.length = names.length
  left : ∀ i : Fin names.length, s.workers[(i : Nat)]?.map Worker.left = some (p i)
  cached : shared.cached = s.world.cached
  locked : s.locked = shared.holder.isSome

/-- The tasks of a schedule are the calls of some pool in use. -/
def InUse (names : List String) (s : Schedule) : Prop := ∃ p shared log, Shows names s p shared log

/-- Whether a call has the lock after a step of one of them. -/
def locks (locked : Bool) : Pool.Step → Bool
  | .acquire => true
  | .release => false
  | _ => locked

theorem moves_conclude {ι : Type} {k : ι} {shared : Shared ι} {t : Testbed}
    (hcached : shared.cached = t.cached) (hwaits : q.Waits → shared.holder = none) :
    ∃ shared', Moves k shared q (Testbed.conclude q t).1 shared' ∧
      shared'.cached = (Testbed.conclude q t).2.cached ∧
      shared'.holder.isSome = locks shared.holder.isSome q := by
  cases q with
  | look name => exact ⟨shared, ⟨hwaits trivial, by rw [hcached]; rfl, rfl⟩, hcached, rfl⟩
  | acquire => exact ⟨_, ⟨hwaits trivial, rfl⟩, hcached, rfl⟩
  | lookAgain name => exact ⟨shared, ⟨by rw [hcached]; rfl, rfl⟩, hcached, rfl⟩
  | evict name => exact ⟨_, rfl, by rw [hcached]; rfl, rfl⟩
  | insert name c => exact ⟨_, rfl, by rw [hcached]; rfl, rfl⟩
  | release => exact ⟨_, rfl, hcached, rfl⟩
  | ping c =>
    refine ⟨shared, rfl, ?_, rfl⟩
    simp only [Testbed.conclude]
    split <;> exact hcached
  | dial name db =>
    refine ⟨shared, rfl, ?_, rfl⟩
    simp only [Testbed.conclude]
    split <;> exact hcached

theorem Shows.goOn {p : Fin names.length → Pool.Run Outcome} {shared : Shared (Fin names.length)}
    {log : List (Fin names.length × Asked Step.Answer)} (h : Shows names s p shared log)
    (hw : s.workers[i]? = some w) (hp : w.program = .ask q next)
    (hwaits : q.Waits → s.locked = false) {locked : Bool} (hlocks : locked = locks s.locked q)
    (queue : List Nat) : InUse names (Schedule.goOn { s with locked, queue } i next) := by
  obtain ⟨hlt, -⟩ := List.getElem?_eq_some_iff.mp hw
  obtain ⟨k, rfl⟩ : ∃ k : Fin names.length, (k : Nat) = i := ⟨⟨i, h.length ▸ hlt⟩, rfl⟩
  have hpk : p k = .ask q fun r => (next r).bind fun r => .done (r.map some) := by
    have hleft := h.left k
    rw [hw] at hleft
    rw [← Option.some.inj hleft, Worker.left, hp]
    rfl
  have hfree : q.Waits → shared.holder = none := fun hq => by
    have hl := hwaits hq
    rw [h.locked] at hl
    simpa using hl
  obtain ⟨shared', hm, hcached, hlocked⟩ := moves_conclude (k := k) h.cached hfree
  refine ⟨_, shared', _, h.use.step hpk hm, ?_, fun j => ?_, hcached, ?_⟩
  · simpa [Schedule.goOn, setWorker] using h.length
  · by_cases hj : j = k
    · subst hj
      simp [Schedule.goOn, setWorker, hlt, Worker.left]
    · have hne : (k : Nat) ≠ j := fun hkj => hj (Fin.ext hkj.symm)
      rw [Function.update_of_ne hj]
      simpa [Schedule.goOn, setWorker, List.getElem?_set_ne hne] using h.left j
  · rw [hlocked, ← h.locked, ← hlocks]
    rfl

theorem Shows.begin {p : Fin names.length → Pool.Run Outcome} {shared : Shared (Fin names.length)}
    {log : List (Fin names.length × Asked Step.Answer)} (h : Shows names s p shared log)
    (hw : s.workers[i]? = some w) (q : Pool.Step) (time : Option Nat) :
    InUse names (setWorker { s with world := s.world.begin q } i { w with until? := time }) := by
  obtain ⟨hlt, -⟩ := List.getElem?_eq_some_iff.mp hw
  refine ⟨p, shared, log, h.use, ?_, fun j => ?_, ?_, h.locked⟩
  · simpa [setWorker] using h.length
  · have hj := h.left j
    by_cases hij : i = j
    · subst hij
      rw [hw] at hj
      simpa [setWorker, hlt, Worker.left] using hj
    · simpa [setWorker, List.getElem?_set_ne hij] using hj
  · rw [h.cached]
    simp only [setWorker, Testbed.begin]
    split <;> rfl

theorem locked_of_mayLock (h : s.mayLock i = true) : s.locked = false := by
  simp only [mayLock, Bool.and_eq_true, Bool.not_eq_true'] at h
  exact h.1

theorem inUse_lock (h : InUse names s) (hw : s.workers[i]? = some w) (hp : w.program = .ask q next)
    {keep : Bool} (hkeep : keep = locks false q) : InUse names (s.lock i keep next) := by
  obtain ⟨p, shared, log, hshows⟩ := h
  unfold lock
  split
  · rename_i hmay
    have hfree := locked_of_mayLock hmay
    exact hshows.goOn hw hp (fun _ => hfree) (hfree ▸ hkeep) _
  · split
    · exact ⟨p, shared, log, hshows⟩
    · exact ⟨p, shared, log, { hshows with }⟩

/-- A task that calls the store begins the call, or goes on at its end. -/
theorem inUse_call (h : InUse names s) (hw : s.workers[i]? = some w) (hp : w.program = .ask q next)
    (hq : ¬ q.Waits) (hlocks : s.locked = locks s.locked q) : InUse names (s.call i w next) := by
  obtain ⟨p, shared, log, hshows⟩ := h
  unfold call
  split
  · exact hshows.goOn hw hp (fun hwaits => absurd hwaits hq) hlocks s.queue
  · exact hshows.begin hw q _

/-- **A step of a task** is a step of its call, or none at all. -/
theorem inUse_stepOf (h : InUse names s) (hw : s.workers[i]? = some w) :
    InUse names (s.stepOf i w) := by
  unfold stepOf
  cases hp : w.program with
  | done r => exact h
  | ask q next =>
    cases q with
    | look name => exact inUse_lock h hw hp rfl
    | acquire => exact inUse_lock h hw hp rfl
    | release =>
      obtain ⟨p, shared, log, hshows⟩ := h
      exact hshows.goOn hw hp (fun hwaits => hwaits.elim) rfl s.queue
    | _ => exact inUse_call h hw hp id rfl

theorem inUse_passTime (h : InUse names s) : InUse names s.passTime := by
  obtain ⟨p, shared, log, hshows⟩ := h
  unfold passTime
  split
  · exact ⟨p, shared, log, { hshows with }⟩
  · exact ⟨p, shared, log, hshows⟩

theorem inUse_advance (h : InUse names s) : InUse names s.advance := by
  unfold advance
  split
  · rename_i w i hfind
    exact inUse_stepOf h (List.mk_mem_zipIdx_iff_getElem?.mp (List.mem_of_find?_eq_some hfind))
  · exact inUse_passTime h

/-- **A schedule is a pool in use**, however long it goes on. -/
theorem inUse_advanceBy (h : InUse names s) (n : Nat) : InUse names (advanceBy n s) := by
  induction n generalizing s with
  | zero => exact h
  | succ n ih => exact ih (inUse_advance h)

theorem inUse_start (names : List String) {t : Testbed} (h : t.cached = []) :
    InUse names ⟨names.map fun name => ⟨Pool.connect name, none⟩, false, [], t⟩ :=
  ⟨_, .empty, [], .start, List.length_map .., fun i => by simp [Worker.left, Pool.Call.program],
    h.symm, rfl⟩

end SwitchFleet.Schedule

namespace SwitchFleet.Testbed

open Pool Schedule

/-- **Connecting at the same time** is a use of a pool: what the tasks end with is what the calls end
with, and what is cached then is what is cached in the pool. -/
theorem use_connectAll (names : List String) {t : Testbed} (h : t.cached = []) :
    ∃ p shared log, Use (tasks names) p shared log ∧ shared.cached = (t.connectAll names).2.cached ∧
      ∀ (i : Fin names.length) (r : Except StoreError Connection),
        (t.connectAll names).1[(i : Nat)]? = some (some r) → p i = .done (r.map some) := by
  obtain ⟨p, shared, log, hshows⟩ :=
    inUse_advanceBy (inUse_start names h) (Schedule.stepsFor names.length)
  refine ⟨p, shared, log, hshows.use, hshows.cached, fun i r hr => ?_⟩
  have hleft := hshows.left i
  simp only [connectAll, List.getElem?_map, Option.map_eq_some_iff] at hr hleft
  obtain ⟨w, hw, hdone⟩ := hr
  obtain ⟨w', hw', hp⟩ := hleft
  obtain rfl : w = w' := Option.some.inj (hw.symm.trans hw')
  rw [← hp, Worker.left]
  cases hprogram : w.program with
  | ask => simp [hprogram] at hdone
  | done r' =>
    rw [hprogram] at hdone
    cases hdone
    rfl

end SwitchFleet.Testbed

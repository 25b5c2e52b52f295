import SwitchFleet.Proofs.Store.Sharing

/-!
# Safety of connection pools

* `Pool.Safe`: what holds of a pool at every moment, whatever its calls and the order of their steps
  are. **`safe`**: it does.
* `goes_on`: no call waits for ever.
* `reply`: a store that does not fail. `together`: two calls that connect to one database over it, in
  turns. `opened_once`: they share a connection. `none_opened`: a name without a database is not dialed.
-/

namespace SwitchFleet.Pool

open Program

variable {ι : Type} {call : ι → Call} {stage : ι → Stage} {p : ι → Pool.Run Outcome}
  {s s' : Shared ι} {log : List (ι × Asked Step.Answer)} {i : ι} {q : Step} {r : q.Answer}
  {name : String} {st st' : Stage}

/-! ## Where a call is, read off what it does next -/

instance (q : Step) : Nonempty q.Answer := by
  cases q with
  | look | lookAgain => exact ⟨none⟩
  | dial name => exact ⟨.error (.unknownDatabase name)⟩
  | ping => exact ⟨.ok ()⟩
  | _ => exact ⟨()⟩

theorem Follows.next {next : q.Answer → Pool.Run Outcome} (h : Follows name (.ask q next) st) :
    ∃ r st', Next name st q r st' := by
  obtain ⟨r⟩ := (inferInstance : Nonempty q.Answer)
  obtain ⟨st', hn, -⟩ := h r
  exact ⟨r, st', hn⟩

theorem Follows.dial {n : String} {db : Database}
    {next : Except StoreError Connection → Pool.Run Outcome}
    (h : Follows name (.ask (.dial n db) next) st) : n = name ∧ (st = .dial db ∨ st = .dialOnly db) := by
  obtain ⟨r, st', hn⟩ := h.next
  cases hn with
  | dialError | dialOk => exact ⟨rfl, .inl rfl⟩
  | onlyError | onlyOk => exact ⟨rfl, .inr rfl⟩

theorem Follows.release {next : Unit → Pool.Run Outcome} {result : Outcome}
    (h : Follows name (.ask .release next) st) (hnext : next () = .done result) :
    st = .release result := by
  obtain ⟨st', hn, hf⟩ := h ()
  rw [hnext] at hf
  cases hn with
  | release r' =>
    cases hf
    rfl

theorem Follows.ended {result : Outcome} (h : Follows name (.done result) st) : st = .ended result := h

/-! ## A store that does not fail -/

/-- The answer to a step if the store does not fail, and what it does to the pool. There is none while
the step has to wait for the lock. -/
def reply (i : ι) : (q : Step) → Shared ι → Option (q.Answer × Shared ι)
  | .look name, s => if s.holder.isNone then some (s.cached.get? name, s) else none
  | .ping _, s => some (.ok (), s)
  | .acquire, s =>
    if s.holder.isNone then some ((), { s with holder := some i, before := s.cached }) else none
  | .lookAgain name, s => some (s.cached.get? name, s)
  | .evict name, s => some ((), { s with cached := s.cached.erase name })
  | .dial name db, s => some (.ok ⟨name, db, 0⟩, s)
  | .insert name c, s => some ((), { s with cached := s.cached.put name c })
  | .release, s => some ((), { s with holder := none })

theorem moves_reply (h : reply i q s = some (r, s')) : Moves i s q r s' ∧ ¬ Failed ⟨q, r⟩ := by
  cases q with
  | look | acquire =>
    simp only [reply, Option.ite_none_right_eq_some, Option.isNone_iff_eq_none] at h
    obtain ⟨hfree, h⟩ := h
    cases h
    exact ⟨by simp [Moves, hfree], id⟩
  | lookAgain =>
    cases h
    exact ⟨⟨rfl, rfl⟩, id⟩
  | _ =>
    cases h
    exact ⟨rfl, id⟩

/-- A step that has to wait for the lock. -/
def Step.Waits : Step → Prop
  | look _ | acquire => True
  | _ => False

theorem reply_of_not_waits (h : s.holder = none ∨ ¬ q.Waits) : ∃ r s', reply i q s = some (r, s') := by
  cases q with
  | look | acquire =>
    have hfree : s.holder = none := h.resolve_right fun h => h trivial
    simp [reply, hfree]
  | _ => exact ⟨_, _, rfl⟩

theorem Next.not_waits (hn : Next name st q r st') (hl : st.Locked) : ¬ q.Waits := by
  cases hn <;> first | exact id | exact fun _ => hl

section

variable [DecidableEq ι]

/-- **No call waits for ever**: as long as a call is not at its end, one of them can go on without a
failure. -/
theorem goes_on (h : Use call p s log) (hi : ∀ result, p i ≠ .done result) :
    ∃ k q next r s', p k = .ask q next ∧ Moves k s q r s' ∧ ¬ Failed ⟨q, r⟩ := by
  obtain ⟨stage, hstaged, hfollows⟩ := staged h
  have hcan {k : ι} (hk : ∀ result, p k ≠ .done result)
      (hlock : s.holder = none ∨ (stage k).Locked) :
      ∃ k q next r s', p k = .ask q next ∧ Moves k s q r s' ∧ ¬ Failed ⟨q, r⟩ := by
    cases hp : p k with
    | done result => exact absurd hp (hk result)
    | ask q next =>
      have hfollow := hfollows k
      rw [hp] at hfollow
      obtain ⟨_, _, hn⟩ := hfollow.next
      obtain ⟨r, s', hr⟩ := reply_of_not_waits (i := k) (hlock.imp_right hn.not_waits)
      exact ⟨k, q, next, r, s', hp, moves_reply hr⟩
  -- While the lock is taken it is the call that has it that can go on, and else every call can.
  cases hholder : s.holder with
  | none => exact hcan hi (.inl hholder)
  | some k =>
    have hl := (hstaged.inv.holder k).mp hholder
    refine hcan (fun result hk => ?_) (.inr hl)
    have hfollow := hfollows k
    rw [hk] at hfollow
    rw [hfollow.ended] at hl
    exact hl

/-! ## Safety -/

/-- What holds of a pool at every moment. -/
structure Safe (call : ι → Call) (p : ι → Pool.Run Outcome) (s : Shared ι)
    (log : List (ι × Asked Step.Answer)) : Prop where
  /-- A call that connects dials its own database, has the lock then, and has found under that lock
  that nothing was cached or that what was cached failed a ping. -/
  dialing : ∀ i name n db next, call i = .connect name → p i = .ask (.dial n db) next →
    n = name ∧ Database.ofName? name = some db ∧ s.holder = some i ∧ s.cached.get? name = none ∧
      ((∃ t, own i log = t ++ [⟨.acquire, ()⟩, ⟨.lookAgain name, none⟩]) ∨
        ∃ t c e, own i log = t ++ [⟨.acquire, ()⟩, ⟨.lookAgain name, some c⟩,
          ⟨.ping c, .error e⟩, ⟨.evict name, ()⟩])
  /-- If no ping and no dialing has failed, a database is dialed once, and all calls that connect to it
  give the same connection. -/
  shared : Healthy log → ∀ name, (Database.ofName? name).isSome = true →
    (dials call name log).length ≤ 1 ∧
      ∀ i result, call i = .connect name → p i = .done result →
        ∃ c, result = .ok (some c) ∧ dials call name log = [.ok c]
  /-- If no ping and no dialing has failed, a name without a database is never dialed, and all calls
  that connect to it fail. -/
  unknown : Healthy log → ∀ name, Database.ofName? name = none →
    dials call name log = [] ∧
      ∀ i result, call i = .connect name → p i = .done result →
        result = .error (.unknownDatabase name)
  /-- A connection that is given has answered a ping. -/
  pinged : ∀ i c, p i = .done (.ok (some c)) → ⟨.ping c, .ok ()⟩ ∈ own i log
  /-- A call that connects gives a connection unless it fails. -/
  connected : ∀ i name, call i = .connect name → p i ≠ .done (.ok none)
  /-- When a call that fails gives the lock back, nothing is cached for its database, and what is cached
  for the others is what was cached when it took the lock. -/
  failing : ∀ i next e, p i = .ask .release next → next () = .done (.error e) →
    s.holder = some i ∧ s.cached.get? (call i).name = none ∧
      ∀ other, other ≠ (call i).name → s.cached.get? other = s.before.get? other
  /-- A call that fails to connect has given the lock back last. -/
  released : ∀ i name e, call i = .connect name → p i = .done (.error e) →
    ∃ t, own i log = t ++ [⟨.release, ()⟩]
  /-- What is cached has a database. -/
  known : ∀ name c, s.cached.get? name = some c → (Database.ofName? name).isSome = true
  /-- A call that probes changes nothing. -/
  probing : ∀ i name q next r s', call i = .probe name → p i = .ask q next → Moves i s q r s' → s' = s
  /-- As long as a call is not at its end, one of them can go on without a failure. -/
  goesOn : ∀ i, (∀ result, p i ≠ .done result) →
    ∃ k q next r s', p k = .ask q next ∧ Moves k s q r s' ∧ ¬ Failed ⟨q, r⟩
  /-- Every call ends after ten steps at most. -/
  bounded : ∀ i, (own i log).length ≤ 10

/-- **Safety of pools.** Any number of calls, in any interleaving of their steps, whatever fails. -/
theorem safe (h : Use call p s log) : Safe call p s log := by
  obtain ⟨stage, hstaged, hfollows⟩ := staged h
  have hinv := hstaged.inv
  have hdone {i : ι} {result : Outcome} (hp : p i = .done result) : stage i = .ended result := by
    have hfollow := hfollows i
    rwa [hp] at hfollow
  refine ⟨?dialing, ?shared, ?unknown, ?pinged, ?connected, ?failing, ?released, hinv.known, ?probing,
    fun _ => goes_on h, fun i => Nat.le_trans (hstaged.path i).length_le (stage i).rank_le⟩
  case dialing =>
    intro i name n db next hcall hp
    have hfollow := hfollows i
    have hpath := hstaged.path i
    rw [hp] at hfollow
    rw [hcall] at hfollow hpath
    obtain ⟨rfl, hi | hi⟩ := hfollow.dial
    · rw [hi] at hpath
      have habsent := hinv.absent i (by rw [hi]; trivial)
      rw [hcall] at habsent
      exact ⟨rfl, hpath.checked.1, (hinv.holder i).mpr (by rw [hi]; trivial), habsent,
        hpath.checked.2⟩
    · rw [hi] at hpath
      exact hpath.of.elim
  case shared =>
    intro hlog name hname
    have hsingle := hstaged.single hlog
    refine ⟨hsingle.length_dials_le name, fun i result hcall hp => ?_⟩
    rcases hsingle.ended hstaged hcall (hdone hp) with ⟨c, hc, hdials, -⟩ | ⟨-, hnone⟩
    · exact ⟨c, hc, hdials⟩
    · rw [hnone] at hname
      cases hname
  case unknown =>
    intro hlog name hname
    have hsingle := hstaged.single hlog
    refine ⟨hsingle.dials_unknown hstaged hname, fun i result hcall hp => ?_⟩
    rcases hsingle.ended hstaged hcall (hdone hp) with ⟨c, -, -, hsome⟩ | ⟨he, -⟩
    · rw [hname] at hsome
      cases hsome
    · exact he
  case pinged =>
    intro i c hp
    exact (hstaged.path i).pinged (by rw [hdone hp]; rfl)
  case connected =>
    intro i name hcall hp
    have hof := (hstaged.path i).of
    rw [hdone hp, hcall] at hof
    exact hof
  case failing =>
    intro i next e hp hnext
    have hfollow := hfollows i
    rw [hp] at hfollow
    have hi := hfollow.release hnext
    have hlocked : (stage i).Locked := by
      rw [hi]
      trivial
    exact ⟨(hinv.holder i).mpr hlocked, hinv.absent i (by rw [hi]; trivial), hinv.others i hlocked⟩
  case released =>
    intro i name e hcall hp
    have hpath := hstaged.path i
    rw [hdone hp, hcall] at hpath
    exact hpath.released
  case probing =>
    intro i name q next r s' hcall hp hm
    have hfollow := hfollows i
    have hof := (hstaged.path i).of
    rw [hp] at hfollow
    rw [hcall] at hof
    obtain ⟨_, _, hn⟩ := hfollow.next
    refine (moves_quiet hm ?_).1
    generalize stage i = st at hn hof
    cases hn with
    | acquire | evict | insert | release => exact hof.elim
    | _ => trivial

end

/-! ## Two calls in turns -/

/-- Two calls that connect to one database, in turns, over a store that does not fail. -/
def together (name : String) (turns : List Bool) :
    (Bool → Pool.Run Outcome) × Shared Bool × List (Bool × Asked Step.Answer) :=
  play reply turns (fun _ => (Call.connect name).program, .empty, [])

theorem use_together (name : String) (turns : List Bool) :
    Use (fun _ => .connect name) (together name turns).1 (together name turns).2.1
      (together name turns).2.2 :=
  concurrent_play (fun i q s r s' (h : reply i q s = some (r, s')) => (moves_reply h).1) .start turns

theorem healthy_together (name : String) (turns : List Bool) :
    Healthy (together name turns).2.2 := by
  have hplay : Concurrent (fun i s q r s' => reply i q s = some (r, s'))
      (fun _ => (Call.connect name).program) .empty (together name turns).1
      (together name turns).2.1 (together name turns).2.2 :=
    concurrent_play (fun _ _ _ _ _ h => h) .start turns
  exact (hplay.keeps (I := fun _ => True) (P := fun a => ¬ Failed a) trivial
    fun _ _ _ _ _ _ h => ⟨trivial, (moves_reply h).2⟩).2

/-- Both calls look first, and the second one has to wait for the lock. -/
def racing : List Bool := [false, true] ++ List.replicate 6 false ++ List.replicate 4 true

/-- Two calls that find nothing cached at the same time, and share the connection that one of them
opens. -/
theorem opened_once :
    ∃ p s log, Use (fun _ : Bool => .connect "CONFIG_DB") p s log ∧ Healthy log ∧
      (∀ i, p i = .done (.ok (some ⟨"CONFIG_DB", .configuration, 0⟩))) ∧
      Safe (fun _ => .connect "CONFIG_DB") p s log := by
  refine ⟨_, _, _, use_together "CONFIG_DB" racing, healthy_together _ _, fun i => ?_,
    safe (use_together "CONFIG_DB" racing)⟩
  cases i <;> rfl

/-- Two calls that connect to a name without a database: nothing fails in the store, but nothing is
dialed, and neither call gives a connection. -/
theorem none_opened :
    ∃ p s log, Use (fun _ : Bool => .connect "NOPE_DB") p s log ∧ Healthy log ∧
      (∀ i, p i = .done (.error (.unknownDatabase "NOPE_DB"))) ∧
      dials (fun _ => .connect "NOPE_DB") "NOPE_DB" log = [] := by
  refine ⟨_, _, _, use_together "NOPE_DB" racing, healthy_together _ _, fun i => ?_, by rfl⟩
  cases i <;> rfl

end SwitchFleet.Pool

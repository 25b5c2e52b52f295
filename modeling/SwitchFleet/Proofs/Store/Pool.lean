import SwitchFleet.Proofs.Keyed
import SwitchFleet.Proofs.Store.Stages

/-!
# Pools in use

Any number of calls use one pool at the same time. Their steps are interleaved in any order, and every
ping and every dialing may fail.

* `Pool.Shared`, `Pool.Moves`: the cache and the lock, and what a step does to them.
* `Pool.Use`: a pool in use. **`staged`**: each of its calls is at a stage, and `Staged.path`: where its
  own steps have led it.
* `Pool.Inv`: the invariant. **`inv_step`**: every step keeps it, and `Staged.inv`: it holds of every
  pool in use.
-/

namespace SwitchFleet.Pool

open Program

/-! ## The lock and the cache -/

/-- What the calls of a pool share. -/
structure Shared (ι : Type) where
  cached : Keyed Connection
  /-- The call that has the lock. -/
  holder : Option ι
  /-- What was cached when the lock was last taken. -/
  before : Keyed Connection

/-- A pool that was not used yet. -/
def Shared.empty {ι : Type} : Shared ι := ⟨[], none, []⟩

/-- What a step of call `i` may be answered, and what it does to the pool. A connection may die and the
store may be out of reach at any time, so that every ping and every dialing may fail. -/
def Moves {ι : Type} (i : ι) (s : Shared ι) : (q : Step) → q.Answer → Shared ι → Prop
  | .look name, r, s' => s.holder = none ∧ r = s.cached.get? name ∧ s' = s
  | .ping _, _, s' => s' = s
  | .acquire, _, s' => s.holder = none ∧ s' = { s with holder := some i, before := s.cached }
  | .lookAgain name, r, s' => r = s.cached.get? name ∧ s' = s
  | .evict name, _, s' => s' = { s with cached := s.cached.erase name }
  | .dial .., _, s' => s' = s
  | .insert name c, _, s' => s' = { s with cached := s.cached.put name c }
  | .release, _, s' => s' = { s with holder := none }

variable {ι : Type} {call : ι → Call} {stage : ι → Stage} {p : ι → Pool.Run Outcome}
  {s s' : Shared ι} {log : List (ι × Asked Step.Answer)} {i : ι} {q : Step} {r : q.Answer}
  {stage' : Stage}

/-! ## The invariant -/

/-- A stage at which no connection is cached. -/
def Stage.Lacks : Stage → Prop
  | dial _ | pingNew _ | insert _ | release (.error _) => True
  | _ => False

theorem Stage.Lacks.locked {stage : Stage} (h : stage.Lacks) : stage.Locked := by
  cases stage <;> first | exact h.elim | trivial

/-- **The invariant.** At most one call has the lock, and it is at one of the stages that need it. It
dials and fails only where nothing is cached for its database, and it leaves what is cached for others
alone. What is cached has a database. -/
structure Inv (call : ι → Call) (stage : ι → Stage) (s : Shared ι) : Prop where
  holder : ∀ i, s.holder = some i ↔ (stage i).Locked
  absent : ∀ i, (stage i).Lacks → s.cached.get? (call i).name = none
  others : ∀ i, (stage i).Locked → ∀ name, name ≠ (call i).name →
    s.cached.get? name = s.before.get? name
  known : ∀ name c, s.cached.get? name = some c → (Database.ofName? name).isSome = true

theorem inv_start : Inv call (fun i => (call i).first) .empty := by
  have hfirst (i : ι) : ¬ (call i).first.Locked ∧ ¬ (call i).first.Lacks := by
    cases call i with
    | connect name => exact ⟨id, id⟩
    | probe name => rcases first_probe_cases name with ⟨-, h⟩ | ⟨db, -, h⟩ <;> rw [h] <;> exact ⟨id, id⟩
  refine ⟨fun i => ?_, fun i hi => absurd hi (hfirst i).2, fun i hi => absurd hi (hfirst i).1,
    fun _ _ h => nomatch h⟩
  exact iff_of_false (fun h => nomatch h) (hfirst i).1

theorem Inv.unique (h : Inv call stage s) {i k : ι} (hi : (stage i).Locked) (hk : (stage k).Locked) :
    k = i :=
  Option.some.inj (((h.holder k).mpr hk).symm.trans ((h.holder i).mpr hi))

/-! ## Steps that change nothing that is shared -/

/-- A step that only looks at the pool, or calls the store. -/
def Step.Quiet : Step → Prop
  | look _ | ping _ | lookAgain _ | dial .. => True
  | acquire | evict _ | insert .. | release => False

instance (q : Step) : Decidable q.Quiet := by
  cases q <;> first | exact isTrue trivial | exact isFalse id

theorem moves_quiet (hm : Moves i s q r s') (hq : q.Quiet) :
    s' = s ∧ ∀ name, (⟨q, r⟩ : Asked Step.Answer) = ⟨.lookAgain name, none⟩ →
      s.cached.get? name = none := by
  cases q with
  | look name => exact ⟨hm.2.2, fun _ h => nomatch h⟩
  | ping c => exact ⟨hm, fun _ h => nomatch h⟩
  | lookAgain name =>
    refine ⟨hm.2, fun _ h => ?_⟩
    cases h
    exact hm.1.symm
  | dial name db => exact ⟨hm, fun _ h => nomatch h⟩
  | _ => exact hq.elim

/-- A quiet step neither takes the lock nor gives it back. Only a look at the cache can show that a
connection is lacking. -/
theorem next_quiet {name : String} {stage : Stage} (hn : Next name stage q r stage') (hq : q.Quiet) :
    (stage'.Locked ↔ stage.Locked) ∧
      (stage'.Lacks → ¬ stage.Lacks → (⟨q, r⟩ : Asked Step.Answer) = ⟨.lookAgain name, none⟩) := by
  cases hn with
  | acquire | evict | insert | release => exact hq.elim
  | againNone => exact ⟨iff_of_true (locked_missing name) trivial, fun _ _ => rfl⟩
  | _ => exact ⟨Iff.rfl, fun h h' => by first | exact h.elim | exact absurd trivial h'⟩

/-! ## Pools in use -/

section

variable [DecidableEq ι]

/-- A pool in use: what is left of its calls, what they share, and the steps so far. -/
abbrev Use (call : ι → Call) (p : ι → Pool.Run Outcome) (s : Shared ι)
    (log : List (ι × Asked Step.Answer)) : Prop :=
  Concurrent Moves (fun i => (call i).program) .empty p s log

/-- A pool in use, with the stages of its calls. -/
inductive Staged (call : ι → Call) : (ι → Stage) → Shared ι → List (ι × Asked Step.Answer) → Prop where
  | start : Staged call (fun i => (call i).first) .empty []
  | step {stage : ι → Stage} {s s' : Shared ι} {log : List (ι × Asked Step.Answer)} {i : ι}
    {q : Step} {r : q.Answer} {stage' : Stage} (h : Staged call stage s log)
    (hn : Next (call i).name (stage i) q r stage') (hm : Moves i s q r s') :
    Staged call (Function.update stage i stage') s' (log ++ [(i, ⟨q, r⟩)])

/-- **Stages of a pool in use.** -/
theorem staged (h : Use call p s log) :
    ∃ stage, Staged call stage s log ∧ ∀ i, Follows (call i).name (p i) (stage i) := by
  induction h with
  | start => exact ⟨_, .start, fun i => follows_program (call i)⟩
  | @step p _ _ _ i q next r _ hp hs ih =>
    obtain ⟨stage, hstaged, hfollows⟩ := ih
    have hi := hfollows i
    rw [hp] at hi
    obtain ⟨stage', hn, hnext⟩ := hi r
    refine ⟨_, hstaged.step hn hs, ?_⟩
    intro k
    by_cases hk : k = i
    · subst hk
      simpa using hnext
    · simpa [hk] using hfollows k

theorem Staged.path (h : Staged call stage s log) (i : ι) : Path (call i) (own i log) (stage i) := by
  induction h with
  | start => exact .start
  | @step _ _ _ _ j q r stage' _ hn _ ih =>
    rw [own_append]
    by_cases hj : j = i
    · subst hj
      rw [Function.update_self, own_cons_self]
      exact ih.step hn
    · rw [Function.update_of_ne fun h => hj h.symm, own_cons_of_ne hj, own_nil, List.append_nil]
      exact ih

/-! ## The invariant is kept -/

theorem Inv.quiet (h : Inv call stage s) (hl : stage'.Locked ↔ (stage i).Locked)
    (ha : stage'.Lacks → s.cached.get? (call i).name = none) :
    Inv call (Function.update stage i stage') s where
  holder := by
    refine (Function.forall_update_iff stage fun k st => s.holder = some k ↔ st.Locked).mpr ?_
    exact ⟨(h.holder i).trans hl.symm, fun k _ => h.holder k⟩
  absent := by
    refine (Function.forall_update_iff stage fun k st =>
      st.Lacks → s.cached.get? (call k).name = none).mpr ?_
    exact ⟨ha, fun k _ => h.absent k⟩
  others := by
    refine (Function.forall_update_iff stage fun k st => st.Locked → ∀ name, name ≠ (call k).name →
      s.cached.get? name = s.before.get? name).mpr ?_
    exact ⟨fun hi => h.others i (hl.mp hi), fun k _ => h.others k⟩
  known := h.known

theorem Inv.acquire (h : Inv call stage s) (hfree : s.holder = none) :
    Inv call (Function.update stage i .lookAgain)
      { s with holder := some i, before := s.cached } where
  holder k := by
    by_cases hk : k = i
    · subst hk
      rw [Function.update_self]
      exact iff_of_true rfl trivial
    · rw [Function.update_of_ne hk]
      refine iff_of_false (fun h => hk (Option.some.inj h).symm) fun hl => ?_
      rw [(h.holder k).mpr hl] at hfree
      cases hfree
  absent k hk := by
    by_cases hki : k = i
    · subst hki
      rw [Function.update_self] at hk
      exact hk.elim
    · rw [Function.update_of_ne hki] at hk
      exact h.absent k hk
  others _ _ _ _ := rfl
  known := h.known

theorem Inv.change (h : Inv call stage s) (hl : (stage i).Locked) {cached : Keyed Connection}
    (hl' : stage'.Locked) (hkept : ∀ name, name ≠ (call i).name →
      cached.get? name = s.cached.get? name)
    (ha : stage'.Lacks → cached.get? (call i).name = none)
    (hknown : ∀ c, cached.get? (call i).name = some c →
      (Database.ofName? (call i).name).isSome = true) :
    Inv call (Function.update stage i stage') { s with cached } where
  holder := by
    refine (Function.forall_update_iff stage fun k st => s.holder = some k ↔ st.Locked).mpr ?_
    exact ⟨iff_of_true ((h.holder i).mpr hl) hl', fun k _ => h.holder k⟩
  absent k hk := by
    by_cases hki : k = i
    · subst hki
      rw [Function.update_self] at hk
      exact ha hk
    · rw [Function.update_of_ne hki] at hk
      exact absurd (h.unique hl hk.locked) hki
  others k hk name hn := by
    by_cases hki : k = i
    · subst hki
      exact (hkept name hn).trans (h.others k hl name hn)
    · rw [Function.update_of_ne hki] at hk
      exact absurd (h.unique hl hk) hki
  known name c hc := by
    by_cases hn : name = (call i).name
    · subst hn
      exact hknown c hc
    · rw [show ({ s with cached := cached } : Shared ι).cached.get? name = _ from hkept name hn] at hc
      exact h.known name c hc

theorem Inv.release (h : Inv call stage s) (hl : (stage i).Locked) (hl' : ¬ stage'.Locked)
    (ha : ¬ stage'.Lacks) : Inv call (Function.update stage i stage') { s with holder := none } where
  holder := by
    refine (Function.forall_update_iff stage fun k st => none = some k ↔ st.Locked).mpr ?_
    refine ⟨iff_of_false (fun h => nomatch h) hl', fun k hk => ?_⟩
    exact iff_of_false (fun h => nomatch h) fun hlk => hk (h.unique hl hlk)
  absent := by
    refine (Function.forall_update_iff stage fun k st =>
      st.Lacks → s.cached.get? (call k).name = none).mpr ?_
    exact ⟨fun hi => absurd hi ha, fun k _ => h.absent k⟩
  others := by
    refine (Function.forall_update_iff stage fun k st => st.Locked → ∀ name, name ≠ (call k).name →
      s.cached.get? name = s.before.get? name).mpr ?_
    exact ⟨fun hi => absurd hi hl', fun k _ => h.others k⟩
  known := h.known

/-- **Every step keeps the invariant.** -/
theorem inv_step {t : List (Asked Step.Answer)} (h : Inv call stage s)
    (hpath : Path (call i) t (stage i)) (hn : Next (call i).name (stage i) q r stage')
    (hm : Moves i s q r s') : Inv call (Function.update stage i stage') s' := by
  -- What touches the lock or the cache is done by the call that has the lock, so that only its own
  -- part of the invariant is at stake. Every other step moves that call alone.
  by_cases hq : q.Quiet
  · obtain ⟨rfl, hnone⟩ := moves_quiet hm hq
    obtain ⟨hlocked, hlacks⟩ := next_quiet hn hq
    refine h.quiet hlocked fun hl => ?_
    by_cases hl' : (stage i).Lacks
    · exact h.absent i hl'
    · exact hnone _ (hlacks hl hl')
  have hchecked := hpath.checked
  generalize hst : stage i = st at hn hchecked
  have hl : st.Locked → (stage i).Locked := fun hl => hst ▸ hl
  cases hn with
  | acquire =>
    obtain ⟨hfree, rfl⟩ := hm
    exact h.acquire hfree
  | evict =>
    cases hm
    refine h.change (hl trivial) (locked_missing _) (fun name hname => ?_) (fun _ => ?_) fun c hc => ?_
    · rw [Keyed.get?_erase, if_neg hname]
    · rw [Keyed.get?_erase, if_pos rfl]
    · rw [Keyed.get?_erase, if_pos rfl] at hc
      cases hc
  | insert c =>
    cases hm
    refine h.change (hl trivial) trivial (fun name hname => ?_) (fun h => h.elim) fun _ _ => hchecked
    rw [Keyed.get?_put, if_neg hname]
  | release r =>
    cases hm
    exact h.release (hl trivial) id id
  | _ => exact absurd trivial hq

theorem Staged.inv (h : Staged call stage s log) : Inv call stage s := by
  induction h with
  | start => exact inv_start
  | step h hn hm ih => exact inv_step ih (h.path _) hn hm

end

end SwitchFleet.Pool

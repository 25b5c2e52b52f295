import SwitchFleet.Proofs.Store.Pool

/-!
# Connections that are shared

As long as no ping and no dialing fails, a database is dialed once, and all calls that connect to it
share what was dialed.

* `Pool.Healthy`: no ping and no dialing has failed. `Pool.dials`: what was dialed for a name.
* `Pool.Single`: what was dialed for a name is the connection that is cached, or one that is going to
  be cached. **`single_step`**: every step keeps this, and `Staged.single`: it holds of every pool in
  use.
-/

namespace SwitchFleet.Pool

open Program

variable {ι : Type} {call : ι → Call} {stage : ι → Stage} {p : ι → Pool.Run Outcome}
  {s s' : Shared ι} {log : List (ι × Asked Step.Answer)} {i : ι} {q : Step} {r : q.Answer}
  {stage' : Stage} {name : String}

/-! ## Pools with a store that does not fail -/

/-- A ping or a dialing that failed. -/
def Failed : Asked Step.Answer → Prop
  | ⟨.ping _, .error _⟩ | ⟨.dial .., .error _⟩ => True
  | _ => False

/-- No ping and no dialing has failed. -/
def Healthy (log : List (ι × Asked Step.Answer)) : Prop := ∀ e ∈ log, ¬ Failed e.2

/-- The answer to a dialing. -/
def dialed? : Asked Step.Answer → Option (Except StoreError Connection)
  | ⟨.dial .., r⟩ => some r
  | _ => none

/-- The answers to the dialings of all calls that connect to a database, first one first. -/
def dials (call : ι → Call) (name : String) (log : List (ι × Asked Step.Answer)) :
    List (Except StoreError Connection) :=
  log.filterMap fun e => if call e.1 = .connect name then dialed? e.2 else none

theorem dials_append (name : String) (a : Asked Step.Answer) :
    dials call name (log ++ [(i, a)]) =
      dials call name log ++ (if call i = .connect name then dialed? a else none).toList := by
  unfold dials
  rw [List.filterMap_append]
  cases h : (if call i = .connect name then dialed? a else none) <;> simp [h]

theorem dials_append_of_none {a : Asked Step.Answer} (h : dialed? a = none) (name : String) :
    dials call name (log ++ [(i, a)]) = dials call name log := by
  rw [dials_append, h, ite_self, Option.toList_none, List.append_nil]

theorem dials_append_of_ne {a : Asked Step.Answer} (h : call i ≠ .connect name) :
    dials call name (log ++ [(i, a)]) = dials call name log := by
  rw [dials_append, if_neg h, Option.toList_none, List.append_nil]

/-! ## One connection for each name -/

/-- The connection that a call has opened and that is not cached yet. -/
def Stage.opened? : Stage → Option Connection
  | pingNew c | insert c => some c
  | _ => none

/-- A call is where it can be if no ping and no dialing has failed and if `cached` is cached for its
database: a connection that was found is the cached one, and the only error is that there is no such
database. -/
def Stage.Fits (name : String) (cached : Option Connection) : Stage → Prop
  | ping c | pingAgain c => cached = some c
  | release (.ok (some c)) | ended (.ok (some c)) => cached = some c
  | release (.error e) | ended (.error e) =>
    e = .unknownDatabase name ∧ Database.ofName? name = none
  | evict => False
  | _ => True

theorem Stage.Fits.of_none {stage : Stage} (h : stage.Fits name none)
    (cached : Option Connection) : stage.Fits name cached := by
  cases stage with
  | ping | pingAgain => cases h
  | release r | ended r =>
    cases r with
    | error e => exact h
    | ok c =>
      cases c with
      | none => trivial
      | some c => cases h
  | _ => exact h

theorem fits_missing (name : String) (cached : Option Connection) :
    (missing name).Fits name cached := by
  rcases missing_cases name with ⟨hnone, h⟩ | ⟨db, -, h⟩ <;> rw [h]
  · exact ⟨rfl, hnone⟩
  · trivial

theorem opened?_missing (name : String) : (missing name).opened? = none := by
  rcases missing_cases name with ⟨-, h⟩ | ⟨db, -, h⟩ <;> rw [h] <;> rfl

/-- **One connection for each name.** What was dialed for a name is the connection that is cached, or
the one that a call has opened and is going to cache. If there is neither, nothing was dialed. -/
structure Single (call : ι → Call) (stage : ι → Stage) (s : Shared ι)
    (log : List (ι × Asked Step.Answer)) : Prop where
  cached : ∀ name c, s.cached.get? name = some c → dials call name log = [.ok c]
  opened : ∀ i c, (stage i).opened? = some c → dials call (call i).name log = [.ok c]
  untried : ∀ name, s.cached.get? name = none →
    (∀ i, (call i).name = name → (stage i).opened? = none) → dials call name log = []
  fits : ∀ i, (stage i).Fits (call i).name (s.cached.get? (call i).name)

theorem single_start : Single call (fun i => (call i).first) .empty [] where
  cached _ _ h := nomatch h
  opened i c h := by
    revert h
    cases call i with
    | connect name => exact fun h => nomatch h
    | probe name =>
      rcases first_probe_cases name with ⟨-, h⟩ | ⟨db, -, h⟩ <;> rw [h] <;> exact fun h => nomatch h
  untried _ _ _ := rfl
  fits i := by
    cases call i with
    | connect name => trivial
    | probe name =>
      rcases first_probe_cases name with ⟨hnone, h⟩ | ⟨db, -, h⟩ <;> rw [h]
      · exact ⟨rfl, hnone⟩
      · trivial

theorem Single.length_dials_le (h : Single call stage s log) (name : String) :
    (dials call name log).length ≤ 1 := by
  cases hc : s.cached.get? name with
  | some c => exact Nat.le_of_eq (congrArg List.length (h.cached name c hc))
  | none =>
    by_cases hopened : ∀ i, (call i).name = name → (stage i).opened? = none
    · rw [h.untried name hc hopened]
      exact Nat.zero_le 1
    · obtain ⟨i, hi⟩ := not_forall.mp hopened
      obtain ⟨rfl, hsome⟩ := Classical.not_imp.mp hi
      obtain ⟨c, hc⟩ := Option.ne_none_iff_exists'.mp hsome
      exact Nat.le_of_eq (congrArg List.length (h.opened i c hc))

section

variable [DecidableEq ι]

theorem Single.keep {a : Asked Step.Answer} (h : Single call stage s log)
    (hcached : s'.cached = s.cached)
    (hdials : ∀ name, dials call name (log ++ [(i, a)]) = dials call name log)
    (hopened : stage'.opened? = (stage i).opened?)
    (hfits : stage'.Fits (call i).name (s.cached.get? (call i).name)) :
    Single call (Function.update stage i stage') s' (log ++ [(i, a)]) := by
  have hupdate : ∀ k, (Function.update stage i stage' k).opened? = (stage k).opened? :=
    (Function.forall_update_iff stage fun k st => st.opened? = (stage k).opened?).mpr
      ⟨hopened, fun _ _ => rfl⟩
  refine ⟨fun name c hc => ?_, fun k c hk => ?_, fun name hnone hk => ?_, ?_⟩
  · rw [hdials]
    exact h.cached name c (hcached ▸ hc)
  · rw [hdials]
    exact h.opened k c (hupdate k ▸ hk)
  · rw [hdials]
    exact h.untried name (hcached ▸ hnone) fun k hn => hupdate k ▸ hk k hn
  · rw [hcached]
    exact (Function.forall_update_iff stage fun k st =>
      st.Fits (call k).name (s.cached.get? (call k).name)).mpr ⟨hfits, fun k _ => h.fits k⟩

theorem Stage.locked_of_opened? {stage : Stage} {c : Connection} (h : stage.opened? = some c) :
    stage.Locked := by
  cases stage with
  | pingNew | insert => trivial
  | _ => cases h

theorem Single.dial {db : Database} {c : Connection} {a : Asked Step.Answer}
    (h : Single call stage s log) (hinv : Inv call stage s) (hi : stage i = .dial db)
    (hcall : call i = .connect name) (ha : dialed? a = some (.ok c)) :
    Single call (Function.update stage i (.pingNew c)) s (log ++ [(i, a)]) := by
  have hlocked : (stage i).Locked := by
    rw [hi]
    trivial
  have hname : (call i).name = name := by rw [hcall]; rfl
  have hnone : s.cached.get? name = none := hname ▸ hinv.absent i (by rw [hi]; trivial)
  -- Whoever has opened a connection has the lock, which call `i` has.
  have hopened (k : ι) : (stage k).opened? = none := by
    cases hk : (stage k).opened? with
    | none => rfl
    | some c' =>
      have hki := hinv.unique hlocked (Stage.locked_of_opened? hk)
      rw [hki, hi] at hk
      cases hk
  have hdials : dials call name (log ++ [(i, a)]) = [.ok c] := by
    rw [dials_append, if_pos hcall, ha, h.untried name hnone fun k _ => hopened k]
    rfl
  have hothers {other : String} (hother : other ≠ name) :
      dials call other (log ++ [(i, a)]) = dials call other log := by
    refine dials_append_of_ne fun hcall' => hother ?_
    rw [hcall] at hcall'
    exact (Call.connect.inj hcall').symm
  refine ⟨fun other c' hc => ?_, fun k c' hk => ?_, fun other hother hk => ?_, ?_⟩
  · have hne : other ≠ name := by
      rintro rfl
      rw [hnone] at hc
      cases hc
    rw [hothers hne]
    exact h.cached other c' hc
  · by_cases hki : k = i
    · subst hki
      rw [Function.update_self] at hk
      cases hk
      rw [hname, hdials]
    · rw [Function.update_of_ne hki, hopened k] at hk
      cases hk
  · have hne : other ≠ name := by
      rintro rfl
      have hi' := hk i hname
      rw [Function.update_self] at hi'
      cases hi'
    rw [hothers hne]
    exact h.untried other hother fun k _ => hopened k
  · exact (Function.forall_update_iff stage fun k st =>
      st.Fits (call k).name (s.cached.get? (call k).name)).mpr ⟨trivial, fun k _ => h.fits k⟩

theorem Single.insert {c : Connection} (h : Single call stage s log) (hinv : Inv call stage s)
    (hi : stage i = .insert c) :
    Single call (Function.update stage i (.release (.ok (some c))))
      { s with cached := s.cached.put (call i).name c }
      (log ++ [(i, ⟨.insert (call i).name c, ()⟩)]) := by
  have hlocked : (stage i).Locked := by
    rw [hi]
    trivial
  have hnone : s.cached.get? (call i).name = none := hinv.absent i (by rw [hi]; trivial)
  have hdials (name : String) :
      dials call name (log ++ [(i, ⟨.insert (call i).name c, ()⟩)]) = dials call name log :=
    dials_append_of_none rfl name
  refine ⟨fun name c' hc => ?_, fun k c' hk => ?_, fun name hname hk => ?_, fun k => ?_⟩
  · rw [hdials]
    rw [Keyed.get?_put] at hc
    split at hc
    · rename_i hname
      cases hc
      rw [hname]
      exact h.opened i c (by rw [hi]; rfl)
    · exact h.cached name c' hc
  · rw [hdials]
    by_cases hki : k = i
    · subst hki
      rw [Function.update_self] at hk
      cases hk
    · rw [Function.update_of_ne hki] at hk
      exact h.opened k c' hk
  · rw [hdials]
    rw [Keyed.get?_put] at hname
    split at hname
    · cases hname
    · rename_i hne
      refine h.untried name hname fun k hk' => ?_
      have hki : k ≠ i := by
        rintro rfl
        exact hne hk'.symm
      simpa [Function.update_of_ne hki] using hk k hk'
  · rw [Keyed.get?_put]
    by_cases hki : k = i
    · subst hki
      rw [Function.update_self, if_pos rfl]
      rfl
    · rw [Function.update_of_ne hki]
      have hk := h.fits k
      split
      · rename_i hname
        rw [hname, hnone] at hk
        rw [hname]
        exact hk.of_none _
      · exact hk

/-- **Every step keeps one connection for each name**, unless a ping or a dialing fails. -/
theorem single_step {t : List (Asked Step.Answer)} (h : Single call stage s log)
    (hinv : Inv call stage s) (hpath : Path (call i) t (stage i))
    (hn : Next (call i).name (stage i) q r stage') (hm : Moves i s q r s')
    (hok : ¬ Failed ⟨q, r⟩) :
    Single call (Function.update stage i stage') s' (log ++ [(i, ⟨q, r⟩)]) := by
  have hfits := h.fits i
  have hof := hpath.of
  generalize hst : stage i = st at hn hfits hof
  have hopened (h : stage'.opened? = st.opened?) : stage'.opened? = (stage i).opened? := hst ▸ h
  -- Nothing is ever evicted: what was found dead would have failed a ping.
  cases hn with
  | pingError | againError | dialError | newError | onlyError | testError => exact absurd trivial hok
  | evict => exact hfits.elim
  | lookNone =>
    obtain ⟨-, -, rfl⟩ := hm
    exact h.keep rfl (dials_append_of_none rfl) (hopened rfl) trivial
  | lookSome c =>
    obtain ⟨-, hr, rfl⟩ := hm
    exact h.keep rfl (dials_append_of_none rfl) (hopened rfl) hr.symm
  | pingOk c | againOk c =>
    cases hm
    exact h.keep rfl (dials_append_of_none rfl) (hopened rfl) hfits
  | acquire =>
    obtain ⟨-, rfl⟩ := hm
    exact h.keep rfl (dials_append_of_none rfl) (hopened rfl) trivial
  | againNone =>
    obtain ⟨-, rfl⟩ := hm
    exact h.keep rfl (dials_append_of_none rfl) (hopened (opened?_missing _)) (fits_missing _ _)
  | againSome c =>
    obtain ⟨hr, rfl⟩ := hm
    exact h.keep rfl (dials_append_of_none rfl) (hopened rfl) hr.symm
  | dialOk db c =>
    cases hm
    cases hcall : call i with
    | connect name => exact h.dial hinv hst hcall rfl
    | probe name =>
      rw [hcall] at hof
      exact hof.elim
  | newOk c | testOk c =>
    cases hm
    exact h.keep rfl (dials_append_of_none rfl) (hopened rfl) trivial
  | insert c =>
    cases hm
    exact h.insert hinv hst
  | release r =>
    cases hm
    refine h.keep rfl (dials_append_of_none rfl) (hopened rfl) ?_
    cases r with
    | error e => exact hfits
    | ok c => cases c <;> exact hfits
  | onlyOk db c =>
    cases hm
    refine h.keep rfl (fun name => dials_append_of_ne fun hcall => ?_) (hopened rfl) trivial
    rw [hcall] at hof
    exact hof.elim

theorem Staged.single (h : Staged call stage s log) (hlog : Healthy log) :
    Single call stage s log := by
  induction h with
  | start => exact single_start
  | step h hn hm ih =>
    obtain ⟨hbefore, hlast⟩ := List.forall_mem_append.mp hlog
    exact single_step (ih hbefore) h.inv (h.path _) hn hm (hlast _ (List.mem_singleton_self _))

theorem Single.dials_unknown (h : Single call stage s log) (hstaged : Staged call stage s log)
    (hname : Database.ofName? name = none) : dials call name log = [] := by
  refine h.untried name ?_ fun i hi => ?_
  · by_contra hc
    obtain ⟨c, hc⟩ := Option.ne_none_iff_exists'.mp hc
    have hsome := hstaged.inv.known name c hc
    rw [hname] at hsome
    cases hsome
  · have hchecked := (hstaged.path i).checked
    rw [hi] at hchecked
    cases hst : stage i with
    | pingNew c | insert c =>
      rw [hst] at hchecked
      have hsome : (Database.ofName? name).isSome = true := hchecked
      rw [hname] at hsome
      cases hsome
    | _ => rfl

/-- What a call that connects ends with as long as the store does not fail. -/
theorem Single.ended {result : Outcome} (h : Single call stage s log)
    (hstaged : Staged call stage s log) (hcall : call i = .connect name)
    (hi : stage i = .ended result) :
    (∃ c, result = .ok (some c) ∧ dials call name log = [.ok c] ∧
        (Database.ofName? name).isSome = true) ∨
      (result = .error (.unknownDatabase name) ∧ Database.ofName? name = none) := by
  have hname : (call i).name = name := by rw [hcall]; rfl
  have hfits := h.fits i
  have hof := (hstaged.path i).of
  rw [hi, hname] at hfits
  rw [hi, hcall] at hof
  rcases result with e | _ | c
  · exact .inr ⟨congrArg _ hfits.1, hfits.2⟩
  · exact hof.elim
  · exact .inl ⟨c, rfl, h.cached name c hfits, hstaged.inv.known name c hfits⟩

end

end SwitchFleet.Pool

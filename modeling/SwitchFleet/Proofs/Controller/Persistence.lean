import SwitchFleet.Proofs.Controller.Desired

/-!
# Statuses that are persisted

An attempt computes a status from the one that is stored, and writes it back. The agent may answer as it
likes, and the write may fail in any way.

* `Kind.Computes`: the status that an attempt computes, and the outcome of its write.
* `Kind.Persists`: an attempt that ends with a success has stored the status that it computed, and one
  whose write failed tells so. **`status_persisted`**: this holds of switches and of interfaces.
* `orphan_persisted`: an interface without a switch, which is stored as failed by an attempt that succeeds.
-/

namespace SwitchFleet.Controller

variable {Spec Status σ : Type}

/-! ## Outcomes -/

@[simp] theorem settle_ok (outcome : Except ControllerError Action) :
    settle outcome (.ok ()) = outcome := by
  cases outcome <;> rfl

@[simp] theorem settle_error (outcome : Except ControllerError Action) (e : ControllerError) :
    settle outcome (.error e) = .error ((error? outcome).getD e) := by
  cases outcome <;> rfl

theorem interfaceKind_isLasting (e : ControllerError) :
    interfaceKind.isLasting e = true ↔ ∃ name, e = .missingSwitchRef name := by
  constructor
  · intro h
    cases e with
    | missingSwitchRef name => exact ⟨name, rfl⟩
    | _ => cases h
  · rintro ⟨name, rfl⟩
    rfl

namespace Kind

variable (k : Kind Spec Status) (own : Verb Spec Status → Query)
  (observe : Object Spec Status → String → Observation Status Action)

/-! ## Attempts that write a status -/

/-- What an attempt at a resource with a name comes to: the outcome of the comparison with its device, the
status that follows from it and from the status that was stored, and the outcome of the write. -/
inductive Computes (answer : (q : Query) → σ → q.Answer × σ) (o : Object Spec Status) (name : String)
    (s s' : σ) (asked : List (Program.Asked Query.Answer)) :
    Except ControllerError Action → Status → Except ControllerError Unit → Prop
  | intro {outcome : Except ControllerError Action} {status : Status} {s₁ : σ}
    {t₁ t₂ : List (Program.Asked Query.Answer)} {written : Except ControllerError Unit}
    (hobs : Observes answer (k.sinceSeen (observe o name)) (o.status.getD k.empty) s outcome status s₁
      t₁)
    (hflush : Program.Runs answer
      (k.flush name (o.status.getD k.empty)
        (k.judge o.metadata.generation outcome (answer .now s₁).1 status))
      (answer .now s₁).2 written s' t₂)
    (hasked : asked = t₁ ++ ⟨.now, (answer .now s₁).1⟩ :: t₂) :
    Computes answer o name s s' asked outcome
      (k.judge o.metadata.generation outcome (answer .now s₁).1 status) written

theorem Computes.unique {k : Kind Spec Status}
    {observe : Object Spec Status → String → Observation Status Action}
    {answer : (q : Query) → σ → q.Answer × σ} {o : Object Spec Status} {name : String} {s s' : σ}
    {asked : List (Program.Asked Query.Answer)} {outcome outcome' : Except ControllerError Action}
    {computed computed' : Status} {written written' : Except ControllerError Unit}
    (h : k.Computes observe answer o name s s' asked outcome computed written)
    (h' : k.Computes observe answer o name s s' asked outcome' computed' written') :
    outcome = outcome' ∧ computed = computed' ∧ written = written' := by
  obtain ⟨hobs, hflush, -⟩ := h
  obtain ⟨hobs', hflush', -⟩ := h'
  obtain ⟨rfl, rfl, rfl, -⟩ := hobs.unique hobs'
  obtain ⟨rfl, -⟩ := Prod.mk.inj (hflush.run_eq.symm.trans hflush'.run_eq)
  exact ⟨rfl, rfl, rfl⟩

/-- Statuses of a kind are persisted. An attempt at a stored resource that has our finalizer and is not
being deleted computes a status and writes it.

* If the attempt succeeds, so did the write, and the status is stored.
* If the write succeeds, the status is stored, and the outcome is that of the comparison, save that a
  lasting error is none.
* If the write fails, the attempt fails, with the error of the comparison if there is one that is not
  lasting, and with that of the write otherwise. All resources are as before. -/
def Persists : Prop :=
  ∀ {σ : Type} {answer : (q : Query) → σ → q.Answer × σ} {store : σ → ObjectStore Spec Status}
    {o : Object Spec Status} {name : String} {s s' : σ} {r : Except ControllerError Action}
    {asked : List (Program.Asked Query.Answer)},
    k.Keeps own answer store → (store s).objects.get? name = some o → o.metadata.name = some name →
    Group.finalizer ∈ o.metadata.finalizerList → o.metadata.isDeleting = false →
    Program.Runs answer (k.reconcile observe o) s r s' asked →
      ∃ outcome computed written,
        k.Computes observe answer o name s s' asked outcome computed written ∧
        (∀ action, r = .ok action → written = .ok () ∧
          (store s').objects.get? name = some { o with status := some computed }) ∧
        (written = .ok () → r = k.excuse outcome ∧
          (store s').objects.get? name = some { o with status := some computed }) ∧
        ∀ e, written = .error e →
          r = .error ((error? (k.excuse outcome)).getD e) ∧ store s' = store s

variable {k own observe}

theorem Managed.persists (hm : k.Managed own observe) : k.Persists own observe := by
  intro σ answer store o name s s' r asked hk hget hname hown hlive h
  rcases reconcile_inv hm.sends hname h with ⟨wanted, rx, hdel, hother, -⟩ | ⟨-, -, hcompare⟩
  · -- there is nothing to do about the finalizer
    cases wanted with
    | true => exact absurd hown (hother rfl)
    | false => cases hlive.symm.trans hdel
  obtain ⟨outcome, status, s₁, t₁, written, t₂, hobs, hflush, rfl, hasked, hstored⟩ :=
    hm.compare_inv hk hget hcompare
  refine ⟨outcome, _, written, .intro hobs hflush hasked, ?_⟩
  rcases hstored with ⟨rfl, hstored⟩ | ⟨e, rfl, hstored⟩
  · rw [settle_ok]
    exact ⟨fun _ _ => ⟨rfl, hstored⟩, fun _ => ⟨rfl, hstored⟩, fun _ => nofun⟩
  · rw [settle_error]
    refine ⟨fun _ => nofun, nofun, fun e' he => ?_⟩
    cases he
    exact ⟨rfl, hstored⟩

section

variable {σ : Type} {answer : (q : Query) → σ → q.Answer × σ} {store : σ → ObjectStore Spec Status}
  {o : Object Spec Status} {name : String} {before : Status} {s s' : σ}
  {r : Except ControllerError Action} {asked : List (Program.Asked Query.Answer)}

theorem Managed.computes (hm : k.Managed own observe) (hk : k.Keeps own answer store)
    (hc : k.Compares o name before) (hget : (store s).objects.get? name = some o)
    (h : Program.Runs answer (k.reconcile observe o) s r s' asked) :
    ∃ outcome computed written, k.Computes observe answer o name s s' asked outcome computed written ∧
      (written = .ok () → r = k.excuse outcome ∧
        (store s').objects.get? name = some { o with status := some computed }) := by
  obtain ⟨outcome, computed, written, hcomp, -, hwritten, -⟩ :=
    hm.persists hk hget hc.named (List.contains_iff_mem.mp hc.finalized) hc.kept h
  exact ⟨outcome, computed, written, hcomp, hwritten⟩

/-- The parts of what an attempt at such a resource comes to. -/
theorem Computes.parts {outcome : Except ControllerError Action} {computed : Status}
    {written : Except ControllerError Unit} (hc : k.Compares o name before)
    (h : k.Computes observe answer o name s s' asked outcome computed written) :
    ∃ status s₁ t₁ t₂, Observes answer (observe o name) before s outcome status s₁ t₁ ∧
      computed = k.judge o.metadata.generation outcome (answer .now s₁).1 status ∧
      Program.Runs answer (k.flush name before computed) (answer .now s₁).2 written s' t₂ ∧
      asked = t₁ ++ ⟨.now, (answer .now s₁).1⟩ :: t₂ := by
  have hbefore : o.status.getD k.empty = before := by rw [hc.status_eq, Option.getD_some]
  obtain ⟨hobs, hflush, hasked⟩ := h
  rw [hbefore] at hobs hflush
  exact ⟨_, _, _, _, (observes_sinceSeen hc.seen).mp hobs, rfl, hflush, hasked⟩

end

end Kind

/-- **Statuses are persisted**, of switches as well as of interfaces. No error of a switch is lasting, and
of an interface only that it has no switch. -/
theorem status_persisted :
    switchKind.Persists .switches observeSwitch ∧ interfaceKind.Persists .interfaces observeInterface ∧
      (∀ e, switchKind.isLasting e = false) ∧
      ∀ e, interfaceKind.isLasting e = true ↔ ∃ name, e = .missingSwitchRef name :=
  ⟨managed_switchKind.persists, managed_interfaceKind.persists, fun _ => rfl, interfaceKind_isLasting⟩

/-! ## An interface without a switch -/

namespace Resources

/-- An interface without a switch. -/
def orphan : SwitchInterface :=
  { unwanted with spec := ⟨"Ethernet0", none, .down⟩ }

/-- The interface alone. -/
def ofOrphan : Resources := ⟨ObjectStore.empty, ObjectStore.empty.insert "leaf-ethernet0" orphan⟩

/-- The interface, whose status cannot be written. -/
def ofFrozen : Resources :=
  ⟨ObjectStore.empty, (ObjectStore.empty.insert "leaf-ethernet0" orphan).reject .patchStatus true⟩

/-- The general theorem at such an interface. An attempt at it succeeds, and it is stored as failed. If its
status cannot be written, the attempt fails. -/
theorem orphan_persisted :
    ((reconcileInterface orphan).run.run (answer lit) ofOrphan).1 = .ok .awaitChange ∧
      (∃ computed, ((reconcileInterface orphan).run.run (answer lit)
          ofOrphan).2.interfaces.objects.get? "leaf-ethernet0" =
            some { orphan with status := some computed } ∧ computed.state = some .failed) ∧
      ((reconcileInterface orphan).run.run (answer lit) ofFrozen).1 =
        .error (.configuration "patch_status rejected") := by
  have hk : interfaceKind.Keeps .interfaces (answer lit) Resources.interfaces :=
    (world lit).keepsInterfaces
  have hget : ofOrphan.interfaces.objects.get? "leaf-ethernet0" = some orphan := rfl
  have hname : orphan.metadata.name = some "leaf-ethernet0" := rfl
  have hown : Group.finalizer ∈ orphan.metadata.finalizerList := by decide
  obtain ⟨outcome, computed, written, -, hok, -, -⟩ :=
    status_persisted.2.1 hk hget hname hown rfl (.self (reconcileInterface orphan) ofOrphan)
  obtain ⟨-, hstored⟩ := hok .awaitChange rfl
  have hfailed : (((reconcileInterface orphan).run.run (answer lit)
      ofOrphan).2.interfaces.objects.get? "leaf-ethernet0").bind interfaceKind.stateOf =
        some .failed := rfl
  refine ⟨rfl, ⟨computed, hstored, ?_⟩, rfl⟩
  rw [hstored] at hfailed
  exact hfailed

end Resources

end SwitchFleet.Controller

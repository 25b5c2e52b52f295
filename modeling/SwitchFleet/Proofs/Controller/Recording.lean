import SwitchFleet.Proofs.Controller.Switches

/-!
# What is recorded about a failed attempt at a switch

Only a failed call of the agent makes a switch failed. After any other failure the switch keeps the
state that it had, and the condition that is written follows from that state.

* `Cluster`: the switches in a cluster, beside a world that answers all other questions in any way.
* **`recorded_iff`**: when an error is recorded, and when the switch is recorded as ready.
* `failure_kept_ready`: an attempt that fails and records that the switch is ready.
-/

namespace SwitchFleet.Controller

/-- The switches in a cluster, beside the rest of the world. -/
structure Cluster (σ : Type) where
  switches : ObjectStore SwitchSpec SwitchStatus
  rest : σ

namespace Cluster

variable {σ : Type} (others : (q : Query) → σ → q.Answer × σ)

/-- The answer to a question. Whatever is not about switches is answered by the rest of the world. -/
def answer : (q : Query) → Cluster σ → q.Answer × Cluster σ
  | .switches v, c =>
    let (outcome, switches) := c.switches.answer Switch.schema v
    (outcome, { c with switches })
  | q, c =>
    let (r, rest) := others q c.rest
    (r, { c with rest })

/-- The outcome of an attempt at a switch, and the cluster after it. -/
def attempt (c : Cluster σ) (o : Switch) : Except ControllerError Action × Cluster σ :=
  (reconcileSwitch o).run.run (answer others) c

/-- The questions of an attempt at a switch with their answers. -/
def asked (c : Cluster σ) (o : Switch) : List (Program.Asked Query.Answer) :=
  (reconcileSwitch o).run.trace (answer others) c

variable {others} in
theorem backed : switchKind.Backed (answer others) Cluster.switches
    fun switches c => { c with switches } :=
  ⟨fun _ _ => rfl, fun _ _ => rfl⟩

theorem switches_answer {q : Query} (hq : ∀ v, q ≠ .switches v) (c : Cluster σ) :
    (answer others q c).2.switches = c.switches := by
  cases q with
  | switches v => exact absurd rfl (hq v)
  | _ => rfl

end Cluster

/-! ## Records -/

/-- The switch is recorded as ready by its condition. -/
def RecordsReady (b : SwitchStatus) : Prop := (switchKind.ready? b).map (·.status) = some .yes

theorem readyCondition_status (state : Lifecycle) (error : Option ControllerError) (time : String)
    (generation : Option Int64) :
    (readyCondition state error time generation).status = .ofBool (state = .ready) := by
  cases state <;> cases error <;> rfl

section

variable {generation : Option Int64} {time : String} {status : SwitchStatus} {state : Lifecycle}

theorem recordsReady_judge {outcome : Except ControllerError Action}
    (hs : status.state = some state) :
    RecordsReady (switchKind.judge generation outcome time status) ↔ state = .ready := by
  obtain ⟨since, hc⟩ := lenses_switchKind.find?_judge generation outcome time hs
  unfold RecordsReady
  rw [hc, Option.map_some]
  dsimp only
  rw [readyCondition_status]
  cases state <;> simp [Truth.ofBool]

variable {σ : Type} {answer : (q : Query) → σ → q.Answer × σ} {o : Switch} {name : String}
  {before : SwitchStatus} {outcome : Except ControllerError Action}
  {asked : List (Program.Asked Query.Answer)}

theorem marks_of_exit {e : ControllerError}
    (h : SwitchExit answer o name before (.error e) status asked)
    (hb : before.state = some state) :
    switchKind.Marks (switchKind.judge generation (.error e) time status) e ↔
      asked.any isFailedCall = true ∨ before.state = some .failed := by
  rcases h.state_eq with ⟨hr, -, -⟩ | ⟨e, -, -, hs⟩
  · cases hr
  · by_cases hcall : asked.any isFailedCall = true
    · rw [if_pos hcall] at hs
      exact iff_of_true ((lenses_switchKind.marks_judge hs ..).mpr rfl) (.inl hcall)
    · rw [if_neg hcall] at hs
      rw [lenses_switchKind.marks_judge (hs.trans hb), hb, Option.some.injEq]
      exact (or_iff_right hcall).symm

theorem recordsReady_of_exit (h : SwitchExit answer o name before outcome status asked)
    (hb : before.state = some state) :
    RecordsReady (switchKind.judge generation outcome time status) ↔
      Completed o name asked ∨ before.state = some .ready ∧ (∃ e, outcome = .error e) ∧
        asked.any isFailedCall = false := by
  rcases h.state_eq with ⟨rfl, hs, hdone⟩ | ⟨e, rfl, hports, hs⟩
  · exact iff_of_true ((recordsReady_judge hs).mpr rfl) (.inl hdone)
  · have hincomplete : ¬ Completed o name asked := fun h =>
      Bool.false_ne_true (hports.symm.trans h.ports)
    rw [or_iff_right hincomplete]
    by_cases hcall : asked.any isFailedCall = true
    · rw [if_pos hcall] at hs
      rw [recordsReady_judge hs, hcall]
      simp
    · rw [if_neg hcall] at hs
      rw [recordsReady_judge (hs.trans hb), hb, Option.some.injEq]
      simp [hcall]

end

namespace Cluster

variable {σ : Type} {others : (q : Query) → σ → q.Answer × σ} {c c' : Cluster σ} {o : Switch}
  {name : String} {before after : SwitchStatus}

theorem switches_observeSwitch {r : Except ControllerError Action} {b' : SwitchStatus}
    {asked : List (Program.Asked Query.Answer)}
    (h : Observes (answer others) (observeSwitch o name) before c r b' c' asked) :
    c'.switches = c.switches :=
  h.keeps (P := Inspects) Cluster.switches
    (fun _ c hq => switches_answer others hq.ne_switches c) (asks_observeSwitch o name)

theorem flushed_ok {r : Except ControllerError Unit} {asked : List (Program.Asked Query.Answer)}
    (hget : c.switches.objects.get? name = some o) (hb : o.status = some before)
    (h : Program.Runs (answer others) (switchKind.flush name before after) c r c' asked)
    (hw : asked.any isFailedFlush = false) :
    r = .ok () ∧ c'.switches.objects.get? name = some { o with status := some after } ∧
      ∀ a ∈ asked, Aside a.1 := by
  obtain rfl := Kind.flush_ok sends_switchKind h hw
  have hf := Kind.flushed_of_runs written_switchKind backed hget hb h
  refine ⟨rfl, (hf.get?_store backed hget hb).resolve_right (nomatch ·.1), fun a ha => ?_⟩
  obtain ⟨patch, hpatch⟩ := Kind.asked_flush sends_switchKind h a ha
  rw [hpatch]
  trivial

/-- **What is recorded.** Where the write of the status does not fail, the error of an attempt is
recorded exactly if a call of the agent failed or the switch was failed before, and the switch is
recorded as ready exactly if the comparison is complete, or the switch was ready before and the attempt
failed without a failed call of the agent. -/
theorem recorded_iff (hc : switchKind.Compares o name before)
    (hget : c.switches.objects.get? name = some o)
    (hw : (c.asked others o).any isFailedFlush = false) :
    ∃ after,
      (c.attempt others o).2.switches.objects.get? name = some { o with status := some after } ∧
      (∀ e, (c.attempt others o).1 = .error e →
        (switchKind.Marks after e ↔
          (c.asked others o).any isFailedCall = true ∨ before.state = some .failed)) ∧
      (RecordsReady after ↔ Completed o name (c.asked others o) ∨
        before.state = some .ready ∧ (∃ e, (c.attempt others o).1 = .error e) ∧
          (c.asked others o).any isFailedCall = false) := by
  obtain ⟨state, hstate⟩ : ∃ state, before.state = some state :=
    Option.isSome_iff_exists.mp hc.seen
  obtain ⟨outcome, status, c₁, t₁, flushed, t₂, hobs, hflush, hr, ht⟩ :=
    hc.reconcile_inv (fun _ _ _ _ h => (exit_observeSwitch h).isSome_state hc.seen)
      (.self (reconcileSwitch o) c)
  change (c.attempt others o).1 = _ at hr
  change c.asked others o = _ at ht
  rw [ht, List.any_append, List.any_cons, Bool.or_eq_false_iff, Bool.or_eq_false_iff] at hw
  have hnow : (answer others .now c₁).2.switches = c.switches :=
    (switches_answer others (q := .now) (fun _ => nofun) c₁).trans (switches_observeSwitch hobs)
  obtain ⟨rfl, hstored, haside⟩ := flushed_ok (by rw [hnow, hget]) hc.status_eq hflush hw.2.2
  -- neither the question for the time nor the write of the status belongs to the comparison
  have hrest : ∀ a ∈ (⟨.now, (answer others .now c₁).1⟩ :: t₂ : List (Program.Asked _)),
      Aside a.1 := List.forall_mem_cons.mpr ⟨trivial, haside⟩
  have hcall : (c.asked others o).any isFailedCall = t₁.any isFailedCall := by
    rw [ht, List.any_append, any_isFailedCall_eq_false fun a ha => (hrest a ha).noCall,
      Bool.or_false]
  have hresult : (c.attempt others o).1 = outcome := by
    rw [hr]
    cases outcome <;> rfl
  refine ⟨_, hstored, fun e he => ?_, ?_⟩
  · obtain rfl := hresult.symm.trans he
    rw [hcall]
    exact marks_of_exit (exit_observeSwitch hobs) hstate
  · rw [hcall, hresult, ht, completed_append hrest]
    exact recordsReady_of_exit (exit_observeSwitch hobs) hstate

/-! ## An error that is not recorded -/

/-- A switch that was ready. -/
def readySwitch : Switch where
  metadata := { Metadata.named "leaf" with uid := some "1", finalizers := some [Group.finalizer] }
  spec := ⟨.empty, "", []⟩
  status := some { SwitchStatus.empty with state := some .ready }

/-- A cluster with this switch alone. -/
def ofReady : Cluster Unit := ⟨ObjectStore.empty.insert "leaf" readySwitch, ()⟩

/-- A world with an agent that reports one interface, and in which no resource can be applied. -/
def unapplying : (q : Query) → Unit → q.Answer × Unit
  | .switches v, w => (.error (ObjectStore.rejection v.kind), w)
  | .interfaces v, w => (.error (ObjectStore.rejection v.kind), w)
  | .client o, w => (.ok o.agentAddress, w)
  | .call _ .deviceInfo, w => (.ok ⟨"aa:bb:cc:00:00:01", "sku", "4.2", "asic", Device.ready⟩, w)
  | .call _ .interfaces, w => (.ok [⟨"Ethernet0", "aa:bb:cc:00:00:00", .up, .up⟩], w)
  | .call _ .ports, w => (.ok [], w)
  | .call _ _, w => (.error (.remote (.notFound "")), w)
  | .now, w => ("2026-01-01T00:00:00Z", w)

/-- The general theorem at such an attempt: the switch is recorded as ready. -/
theorem recordsReady_unapplied :
    switchKind.Compares readySwitch "leaf" { SwitchStatus.empty with state := some .ready } ∧
      ofReady.switches.objects.get? "leaf" = some readySwitch ∧
      (ofReady.asked unapplying readySwitch).any isFailedFlush = false ∧
      ∃ after, (ofReady.attempt unapplying readySwitch).2.switches.objects.get? "leaf" =
          some { readySwitch with status := some after } ∧ RecordsReady after := by
  have hc : switchKind.Compares readySwitch "leaf"
      { SwitchStatus.empty with state := some .ready } := ⟨rfl, by decide, rfl, rfl, rfl⟩
  obtain ⟨after, hs, -, hr⟩ := @recorded_iff _ unapplying ofReady _ _ _ hc rfl rfl
  exact ⟨hc, rfl, rfl, after, hs, hr.mpr (.inr ⟨rfl, ⟨_, rfl⟩, rfl⟩)⟩

/-- **An error that is not recorded.** The resource for an interface cannot be applied and the ports
are not listed. The attempt fails and the write of the status does not, and the switch is recorded as
ready all the same. -/
theorem failure_kept_ready :
    (ofReady.attempt unapplying readySwitch).1 = .error (.configuration "apply rejected") ∧
      (ofReady.asked unapplying readySwitch).any isFailedFlush = false ∧
      (ofReady.asked unapplying readySwitch).any (isReport .ports) = false ∧
      ∃ after, (ofReady.attempt unapplying readySwitch).2.switches.objects.get? "leaf" =
          some { readySwitch with status := some after } ∧
        after.state = some .ready ∧ RecordsReady after :=
  ⟨rfl, rfl, rfl, _, rfl, rfl, rfl⟩

end Cluster

end SwitchFleet.Controller

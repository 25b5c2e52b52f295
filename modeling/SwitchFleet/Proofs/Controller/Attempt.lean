import SwitchFleet.Proofs.Controller.Observation
import SwitchFleet.Proofs.Resource.History

/-!
# Attempts at resources

What an attempt at a resource comes to: the comparison with the device, the condition that follows
from it, and the write of the status.

* `Kind.Lenses`: the state and the conditions of a status are changed independently.
* `Kind.judge`: a status with the condition that follows from an outcome, and **`find?_judge`**.
* `Kind.Marks`: a status that tells an error. `marks_judge`: the statuses of failed resources do.
* `Kind.compare_inv`: the parts of a comparison that writes its status back.
* `Kind.Compares`: the resources that are compared with the device, and **`reconcile_inv`**: every
  attempt at such a resource is made of these three parts.
-/

namespace SwitchFleet

namespace Controller

variable {Spec Status α σ : Type}

theorem readyCondition_type (state : Lifecycle) (error : Option ControllerError) (time : String)
    (generation : Option Int64) :
    (readyCondition state error time generation).type = Condition.readyType := by
  cases state <;> cases error <;> rfl

namespace Kind

/-- The state and the conditions of a status are changed independently. -/
structure Lenses (k : Kind Spec Status) : Prop where
  state_setState : ∀ state b, k.state (k.setState state b) = some state
  state_setConditions : ∀ cs b, k.state (k.setConditions cs b) = k.state b
  conditions_setConditions : ∀ cs b, k.conditions (k.setConditions cs b) = cs

/-- A status with the condition that follows from an outcome, at a time. -/
def judge (k : Kind Spec Status) (generation : Option Int64) (outcome : Except ControllerError Action)
    (time : String) (status : Status) : Status :=
  match k.state status with
  | none => status
  | some state =>
    k.setConditions
      (Condition.set (k.conditions status)
        (readyCondition state (error? outcome) time generation)) status

/-- The condition of a status that tells whether the resource is ready. -/
def ready? (k : Kind Spec Status) (b : Status) : Option Condition :=
  Condition.find? (k.conditions b) Condition.readyType

variable {k : Kind Spec Status}

theorem Lenses.state_judge (hk : k.Lenses) (generation : Option Int64)
    (outcome : Except ControllerError Action) (time : String) (status : Status) :
    k.state (k.judge generation outcome time status) = k.state status := by
  unfold judge
  split
  · rfl
  · exact hk.state_setConditions _ _

theorem judge_eq {status : Status} {state : Lifecycle} (hs : k.state status = some state)
    (generation : Option Int64) (outcome : Except ControllerError Action) (time : String) :
    ∃ conditions, k.judge generation outcome time status = k.setConditions conditions status := by
  unfold judge
  rw [hs]
  exact ⟨_, rfl⟩

/-- **The condition that is left.** It is the one that follows from the state and the outcome, apart
from the time of its last change. -/
theorem Lenses.find?_judge (hk : k.Lenses) (generation : Option Int64)
    (outcome : Except ControllerError Action) (time : String) {status : Status} {state : Lifecycle}
    (hs : k.state status = some state) :
    ∃ since, k.ready? (k.judge generation outcome time status) =
      some { readyCondition state (error? outcome) time generation with
        lastTransitionTime := since } := by
  obtain ⟨since, hf⟩ := Condition.exists_find?_set (k.conditions status)
    (readyCondition state (error? outcome) time generation)
  refine ⟨since, ?_⟩
  unfold ready? judge
  rw [hs]
  dsimp only
  rwa [hk.conditions_setConditions, ← readyCondition_type state (error? outcome) time generation]

/-- An error is marked: the resource is failed, and its condition says why it is not ready. -/
def Marks (k : Kind Spec Status) (b : Status) (e : ControllerError) : Prop :=
  k.state b = some .failed ∧
    ∃ c, k.ready? b = some c ∧ c.status = .no ∧ c.reason = e.reason ∧ c.message = e.message

theorem Lenses.marks_judge (hk : k.Lenses) {status : Status} {state : Lifecycle}
    (hs : k.state status = some state) (generation : Option Int64) (e : ControllerError)
    (time : String) : k.Marks (k.judge generation (.error e) time status) e ↔ state = .failed := by
  obtain ⟨since, hc⟩ := hk.find?_judge generation (.error e) time hs
  unfold Marks
  rw [hk.state_judge, hs, hc]
  constructor
  · exact fun h => Option.some.inj h.1
  · rintro rfl
    exact ⟨rfl, _, rfl, rfl, rfl, rfl⟩

/-! ## The parts of an attempt -/

variable {answer : (q : Query) → σ → q.Answer × σ} {o : Object Spec Status} {name : String}
  {before status : Status} {s s' : σ} {r : Except ControllerError Action}
  {asked : List (Program.Asked Query.Answer)}

/-- The outcome of asking for the time, and the world after it. -/
theorem runs_withCondition (answer : (q : Query) → σ → q.Answer × σ) (generation : Option Int64)
    (outcome : Except ControllerError Action) {state : Lifecycle}
    (hs : k.state status = some state) (s : σ) :
    Program.run answer (k.withCondition generation outcome status) s =
        (k.judge generation outcome (answer .now s).1 status, (answer .now s).2) ∧
      Program.trace answer (k.withCondition generation outcome status) s =
        [⟨.now, (answer .now s).1⟩] := by
  unfold withCondition judge
  rw [hs]
  exact ⟨rfl, rfl⟩

/-- A resource that is compared with the device: it has a name, the finalizer and a state, and is not
being deleted. -/
structure Compares (k : Kind Spec Status) (o : Object Spec Status) (name : String)
    (before : Status) : Prop where
  named : o.metadata.name = some name
  finalized : o.metadata.finalizerList.contains Group.finalizer = true
  kept : o.metadata.isDeleting = false
  status_eq : o.status = some before
  seen : (k.state before).isSome = true

theorem Compares.reconcile_eq (h : k.Compares o name before)
    (observe : Object Spec Status → String → Observation Status Action) :
    k.reconcile observe o = k.compare (observe o name) name o := by
  have hname : o.name = .ok name := by rw [Object.name, h.named]
  have hhas : k.perform (ensureFinalizer o Group.finalizer) = pure false := by
    unfold ensureFinalizer
    rw [if_pos h.finalized]
    rfl
  unfold reconcile
  rw [hname]
  change (if o.metadata.isDeleting = true then _ else _) = _
  rw [h.kept, if_neg Bool.false_ne_true, hhas]
  rfl

theorem run_sinceSeen (hs : (k.state before).isSome = true) (observe : Observation Status Action) :
    (k.sinceSeen observe).run.run before = observe.run.run before := by
  obtain ⟨state, hs⟩ := Option.isSome_iff_exists.mp hs
  unfold sinceSeen
  change StateT.run (ExceptT.run (if (k.state before).isNone = true then _ else _)) before = _
  rw [hs]
  rfl

theorem run_sinceSeen_of_none {b : Status} (hb : k.state b = none)
    (observe : Observation Status Action) :
    (k.sinceSeen observe).run.run b =
      (.done (.ok (.requeue 0), k.setState .pending b) : Run _) := by
  unfold sinceSeen
  change StateT.run (ExceptT.run (if (k.state b).isNone = true then _ else _)) b = _
  rw [hb]
  rfl

theorem sinceSeen_inv {observe : Observation Status Action} {b b' : Status}
    (hb : k.state b = none) (h : Observes answer (k.sinceSeen observe) b s r b' s' asked) :
    r = .ok (.requeue 0) ∧ b' = k.setState .pending b ∧ s' = s ∧ asked = [] := by
  have hwait : Observes answer (k.sinceSeen observe) b s (.ok (.requeue 0))
      (k.setState .pending b) s [] :=
    ⟨by rw [run_sinceSeen_of_none hb]; rfl, by rw [run_sinceSeen_of_none hb]; rfl⟩
  exact h.unique hwait

theorem observes_sinceSeen {observe : Observation Status Action} {b b' : Status}
    (hb : (k.state b).isSome = true) :
    Observes answer (k.sinceSeen observe) b s r b' s' asked ↔
      Observes answer observe b s r b' s' asked := by
  have heq := run_sinceSeen hb observe
  exact ⟨fun ⟨hr, ht⟩ => ⟨heq ▸ hr, heq ▸ ht⟩, fun ⟨hr, ht⟩ => ⟨heq ▸ hr, heq ▸ ht⟩⟩

theorem asks_sinceSeen {P : Query → Prop} {observe : Observation Status Action}
    (h : Asks P observe) : Asks P (k.sinceSeen observe) := by
  intro b
  rcases hb : k.state b with _ | state
  · rw [run_sinceSeen_of_none hb]
    exact .done trivial
  · have hseen : (k.state b).isSome = true := by rw [hb]; rfl
    rw [run_sinceSeen hseen]
    exact h b

/-- **The parts of a comparison.** A comparison that leaves the resource with a state is followed by a
question for the time and by the write of the status. -/
theorem compare_inv {observe : Observation Status Action}
    (hkeep : ∀ r status s' asked,
      Observes answer (k.sinceSeen observe) (o.status.getD k.empty) s r status s' asked →
        (k.state status).isSome = true)
    (h : Program.Runs answer (k.compare observe name o) s r s' asked) :
    ∃ outcome status s₁ t₁ flushed t₂,
      Observes answer (k.sinceSeen observe) (o.status.getD k.empty) s outcome status s₁ t₁ ∧
      Program.Runs answer
        (k.flush name (o.status.getD k.empty)
          (k.judge o.metadata.generation outcome (answer .now s₁).1 status))
        (answer .now s₁).2 flushed s' t₂ ∧
      r = settle (k.excuse outcome) flushed ∧ asked = t₁ ++ ⟨.now, (answer .now s₁).1⟩ :: t₂ := by
  obtain ⟨outcome, status, s₁, t₁, ho⟩ :=
    Observes.self answer (k.sinceSeen observe) (o.status.getD k.empty) s
  obtain ⟨state, hs⟩ := Option.isSome_iff_exists.mp (hkeep _ _ _ _ ho)
  obtain ⟨hr, ht⟩ := h
  unfold compare at hr ht
  change Program.run answer (Program.bind _ _) s = _ at hr
  change Program.trace answer (Program.bind _ _) s = _ at ht
  rw [Program.run_bind, ho.run_eq] at hr
  rw [Program.trace_bind, ho.run_eq, ho.trace_eq] at ht
  dsimp only at hr ht
  obtain ⟨hrun, htrace⟩ := runs_withCondition answer o.metadata.generation outcome hs s₁
  rw [Program.bind_eq, Program.run_bind, hrun, Program.bind_eq, Program.run_bind] at hr
  rw [Program.bind_eq, Program.trace_bind, hrun, htrace, Program.bind_eq, Program.trace_bind] at ht
  cases hr
  refine ⟨outcome, status, s₁, t₁, _, _, ho, .self _ _, rfl, ht.symm.trans ?_⟩
  simp

/-- **Attempts.** A resource that is compared with the device goes through these parts. -/
theorem Compares.reconcile_inv {observe : Object Spec Status → String → Observation Status Action}
    (hc : k.Compares o name before)
    (hkeep : ∀ r status s' asked, Observes answer (observe o name) before s r status s' asked →
      (k.state status).isSome = true)
    (h : Program.Runs answer (k.reconcile observe o) s r s' asked) :
    ∃ outcome status s₁ t₁ flushed t₂,
      Observes answer (observe o name) before s outcome status s₁ t₁ ∧
      Program.Runs answer
        (k.flush name before (k.judge o.metadata.generation outcome (answer .now s₁).1 status))
        (answer .now s₁).2 flushed s' t₂ ∧
      r = settle (k.excuse outcome) flushed ∧ asked = t₁ ++ ⟨.now, (answer .now s₁).1⟩ :: t₂ := by
  have hbefore : o.status.getD k.empty = before := by rw [hc.status_eq, Option.getD_some]
  rw [hc.reconcile_eq] at h
  have hstate : ∀ r status s' asked,
      Observes answer (k.sinceSeen (observe o name)) (o.status.getD k.empty) s r status s' asked →
        (k.state status).isSome = true := fun r status s' asked ho => by
    rw [hbefore, observes_sinceSeen hc.seen] at ho
    exact hkeep r status s' asked ho
  have hparts := compare_inv hstate h
  rw [hbefore] at hparts
  obtain ⟨outcome, status, s₁, t₁, flushed, t₂, ho, hflush, hr, ht⟩ := hparts
  exact ⟨outcome, status, s₁, t₁, flushed, t₂, (observes_sinceSeen hc.seen).mp ho, hflush, hr, ht⟩

end Kind

end Controller

end SwitchFleet

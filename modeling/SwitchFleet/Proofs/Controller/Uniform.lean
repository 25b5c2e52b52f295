import SwitchFleet.Proofs.Controller.Interfaces
import SwitchFleet.Proofs.Controller.Switches

/-!
# Comparisons from any status

What a comparison asks does not depend on the status that it starts from, and what it writes into the
status does not either. So a second comparison that is answered in the same way changes nothing.

* `Sets`: a change of a status that sets a part of it, or leaves that part alone.
* `Kind.Updates`: changes of statuses that are of no effect a second time.
* `Uniform`: a comparison that is the same from any status, up to such a change. There is one rule for each
  way to build a comparison. **`Uniform.observes`**: what this means for a run.
* `uniform_observeSwitch`, `uniform_observeInterface`: the comparisons of both kinds.
-/

namespace SwitchFleet

namespace Controller

variable {Spec Status α β γ σ : Type}

/-! ## Changes of a status -/

/-- A change of a status leaves what `view` sees of it alone, or sets it. -/
def Sets (view : Status → γ) (f : Status → Status) : Prop :=
  (∀ b, view (f b) = view b) ∨ ∃ v, ∀ b, view (f b) = v

namespace Sets

variable {view : Status → γ} {f g : Status → Status}

theorem kept (h : ∀ b, view (f b) = view b) : Sets view f := .inl h

theorem const {v : γ} (h : ∀ b, view (f b) = v) : Sets view f := .inr ⟨v, h⟩

theorem comp (hg : Sets view g) (hf : Sets view f) : Sets view (g ∘ f) := by
  rcases hg with hg | ⟨v, hg⟩
  · rcases hf with hf | ⟨v, hf⟩
    · exact .kept fun b => (hg (f b)).trans (hf b)
    · exact .const fun b => (hg (f b)).trans (hf b)
  · exact .const fun b => hg (f b)

theorem again (hf : Sets view f) (hg : ∀ b, view (g b) = view b) (b : Status) :
    view (f (g (f b))) = view (g (f b)) := by
  rcases hf with hf | ⟨v, hf⟩
  · exact hf _
  · rw [hf, hg, hf]

end Sets

/-- Changes of statuses that leave the conditions alone, and that are of no effect a second time, whatever
the conditions are then. -/
structure Kind.Updates (k : Kind Spec Status) (U : (Status → Status) → Prop) : Prop where
  id : U id
  comp : ∀ {f g}, U g → U f → U (g ∘ f)
  fails : U (k.setState .failed)
  self : ∀ b, k.setConditions (k.conditions b) b = b
  conditions : ∀ {f}, U f → ∀ b, k.conditions (f b) = k.conditions b
  again : ∀ {f}, U f → ∀ cs b, f (k.setConditions cs (f b)) = k.setConditions cs (f b)

theorem readyCondition_time (state : Lifecycle) (error : Option ControllerError) (time time' : String)
    (generation : Option Int64) :
    { readyCondition state error time generation with lastTransitionTime := time' } =
      readyCondition state error time' generation := by
  cases state <;> cases error <;> rfl

/-- **A status that is judged again**, after the same update and with the same outcome, stays the same. The
time of the judgement may be another one. -/
theorem Kind.Updates.judge_again {k : Kind Spec Status} {U : (Status → Status) → Prop}
    (hU : k.Updates U) (hk : k.Lenses) {g : Status → Status} (hg : U g) (generation : Option Int64)
    (outcome : Except ControllerError Action) (time time' : String) (b : Status) :
    k.judge generation outcome time' (g (k.judge generation outcome time (g b))) =
      k.judge generation outcome time (g b) := by
  rcases hs : k.state (g b) with _ | state
  · have hnone (time : String) : k.judge generation outcome time (g b) = g b := by
      unfold judge
      rw [hs]
    have hagain : g (g b) = g b := by
      have h := hU.again hg (k.conditions (g b)) b
      rwa [hU.self] at h
    rw [hnone, hagain, hnone]
  · have hsome (time : String) {c : Status} (hc : k.state c = some state) :
        k.judge generation outcome time c = k.setConditions (Condition.set (k.conditions c)
          (readyCondition state (error? outcome) time generation)) c := by
      unfold judge
      rw [hc]
    have hset := Condition.set_set (k.conditions (g b))
      (readyCondition state (error? outcome) time generation) time'
    have hstate := hk.state_judge generation outcome time (g b)
    rw [hs, hsome time hs] at hstate
    rw [hsome time hs, hU.again hg, hsome time' hstate, hk.conditions_setConditions,
      ← readyCondition_time state (error? outcome) time time' generation, hset]
    have hself := hU.self (k.setConditions (Condition.set (k.conditions (g b))
      (readyCondition state (error? outcome) time generation)) (g b))
    rwa [hk.conditions_setConditions] at hself

/-! ## Comparisons that are the same from any status -/

/-- A comparison asks the same and has the same outcome from any status, and changes the status by an
update. -/
def Uniform (U : (Status → Status) → Prop) (x : Observation Status α) : Prop :=
  ∃ p : Run (Except ControllerError α × (Status → Status)),
    Program.Within (fun _ => True) (fun r => U r.2) p ∧
      ∀ b, x.run.run b = p.bind fun r => .done (r.1, r.2 b)

/-- What follows a part of a comparison, with the updates of both. -/
def follow (next : α → Run (Except ControllerError β × (Status → Status))) :
    Except ControllerError α × (Status → Status) →
      Run (Except ControllerError β × (Status → Status))
  | (.ok a, f) => (next a).bind fun r => .done (r.1, r.2 ∘ f)
  | (.error e, f) => .done (.error e, f)

namespace Uniform

variable {U : (Status → Status) → Prop} {x : Observation Status α}
  {f : α → Observation Status β} {t : Task α} {k : Kind Spec Status}

theorem pure (hU : k.Updates U) (a : α) : Uniform U (pure a : Observation Status α) :=
  ⟨.done (.ok a, id), .done hU.id, fun _ => rfl⟩

theorem modify {g : Status → Status} (hg : U g) :
    Uniform U (modify g : Observation Status PUnit) :=
  ⟨.done (.ok ⟨⟩, g), .done hg, fun _ => rfl⟩

theorem bind (hU : k.Updates U) (hx : Uniform U x) (hf : ∀ a, Uniform U (f a)) :
    Uniform U (x >>= f) := by
  obtain ⟨p, hp, hxp⟩ := hx
  obtain ⟨next, hnext⟩ := Classical.skolem.mp hf
  refine ⟨p.bind (follow next), hp.andThen fun r hr => ?_, fun b => ?_⟩
  · obtain ⟨e | a, g⟩ := r
    · exact .done hr
    · refine (hnext a).1.andThen fun r' hr' => ?_
      have hboth : U (r'.2 ∘ g) := hU.comp hr' hr
      exact .done hboth
  · rw [ExceptT.run_bind, StateT.run_bind, hxp, Program.bind_eq, Program.bind_assoc,
      Program.bind_assoc]
    congr 1
    funext r
    obtain ⟨e | a, g⟩ := r
    · rfl
    · change (f a).run.run (g b) = Program.bind (Program.bind (next a) _) _
      rw [(hnext a).2, Program.bind_assoc]
      rfl

theorem attempt (hU : k.Updates U) (t : Task α) :
    Uniform U (Kind.attempt t : Observation Status α) := by
  refine ⟨t.run.bind fun r => .done (r, id), (Program.Within.any t.run).andThen fun r _ =>
    .done hU.id, fun b => ?_⟩
  rw [Program.bind_assoc]
  rfl

theorem orFail (hU : k.Updates U) (t : Task α) : Uniform U (k.orFail t) := by
  have hafter (r : Except ControllerError α) : U fun b => k.stateAfter b r := by
    cases r with
    | ok a => exact hU.id
    | error e => exact hU.fails
  refine ⟨t.run.bind fun r => .done (r, fun b => k.stateAfter b r),
    (Program.Within.any t.run).andThen fun r _ => .done (hafter r), fun b => ?_⟩
  rw [Program.bind_assoc]
  change Program.bind t.run _ = _
  congr 1
  funext r
  cases r <;> rfl

theorem reportOrFail (hU : k.Updates U) (address : String) (op : Operation) :
    Uniform U (k.reportOrFail address op) := orFail hU _

theorem convertOrFail (hU : k.Updates U) (y : Except ConversionError α) :
    Uniform U (k.convertOrFail y) := orFail hU _

variable {answer : (q : Query) → σ → q.Answer × σ} {b b' : Status} {s s' : σ}
  {r : Except ControllerError α} {asked : List (Program.Asked Query.Answer)}

/-- **A comparison from another status** goes in the same way, and ends with the same update. -/
theorem observes (hx : Uniform U x) (h : Observes answer x b s r b' s' asked) :
    ∃ g, U g ∧ b' = g b ∧ ∀ c, Observes answer x c s r (g c) s' asked := by
  obtain ⟨p, hp, hxp⟩ := hx
  obtain ⟨hrun, htrace⟩ := h
  rw [hxp, Program.run_bind] at hrun
  rw [hxp, Program.trace_bind] at htrace
  cases hrun
  refine ⟨(p.run answer s).1.2, Program.run_ends hp s, rfl, fun c => ⟨?_, ?_⟩⟩
  · rw [hxp, Program.run_bind]
    rfl
  · rw [hxp, Program.trace_bind, ← htrace]
    rfl

end Uniform

/-! ## Both kinds -/

attribute [ext] SwitchStatus SwitchInterfaceStatus

/-- A change of the status of a switch that sets parts of it other than the conditions. -/
structure SwitchUpdate (f : SwitchStatus → SwitchStatus) : Prop where
  state : Sets (·.state) f
  ports : Sets (·.ports) f
  macAddress : Sets (·.macAddress) f
  firmwareVersion : Sets (·.firmwareVersion) f
  sku : Sets (·.sku) f
  conditions : ∀ b, (f b).conditions = b.conditions

theorem updates_switchKind : switchKind.Updates SwitchUpdate where
  id := ⟨.kept fun _ => rfl, .kept fun _ => rfl, .kept fun _ => rfl, .kept fun _ => rfl,
    .kept fun _ => rfl, fun _ => rfl⟩
  comp hg hf := ⟨hg.state.comp hf.state, hg.ports.comp hf.ports, hg.macAddress.comp hf.macAddress,
    hg.firmwareVersion.comp hf.firmwareVersion, hg.sku.comp hf.sku,
    fun b => (hg.conditions _).trans (hf.conditions b)⟩
  fails := ⟨.const fun _ => rfl, .kept fun _ => rfl, .kept fun _ => rfl, .kept fun _ => rfl,
    .kept fun _ => rfl, fun _ => rfl⟩
  self _ := rfl
  conditions hf := hf.conditions
  again hf cs b := by
    apply SwitchStatus.ext
    · exact hf.state.again (g := switchKind.setConditions cs) (fun _ => rfl) b
    · exact hf.ports.again (g := switchKind.setConditions cs) (fun _ => rfl) b
    · exact hf.macAddress.again (g := switchKind.setConditions cs) (fun _ => rfl) b
    · exact hf.firmwareVersion.again (g := switchKind.setConditions cs) (fun _ => rfl) b
    · exact hf.sku.again (g := switchKind.setConditions cs) (fun _ => rfl) b
    · exact hf.conditions _

/-- A change of the status of an interface that sets parts of it other than the conditions. -/
structure InterfaceUpdate (f : SwitchInterfaceStatus → SwitchInterfaceStatus) : Prop where
  state : Sets (·.state) f
  adminState : Sets (·.adminState) f
  operationalState : Sets (·.operationalState) f
  macAddress : Sets (·.macAddress) f
  neighbor : Sets (·.neighbor) f
  conditions : ∀ b, (f b).conditions = b.conditions

theorem updates_interfaceKind : interfaceKind.Updates InterfaceUpdate where
  id := ⟨.kept fun _ => rfl, .kept fun _ => rfl, .kept fun _ => rfl, .kept fun _ => rfl,
    .kept fun _ => rfl, fun _ => rfl⟩
  comp hg hf := ⟨hg.state.comp hf.state, hg.adminState.comp hf.adminState,
    hg.operationalState.comp hf.operationalState, hg.macAddress.comp hf.macAddress,
    hg.neighbor.comp hf.neighbor, fun b => (hg.conditions _).trans (hf.conditions b)⟩
  fails := ⟨.const fun _ => rfl, .kept fun _ => rfl, .kept fun _ => rfl, .kept fun _ => rfl,
    .kept fun _ => rfl, fun _ => rfl⟩
  self _ := rfl
  conditions hf := hf.conditions
  again hf cs b := by
    apply SwitchInterfaceStatus.ext
    · exact hf.adminState.again (g := interfaceKind.setConditions cs) (fun _ => rfl) b
    · exact hf.operationalState.again (g := interfaceKind.setConditions cs) (fun _ => rfl) b
    · exact hf.state.again (g := interfaceKind.setConditions cs) (fun _ => rfl) b
    · exact hf.neighbor.again (g := interfaceKind.setConditions cs) (fun _ => rfl) b
    · exact hf.macAddress.again (g := interfaceKind.setConditions cs) (fun _ => rfl) b
    · exact hf.conditions _

theorem uniform_observeSwitch (o : Switch) (name : String) :
    Uniform SwitchUpdate (observeSwitch o name) := by
  have hU := updates_switchKind
  have hidentity (d : Device) : SwitchUpdate fun b => { b with
      macAddress := d.macAddress, firmwareVersion := d.osVersion, sku := d.hardwareSku } :=
    ⟨.kept fun _ => rfl, .kept fun _ => rfl, .const fun _ => rfl, .const fun _ => rfl,
      .const fun _ => rfl, fun _ => rfl⟩
  have hports (ps : List PortStatus) : SwitchUpdate fun b => { b with
      ports := ps, state := some .ready } :=
    ⟨.const fun _ => rfl, .const fun _ => rfl, .kept fun _ => rfl, .kept fun _ => rfl,
      .kept fun _ => rfl, fun _ => rfl⟩
  exact .bind hU (.attempt hU _) fun _ => .bind hU (.reportOrFail hU _ _) fun d =>
    .bind hU (.modify (hidentity d)) fun _ => .bind hU (.reportOrFail hU _ _) fun _ =>
    .bind hU (.attempt hU _) fun _ => .bind hU (.reportOrFail hU _ _) fun _ =>
    .bind hU (.modify (hports _)) fun _ => .pure hU _

theorem uniform_observeInterface (o : SwitchInterface) (name : String) :
    Uniform InterfaceUpdate (observeInterface o name) := by
  have hU := updates_interfaceKind
  have hbefore (i : Interface) (admin : LinkState) :
      InterfaceUpdate fun b => { b with
        adminState := some admin
        operationalState := some i.operational.observedOperational
        macAddress := i.macAddress } :=
    ⟨.kept fun _ => rfl, .const fun _ => rfl, .const fun _ => rfl, .const fun _ => rfl,
      .kept fun _ => rfl, fun _ => rfl⟩
  have hafter (admin operational : LinkState) : InterfaceUpdate fun b => { b with
      adminState := some admin, operationalState := some operational } :=
    ⟨.kept fun _ => rfl, .const fun _ => rfl, .const fun _ => rfl, .kept fun _ => rfl,
      .kept fun _ => rfl, fun _ => rfl⟩
  have hready (neighbor : Neighbor) : InterfaceUpdate fun b => { b with
      neighbor, state := some .ready } :=
    ⟨.const fun _ => rfl, .kept fun _ => rfl, .kept fun _ => rfl, .kept fun _ => rfl,
      .const fun _ => rfl, fun _ => rfl⟩
  exact .bind hU (.orFail hU _) fun _ => .bind hU (.orFail hU _) fun _ =>
    .bind hU (.reportOrFail hU _ _) fun i => .bind hU (.convertOrFail hU _) fun admin =>
    .bind hU (.modify (hbefore i admin)) fun _ => .bind hU (.convertOrFail hU _) fun _ =>
    .bind hU (.reportOrFail hU _ _) fun _ => .bind hU (.convertOrFail hU _) fun admin' =>
    .bind hU (.convertOrFail hU _) fun operational =>
    .bind hU (.modify (hafter admin' operational)) fun _ => .bind hU (.orFail hU _) fun neighbor =>
    .bind hU (.modify (hready neighbor)) fun _ => .pure hU _

end Controller

end SwitchFleet

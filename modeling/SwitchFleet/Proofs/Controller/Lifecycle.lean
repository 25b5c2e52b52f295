import Mathlib.Logic.Relation
import SwitchFleet.Proofs.Controller.Fleet
import SwitchFleet.Proofs.Controller.Keeping
import SwitchFleet.Proofs.Controller.Recording

/-!
# Lives of resources

A new resource is attempted again and again, each time as it is stored then. The agent may answer as it
likes, any verb may fail, and others may edit the resource or mark it for deletion in between.

* `Kind.Attempts`: one attempt at a stored resource, in any world that keeps it.
* `Kind.Lives`: what a stored resource may become.
* `Lifecycle.Follows`: how one attempt may change the state of a resource.
* `Kind.Safe`: when devices are dealt with, how the state moves, what the conditions say, and what
  becomes of a resource that is being deleted. **`lifecycle_safe`**: switches and interfaces are safe.
-/

namespace SwitchFleet

/-- How one attempt may change the state of a resource. -/
inductive Lifecycle.Follows : Option Lifecycle → Option Lifecycle → Prop
  | stays (x : Option Lifecycle) : Follows x x
  | seen : Follows none (some .pending)
  | ready (x : Lifecycle) : Follows (some x) (some .ready)
  | failed (x : Lifecycle) : Follows (some x) (some .failed)

/-- The state of a resource that was compared with its device. -/
def Lifecycle.Settled (x : Option Lifecycle) : Prop := x = some .ready ∨ x = some .failed

namespace Lifecycle.Follows

variable {x y : Option Lifecycle}

theorem isSome (h : Follows x y) (hx : x.isSome = true) : y.isSome = true := by
  cases h with
  | stays => exact hx
  | seen => rfl
  | ready => rfl
  | failed => rfl

theorem settled (h : Follows x y) (hx : Settled x) : Settled y := by
  cases h with
  | stays => exact hx
  | seen => rcases hx with hx | hx <;> cases hx
  | ready => exact .inl rfl
  | failed => exact .inr rfl

end Lifecycle.Follows

namespace Controller

variable {Spec Status : Type}

namespace Kind

variable (k : Kind Spec Status) (own : Verb Spec Status → Query)
  (observe : Object Spec Status → String → Observation Status Action)

/-! ## What happens to a resource -/

/-- One attempt at the stored resource `o`, in any world that keeps it: the questions that were asked,
and what is stored afterwards. -/
inductive Attempts (o : Object Spec Status) (asked : List (Program.Asked Query.Answer)) :
    Option (Object Spec Status) → Prop
  | intro {σ : Type} {answer : (q : Query) → σ → q.Answer × σ} {store : σ → ObjectStore Spec Status}
    {s s' : σ} {r : Except ControllerError Action} (hk : k.Keeps own answer store)
    (hget : (store s).objects.get? (o.metadata.name.getD "") = some o)
    (h : Program.Runs answer (k.reconcile observe o) s r s' asked) :
    Attempts o asked ((store s').objects.get? (o.metadata.name.getD ""))

/-- What happens to a stored resource: an attempt, or a change by others, who leave its status alone. -/
inductive Happens : Option (Object Spec Status) → Option (Object Spec Status) → Prop
  | attempt {o : Object Spec Status} {asked : List (Program.Asked Query.Answer)}
    {found : Option (Object Spec Status)} (h : k.Attempts own observe o asked found) :
    Happens (some o) found
  | edit {o p : Object Spec Status} (hname : p.metadata.name = o.metadata.name)
    (hstatus : p.status = o.status) : Happens (some o) (some p)

/-- What a stored resource may become. -/
def Lives (o p : Object Spec Status) : Prop :=
  Relation.ReflTransGen (k.Happens own observe) (some o) (some p)

/-- The state of a resource. -/
def stateOf (o : Object Spec Status) : Option Lifecycle := o.status.bind k.state

/-- A status has a state, and its only condition tells whether the resource is ready. -/
def Tells (b : Status) : Prop :=
  ∃ state c, k.state b = some state ∧ k.conditions b = [c] ∧ c.type = Condition.readyType ∧
    (c.status = .yes ↔ state = .ready)

/-! ## Safety -/

/-- The resources of a kind live safely. -/
structure Safe : Prop where
  /-- Devices are dealt with, and resources are applied, only for a resource that has our finalizer and
  a state, and is not being deleted. -/
  guarded : ∀ {o asked found}, k.Attempts own observe o asked found → ∀ a ∈ asked, a.1.Engages →
    Group.finalizer ∈ o.metadata.finalizerList ∧ o.metadata.isDeleting = false ∧
      (k.stateOf o).isSome = true
  /-- An attempt that adds our finalizer does nothing else. It is added unless the patch is refused, and
  then the resource is as before. -/
  claims : ∀ {o name asked found}, k.Attempts own observe o asked found →
    o.metadata.name = some name → o.metadata.isDeleting = false →
    Group.finalizer ∉ o.metadata.finalizerList →
      ∃ a, asked = [a] ∧
        a.1 = own (.patchFinalizers name (o.metadata.finalizerList ++ [Group.finalizer])) ∧
        (refusal? a = none →
          found = o.withFinalizers (o.metadata.finalizerList ++ [Group.finalizer])) ∧
        ∀ e, refusal? a = some e → found = some o
  /-- An attempt at a resource that is being deleted does no more than to remove our finalizer,
  wherever it stands in the list. Unless the patch is refused, the resource goes away if there is no
  other finalizer. -/
  releases : ∀ {o name asked found}, k.Attempts own observe o asked found →
    o.metadata.name = some name → o.metadata.isDeleting = true →
      asked = [] ∧ found = some o ∧ Group.finalizer ∉ o.metadata.finalizerList ∨
      Group.finalizer ∈ o.metadata.finalizerList ∧ ∃ a, asked = [a] ∧
        a.1 = own (.patchFinalizers name
          (o.metadata.finalizerList.filter (· != Group.finalizer))) ∧
        (refusal? a = none →
          found = o.withFinalizers (o.metadata.finalizerList.filter (· != Group.finalizer))) ∧
        ∀ e, refusal? a = some e → found = some o
  moves : ∀ {o p asked}, k.Attempts own observe o asked (some p) →
    Lifecycle.Follows (k.stateOf o) (k.stateOf p)
  /-- A state is never lost. -/
  lasts : ∀ {o p}, k.Lives own observe o p → (k.stateOf o).isSome = true →
    (k.stateOf p).isSome = true
  /-- A resource that was compared with its device never waits for that again. -/
  settled : ∀ {o p}, k.Lives own observe o p → Lifecycle.Settled (k.stateOf o) →
    Lifecycle.Settled (k.stateOf p)
  /-- Whatever becomes of a new resource, its status tells whether it is ready. -/
  tells : ∀ {o p b}, k.Lives own observe o p → o.status = none → p.status = some b → k.Tells b

variable {k own observe} {o p : Object Spec Status} {asked : List (Program.Asked Query.Answer)}
  {found : Option (Object Spec Status)}

theorem Lives.keeps {P : Object Spec Status → Prop} (h : k.Lives own observe o p) (ho : P o)
    (hstep : ∀ o p, k.Happens own observe (some o) (some p) → P o → P p) : P p := by
  have hall : ∀ x, Relation.ReflTransGen (k.Happens own observe) (some o) x →
      ∀ q, x = some q → P q := by
    intro x hx
    induction hx with
    | refl =>
      rintro q ⟨⟩
      exact ho
    | @tail y z _ hyz ih =>
      rintro q rfl
      rcases y with _ | y
      · cases hyz
      · exact hstep y q hyz (ih y rfl)
  exact hall _ h p rfl

/-! ## Single attempts -/

theorem Attempts.course (hm : k.Managed own observe) (h : k.Attempts own observe o asked found) :
    ∃ (σ : Type) (answer : (q : Query) → σ → q.Answer × σ) (s : σ),
      k.Course own answer o s observe found asked := by
  cases h with
  | intro hk hget h => exact ⟨_, _, _, course_of_runs hm hk hget h⟩

theorem Managed.state_getD (hm : k.Managed own observe) (o : Object Spec Status) :
    k.state (o.status.getD k.empty) = k.stateOf o := by
  unfold stateOf
  rcases o.status with _ | b
  · exact hm.state_empty
  · rfl

theorem stateOf_eq (h : p.status = o.status) : k.stateOf p = k.stateOf o := by
  unfold stateOf
  rw [h]

theorem Attempts.guarded (hm : k.Managed own observe) (h : k.Attempts own observe o asked found) :
    ∀ a ∈ asked, a.1.Engages →
      Group.finalizer ∈ o.metadata.finalizerList ∧ o.metadata.isDeleting = false ∧
        (k.stateOf o).isSome = true := by
  intro a ha he
  obtain ⟨-, -, h⟩ := h
  obtain ⟨t₁, t₂, rfl, hroutine, hcompared⟩ := hm.asked_inv h
  rcases List.mem_append.mp ha with ha | ha
  · rcases hcompared with rfl | ⟨hown, hlive, hseen, -⟩
    · cases ha
    · rw [hm.state_getD] at hseen
      exact ⟨hown, hlive, hseen⟩
  · obtain ⟨name, -, hnow | ⟨v, hv, hown⟩⟩ := hroutine a ha
    · rw [hnow] at he
      exact he.elim
    · rw [hown] at he
      exact absurd (hm.quiet v he) hv.kind_ne

section

variable {σ : Type} {answer : (q : Query) → σ → q.Answer × σ} {s : σ}

/-- What a comparison comes to, as far as the state and the conditions go. -/
theorem Managed.sinceSeen (hm : k.Managed own observe) {name : String} {b b' : Status} {s' : σ}
    {r : Except ControllerError Action} {t : List (Program.Asked Query.Answer)}
    (h : Observes answer (k.sinceSeen (observe o name)) b s r b' s' t) :
    Lifecycle.Follows (k.state b) (k.state b') ∧ k.conditions b' = k.conditions b := by
  rcases hs : k.state b with _ | state
  · obtain ⟨-, rfl, -, -⟩ := sinceSeen_inv hs h
    rw [hm.lenses.state_setState, hm.conditions_setState]
    exact ⟨.seen, rfl⟩
  · have hseen : (k.state b).isSome = true := by rw [hs]; rfl
    obtain ⟨hconditions, hstate | hstate | hstate⟩ := hm.moves ((observes_sinceSeen hseen).mp h) hseen
    · rw [hstate, hs]
      exact ⟨.stays _, hconditions⟩
    · rw [hstate]
      exact ⟨.ready _, hconditions⟩
    · rw [hstate]
      exact ⟨.failed _, hconditions⟩

theorem Course.status_cases (hm : k.Managed own observe)
    (h : k.Course own answer o s observe (some p) asked) :
    p.status = o.status ∨
      ∃ status generation outcome time, p.status = some (k.judge generation outcome time status) ∧
        Lifecycle.Follows (k.stateOf o) (k.state status) ∧ (k.state status).isSome = true ∧
        k.conditions status = k.conditions (o.status.getD k.empty) := by
  generalize hp : some p = found at h
  cases h with
  | nameless | idle =>
    cases hp
    exact .inl rfl
  | released | claimed => exact .inl (status_afterPatch hp.symm)
  | compared _ _ _ hobs hfound =>
    subst hp
    rcases hfound with hfound | hfound
    · cases hfound
      exact .inl rfl
    · cases hfound
      obtain ⟨hfollows, hconditions⟩ := hm.sinceSeen hobs
      rw [hm.state_getD] at hfollows
      exact .inr ⟨_, _, _, _, rfl, hfollows, hm.isSome_sinceSeen hobs, hconditions⟩

theorem Course.moves (hm : k.Managed own observe)
    (h : k.Course own answer o s observe (some p) asked) :
    Lifecycle.Follows (k.stateOf o) (k.stateOf p) := by
  rcases h.status_cases hm with hp | ⟨status, generation, outcome, time, hp, hfollows, -, -⟩
  · rw [stateOf_eq hp]
    exact .stays _
  · have hstate : k.stateOf p = k.state status := by
      unfold stateOf
      rw [hp]
      exact hm.lenses.state_judge generation outcome time status
    rwa [hstate]

theorem Course.claims {name : String} (h : k.Course own answer o s observe found asked)
    (hname : o.metadata.name = some name) (hlive : o.metadata.isDeleting = false)
    (hown : Group.finalizer ∉ o.metadata.finalizerList) :
    ∃ a, asked = [a] ∧
      a.1 = own (.patchFinalizers name (o.metadata.finalizerList ++ [Group.finalizer])) ∧
      (refusal? a = none →
        found = o.withFinalizers (o.metadata.finalizerList ++ [Group.finalizer])) ∧
      ∀ e, refusal? a = some e → found = some o := by
  have hlist : ensured true Group.finalizer o.metadata.finalizerList =
      o.metadata.finalizerList ++ [Group.finalizer] := by simp [ensured, hown]
  cases h with
  | nameless hnone => cases hname.symm.trans hnone
  | idle _ hdel => cases hlive.symm.trans hdel
  | released _ hdel => cases hlive.symm.trans hdel
  | claimed hsome _ _ ha =>
    obtain rfl := Option.some.inj (hname.symm.trans hsome)
    rw [hlist] at ha ⊢
    exact ⟨_, rfl, ha, afterPatch_of_none, fun _ => afterPatch_of_some⟩
  | compared _ _ hmem => exact absurd hmem hown

theorem Course.releases {name : String} (h : k.Course own answer o s observe found asked)
    (hname : o.metadata.name = some name) (hdel : o.metadata.isDeleting = true) :
    asked = [] ∧ found = some o ∧ Group.finalizer ∉ o.metadata.finalizerList ∨
      Group.finalizer ∈ o.metadata.finalizerList ∧ ∃ a, asked = [a] ∧
        a.1 = own (.patchFinalizers name
          (o.metadata.finalizerList.filter (· != Group.finalizer))) ∧
        (refusal? a = none →
          found = o.withFinalizers (o.metadata.finalizerList.filter (· != Group.finalizer))) ∧
        ∀ e, refusal? a = some e → found = some o := by
  cases h with
  | nameless hnone => cases hname.symm.trans hnone
  | idle _ _ hown => exact .inl ⟨rfl, rfl, hown⟩
  | released hsome _ hown ha =>
    obtain rfl := Option.some.inj (hname.symm.trans hsome)
    exact .inr ⟨hown, _, rfl, ha, afterPatch_of_none, fun _ => afterPatch_of_some⟩
  | claimed _ hlive => cases hlive.symm.trans hdel
  | compared _ hlive => cases hlive.symm.trans hdel

end

/-! ## Conditions -/

/-- There is no condition yet, or just the one that tells whether the resource is ready. -/
def Bare (cs : List Condition) : Prop := cs = [] ∨ ∃ c, cs = [c] ∧ c.type = Condition.readyType

theorem set_of_bare {cs : List Condition} (h : Bare cs) {new : Condition}
    (hnew : new.type = Condition.readyType) :
    ∃ c, Condition.set cs new = [c] ∧ c.type = Condition.readyType ∧ c.status = new.status := by
  rcases h with rfl | ⟨c, rfl, hc⟩
  · exact ⟨new, rfl, hnew, rfl⟩
  · exact ⟨Condition.replacing c new, if_pos (hc.trans hnew.symm),
      (Condition.replacing_type c new).trans hnew, Condition.replacing_status c new⟩

theorem tells_judge (hk : k.Lenses) {status : Status} (hs : (k.state status).isSome = true)
    (hb : Bare (k.conditions status)) (generation : Option Int64)
    (outcome : Except ControllerError Action) (time : String) :
    k.Tells (k.judge generation outcome time status) := by
  obtain ⟨state, hstate⟩ := Option.isSome_iff_exists.mp hs
  obtain ⟨c, hc, htype, hstatus⟩ := set_of_bare hb
    (readyCondition_type state (error? outcome) time generation)
  refine ⟨state, c, ?_, ?_, htype, ?_⟩
  · rw [hk.state_judge, hstate]
  · unfold judge
    rw [hstate]
    dsimp only
    rw [hk.conditions_setConditions, hc]
  · rw [hstatus, readyCondition_status]
    cases state <;> decide

/-- The status of a resource, if it has one, tells whether the resource is ready. -/
def Told (k : Kind Spec Status) (o : Object Spec Status) : Prop := ∀ b, o.status = some b → k.Tells b

theorem Managed.bare (hm : k.Managed own observe) (h : k.Told o) :
    Bare (k.conditions (o.status.getD k.empty)) := by
  rcases hb : o.status with _ | b
  · exact .inl hm.conditions_empty
  · obtain ⟨-, c, -, hc, htype, -⟩ := h b hb
    exact .inr ⟨c, hc, htype⟩

theorem Course.told {σ : Type} {answer : (q : Query) → σ → q.Answer × σ} {s : σ}
    (hm : k.Managed own observe) (h : k.Course own answer o s observe (some p) asked)
    (ho : k.Told o) : k.Told p := by
  intro b hb
  rcases h.status_cases hm with hp | ⟨status, generation, outcome, time, hp, -, hsome, hconditions⟩
  · exact ho b (hp ▸ hb)
  · obtain rfl := Option.some.inj (hp.symm.trans hb)
    have hbare := hm.bare ho
    rw [← hconditions] at hbare
    exact tells_judge hm.lenses hsome hbare generation outcome time

/-! ## Lives -/

theorem Happens.follows (hm : k.Managed own observe)
    (h : k.Happens own observe (some o) (some p)) :
    Lifecycle.Follows (k.stateOf o) (k.stateOf p) := by
  cases h with
  | attempt h =>
    obtain ⟨_, _, _, hc⟩ := h.course hm
    exact hc.moves hm
  | edit _ hstatus =>
    rw [stateOf_eq hstatus]
    exact .stays _

theorem Happens.told (hm : k.Managed own observe) (h : k.Happens own observe (some o) (some p))
    (ho : k.Told o) : k.Told p := by
  cases h with
  | attempt h =>
    obtain ⟨_, _, _, hc⟩ := h.course hm
    exact hc.told hm ho
  | edit _ hstatus => exact fun b hb => ho b (hstatus ▸ hb)

/-- **Resources live safely** if their kind is managed. -/
theorem Managed.lives_safely (hm : k.Managed own observe) : k.Safe own observe where
  guarded h := h.guarded hm
  claims h hname hlive hown := by
    obtain ⟨_, _, _, hc⟩ := h.course hm
    exact hc.claims hname hlive hown
  releases h hname hdel := by
    obtain ⟨_, _, _, hc⟩ := h.course hm
    exact hc.releases hname hdel
  moves h := by
    obtain ⟨_, _, _, hc⟩ := h.course hm
    exact hc.moves hm
  lasts h ho := h.keeps ho fun _ _ hstep => (hstep.follows hm).isSome
  settled h ho := h.keeps ho fun _ _ hstep => (hstep.follows hm).settled
  tells h ho hb := by
    have htold := h.keeps (P := k.Told) (fun b hb => by rw [ho] at hb; cases hb)
      fun _ _ hstep => hstep.told hm
    exact htold _ hb

end Kind

/-! ## Both kinds -/

theorem managed_switchKind : switchKind.Managed .switches observeSwitch where
  lenses := lenses_switchKind
  written := written_switchKind
  encode_empty := rfl
  state_empty := rfl
  conditions_empty := rfl
  conditions_setState _ _ := rfl
  sends := sends_switchKind
  now_ne _ := nofun
  quiet _ h := h.elim
  asks o name := (asks_observeSwitch o name).mono fun _ => Inspects.ne_switches
  moves h _ := by
    have hexit := exit_observeSwitch h
    refine ⟨hexit.conditions_eq, ?_⟩
    rcases hexit.state_eq with ⟨-, hs, -⟩ | ⟨e, -, -, hs⟩
    · exact .inr (.inl hs)
    · split at hs
      · exact .inr (.inr hs)
      · exact .inl hs

theorem managed_interfaceKind : interfaceKind.Managed .interfaces observeInterface where
  lenses := lenses_interfaceKind
  written := written_interfaceKind
  encode_empty := rfl
  state_empty := rfl
  conditions_empty := rfl
  conditions_setState _ _ := rfl
  sends := sends_interfaceKind
  now_ne _ := nofun
  quiet v h := by
    cases v with
    | apply o => rfl
    | _ => exact h.elim
  asks o name := (asks_observeInterface o name).mono fun q hq v he => by
    rw [he] at hq
    exact hq
  moves h _ := by
    have hexit := exit_observeInterface h
    refine ⟨hexit.conditions_eq, ?_⟩
    rcases hexit.state_eq with ⟨-, hs⟩ | ⟨e, -, hs⟩
    · exact .inr (.inl hs)
    · exact .inr (.inr hs)

theorem Cluster.attempts {σ : Type} {others : (q : Query) → σ → q.Answer × σ} {c : Cluster σ}
    {o : Switch} (hget : c.switches.objects.get? (o.metadata.name.getD "") = some o) :
    switchKind.Attempts .switches observeSwitch o (c.asked others o)
      ((c.attempt others o).2.switches.objects.get? (o.metadata.name.getD "")) :=
  .intro (Cluster.backed.keeps fun _ c hq => Cluster.switches_answer others hq c) hget (.self _ c)

theorem Fleet.attempts {f : Fleet} {o : SwitchInterface}
    (hget : f.interfaces.objects.get? (o.metadata.name.getD "") = some o) :
    interfaceKind.Attempts .interfaces observeInterface o (f.asked o)
      ((f.attempt o).2.interfaces.objects.get? (o.metadata.name.getD "")) :=
  .intro (Fleet.backed.keeps fun _ f hq => Fleet.interfaces_answer hq f) hget (.self _ f)

/-- **Switches and interfaces live safely.** -/
theorem lifecycle_safe :
    switchKind.Safe .switches observeSwitch ∧ interfaceKind.Safe .interfaces observeInterface :=
  ⟨managed_switchKind.lives_safely, managed_interfaceKind.lives_safely⟩

end Controller

end SwitchFleet

import SwitchFleet.Proofs.Controller.Naming
import SwitchFleet.Proofs.Controller.Persistence
import SwitchFleet.Proofs.Controller.Uniform

/-!
# Attempts that are repeated

An attempt is repeated with the same replies, at any later time. The replies may be what they like, and
they may fail the attempt at any point.

* `Scene`: the resources of the operator with a script of replies. `Scene.answer`: a verb on resources fails
  if the script has it so, and everything else is answered as the script has it.
* `replacing_assoc`, `replacing_self`: applying the same resources again in the same order changes nothing.
* `Kind.Repeats`: after an attempt whose write of the status succeeded, another one writes no status and
  leaves all resources as they are. **`reconcile_repeats`**: this holds of switches and of interfaces.
-/

namespace SwitchFleet

variable {Spec Status τ : Type}

/-! ## Resources that are applied again -/

namespace ObjectStore

theorem replacing_assoc (x y z : Object Spec Status) :
    replacing (replacing x y) z = replacing x (replacing y z) := by
  simp only [replacing, Option.or_assoc]

theorem replacing_self (x : Object Spec Status) : replacing x x = x := by
  simp only [replacing, Option.or_self]

theorem superseding_superseding (x : Option (Object Spec Status)) (y z : Object Spec Status) :
    superseding (some (superseding x y)) z = superseding x (replacing y z) := by
  cases x with
  | none => rfl
  | some x => exact replacing_assoc x y z

/-- The resource that is there after several were applied in its place, if it was there or there is one. -/
def supersede (x : Option (Object Spec Status)) (new : Object Spec Status) :
    Option (Object Spec Status) := some (superseding x new)

theorem foldl_supersede (x : Option (Object Spec Status)) (y : Object Spec Status)
    (ys : List (Object Spec Status)) :
    (y :: ys).foldl supersede x = supersede x (ys.foldl replacing y) := by
  induction ys generalizing y with
  | nil => rfl
  | cons z zs ih =>
    have hfirst : (y :: z :: zs).foldl supersede x = (replacing y z :: zs).foldl supersede x := by
      simp only [List.foldl_cons, supersede, superseding_superseding]
    rw [hfirst, ih]
    rfl

/-- **Applying resources again**, in the same order, changes nothing. -/
theorem foldl_supersede_again (x : Option (Object Spec Status)) (ys : List (Object Spec Status)) :
    ys.foldl supersede (ys.foldl supersede x) = ys.foldl supersede x := by
  cases ys with
  | nil => rfl
  | cons y ys =>
    have htwice := superseding_superseding x (ys.foldl replacing y) (ys.foldl replacing y)
    rw [replacing_self] at htwice
    rw [foldl_supersede, foldl_supersede]
    exact congrArg some htwice

/-- The outcome of a verb and the store after it. It fails if the reply is an error, and is accepted if
not. -/
def obey (s : Schema Spec Status) (v : Verb Spec Status) (reply : v.Outcome)
    (t : ObjectStore Spec Status) : v.Outcome × ObjectStore Spec Status :=
  match reply with
  | .error e => (.error e, t)
  | .ok _ => t.accept s v

theorem obey_cases (s : Schema Spec Status) (v : Verb Spec Status) (reply : v.Outcome)
    (t : ObjectStore Spec Status) :
    t.obey s v reply = t.accept s v ∨ ∃ e, t.obey s v reply = (.error e, t) := by
  cases reply with
  | ok a => exact .inl rfl
  | error e => exact .inr ⟨e, rfl⟩

/-- Whether a resource is applied does not depend on what is there. -/
theorem obey_apply_outcome (s : Schema Spec Status) (o : Object Spec Status)
    (reply : Except ControllerError Unit) (t t' : ObjectStore Spec Status) :
    (t.obey s (.apply o) reply).1 = (t'.obey s (.apply o) reply).1 := by
  cases reply with
  | error e => rfl
  | ok a =>
    change (t.accept s (.apply o)).1 = (t'.accept s (.apply o)).1
    dsimp only [accept]
    rcases o.name with e | name
    · rfl
    · rfl

end ObjectStore

namespace Controller

/-! ## Scripts of replies -/

/-- The resources of the operator, a script that has the replies to its questions, and the time. -/
structure Scene (τ : Type) where
  switches : ObjectStore SwitchSpec SwitchStatus
  interfaces : ObjectStore SwitchInterfaceSpec SwitchInterfaceStatus
  script : τ
  time : String

/-- The reply of a script to a question, and the script that is left. -/
abbrev Replies (τ : Type) : Type := (q : Query) → τ → q.Answer × τ

namespace Scene

variable (reply : Replies τ)

/-- The answer to a question. A verb on resources fails if the reply to it is an error, and it is accepted
if not. Whether there is a client for a switch does not depend on the status of the switch. -/
def answer : (q : Query) → Scene τ → q.Answer × Scene τ
  | .switches v, s =>
    let (r, script) := reply (.switches v) s.script
    let (outcome, switches) := s.switches.obey Switch.schema v r
    (outcome, { s with switches, script })
  | .interfaces v, s =>
    let (r, script) := reply (.interfaces v) s.script
    let (outcome, interfaces) := s.interfaces.obey SwitchInterface.schema v r
    (outcome, { s with interfaces, script })
  | .client o, s =>
    let (r, script) := reply (.client { o with status := none }) s.script
    (r, { s with script })
  | .call address op, s =>
    let (r, script) := reply (.call address op) s.script
    (r, { s with script })
  | .now, s => (s.time, s)

theorem keepsSwitches : switchKind.Keeps .switches (answer reply) Scene.switches := by
  refine ⟨fun v s => ?_, fun q s hq => ?_⟩
  · change (s.switches.obey Switch.schema v (reply (.switches v) s.script).1).1 = _ ∧
      (s.switches.obey Switch.schema v (reply (.switches v) s.script).1).2 = _ ∨
      (∃ e, (s.switches.obey Switch.schema v (reply (.switches v) s.script).1).1 = .error e) ∧
        (s.switches.obey Switch.schema v (reply (.switches v) s.script).1).2 = _
    rcases s.switches.obey_cases Switch.schema v (reply (.switches v) s.script).1 with h | ⟨e, h⟩
    · rw [h]
      exact .inl ⟨rfl, rfl⟩
    · rw [h]
      exact .inr ⟨⟨e, rfl⟩, rfl⟩
  · cases q with
    | switches v => exact absurd rfl (hq v)
    | _ => rfl

theorem keepsInterfaces : interfaceKind.Keeps .interfaces (answer reply) Scene.interfaces := by
  refine ⟨fun v s => ?_, fun q s hq => ?_⟩
  · change (s.interfaces.obey SwitchInterface.schema v (reply (.interfaces v) s.script).1).1 = _ ∧
      (s.interfaces.obey SwitchInterface.schema v (reply (.interfaces v) s.script).1).2 = _ ∨
      (∃ e, (s.interfaces.obey SwitchInterface.schema v (reply (.interfaces v) s.script).1).1 =
        .error e) ∧
        (s.interfaces.obey SwitchInterface.schema v (reply (.interfaces v) s.script).1).2 = _
    rcases s.interfaces.obey_cases SwitchInterface.schema v (reply (.interfaces v) s.script).1 with
      h | ⟨e, h⟩
    · rw [h]
      exact .inl ⟨rfl, rfl⟩
    · rw [h]
      exact .inr ⟨⟨e, rfl⟩, rfl⟩
  · cases q with
    | interfaces v => exact absurd rfl (hq v)
    | _ => rfl

/-! ## What a comparison sees of a scene -/

variable {reply} {q : Query} {s s' : Scene τ}

/-- The comparison of a switch sees nothing of the resources. -/
theorem alike_of_inspects (hq : Inspects q) (hs : s.script = s'.script) :
    (answer reply q s).1 = (answer reply q s').1 ∧
      (answer reply q s).2.script = (answer reply q s').2.script := by
  cases q with
  | client o => simp only [answer, hs, and_self]
  | call address op => simp only [answer, hs, and_self]
  | interfaces v =>
    obtain ⟨c, rfl, -⟩ := hq
    simp only [answer, hs, and_true]
    exact ObjectStore.obey_apply_outcome _ _ _ _ _
  | switches v => exact hq.elim
  | now => exact hq.elim

theorem alike_of_looks (hq : Looks q) (hs : s.script = s'.script ∧ s.switches = s'.switches) :
    (answer reply q s).1 = (answer reply q s').1 ∧
      (answer reply q s).2.script = (answer reply q s').2.script ∧
      (answer reply q s).2.switches = (answer reply q s').2.switches := by
  obtain ⟨hscript, hswitches⟩ := hs
  cases q with
  | client o => simp only [answer, hscript, hswitches, and_self]
  | call address op => simp only [answer, hscript, hswitches, and_self]
  | switches v => simp only [answer, hscript, hswitches, and_self]
  | interfaces v => exact hq.elim
  | now => exact hq.elim

theorem switches_answer_of_looks (reply : Replies τ) (q : Query) (s : Scene τ) (hq : Looks q) :
    (answer reply q s).2.switches = s.switches := by
  cases q with
  | switches v =>
    obtain ⟨key, rfl⟩ := hq
    change (s.switches.obey Switch.schema (.get key) _).2 = s.switches
    rcases s.switches.obey_cases Switch.schema (.get key)
      (reply (.switches (.get key)) s.script).1 with h | ⟨e, h⟩
    · rw [h]
      rfl
    · rw [h]
  | interfaces v => exact hq.elim
  | _ => rfl

theorem run_observeSwitch (reply : Replies τ) (o : Switch) (name : String)
    (status : Option SwitchStatus) (b : SwitchStatus) (s : Scene τ) :
    Program.run (answer reply) ((observeSwitch { o with status } name).run.run b) s =
      Program.run (answer reply) ((observeSwitch o name).run.run b) s := by
  have hchildren : applyChildren { o with status } name = applyChildren o name := by
    funext is
    induction is with
    | nil => rfl
    | cons i is ih =>
      rw [applyChildren, applyChildren, ih]
      rfl
  unfold observeSwitch
  rw [hchildren]
  rfl

end Scene

/-! ## Attempts that are repeated -/

namespace Kind

variable {σ : Type} (observe : Object Spec Status → String → Observation Status Action)

/-- A comparison goes in the same way in worlds that are alike. -/
structure Replays (answer : (q : Query) → σ → q.Answer × σ) (P : Query → Prop) (L : σ → σ → Prop) :
    Prop where
  asks : ∀ o name, Asks P (observe o name)
  alike : ∀ q s s', P q → L s s' →
    (answer q s).1 = (answer q s').1 ∧ L (answer q s).2 (answer q s').2
  status : ∀ o name status b s,
    Program.run answer ((observe { o with status } name).run.run b) s =
      Program.run answer ((observe o name).run.run b) s

variable {observe} {k : Kind Spec Status} {own : Verb Spec Status → Query}
  {answer : (q : Query) → σ → q.Answer × σ}
  {P : Query → Prop} {L : σ → σ → Prop} {U : (Status → Status) → Prop} {o : Object Spec Status}
  {name : String} {before computed : Status} {s s' s₂ s₂' : σ}
  {outcome r : Except ControllerError Action} {written : Except ControllerError Unit}
  {asked asked' : List (Program.Asked Query.Answer)}

/-- **An attempt that is repeated** in a world that is alike compares as before, and writes nothing. -/
theorem Managed.replayed (hm : k.Managed own observe) (hU : k.Updates U)
    (huni : ∀ o name, Uniform U (observe o name)) (hr : Replays observe answer P L)
    (hc : k.Compares o name before)
    (hcomp : k.Computes observe answer o name s s' asked outcome computed written) (hL : L s s₂)
    (h : Program.Runs answer (k.reconcile observe { o with status := some computed }) s₂ r s₂'
      asked') :
    let p := (observe o name).run.run computed
    r = k.excuse outcome ∧ (∀ a ∈ asked', P a.1 ∨ a.1 = .now) ∧
      s₂' = (answer .now (p.run answer s₂).2).2 ∧ p.trace answer s = p.trace answer s₂ ∧
      ∃ t, Program.Runs answer (k.flush name before computed) (answer .now (p.run answer s).2).2
        written s' t := by
  obtain ⟨hobs, hflush, -⟩ := hcomp
  rename_i status s₁ t₁ t₂
  have hbefore : o.status.getD k.empty = before := by rw [hc.status_eq, Option.getD_some]
  have hseen : (k.state status).isSome = true := hm.isSome_sinceSeen hobs
  rw [hbefore] at hflush
  rw [hbefore, observes_sinceSeen hc.seen] at hobs
  obtain ⟨g, hg, rfl, hall⟩ := (huni o name).observes hobs
  have hagain (time : String) := hU.judge_again hm.lenses hg o.metadata.generation outcome
    (answer .now s₁).1 time before
  -- the comparison from the status that was computed, in both worlds
  generalize hcomputed : k.judge o.metadata.generation outcome (answer .now s₁).1 (g before) =
    computed at h hflush hagain ⊢
  have hc' : k.Compares { o with status := some computed } name computed := by
    refine ⟨hc.named, hc.finalized, hc.kept, rfl, ?_⟩
    rw [← hcomputed, hm.lenses.state_judge]
    exact hseen
  obtain ⟨hrun, -, htrace⟩ := Program.run_alike (hr.asks o name computed) hr.alike hL
  obtain ⟨outcome', status', s₁', t₁', flushed, t₂', hobs', hflush', rfl, rfl⟩ :=
    hc'.reconcile_inv (fun _ _ _ _ ho =>
      hm.isSome_sinceSeen ((observes_sinceSeen hc'.seen).mpr ho)) h
  have hsecond := (hr.status o name (some computed) computed s₂).symm.trans hobs'.run_eq
  rw [(hall computed).run_eq, hsecond] at hrun
  obtain ⟨rfl, rfl⟩ := Prod.mk.inj hrun
  rw [hagain, hm.written.flush_self] at hflush'
  obtain ⟨rfl, rfl, rfl⟩ := hflush'.pure_inv
  refine ⟨settle_ok _, ?_, ?_, htrace, t₂, ?_⟩
  · intro a ha
    rcases List.mem_append.mp ha with ha | ha
    · exact .inl (hobs'.within (hr.asks _ name) a ha)
    · exact .inr (congrArg Sigma.fst (List.mem_singleton.mp ha))
  · rw [hsecond]
  · rw [(hall computed).run_eq]
    exact hflush

end Kind

namespace Scene

/-- The resources of two scenes are the same. -/
structure SameResources (s s' : Scene τ) : Prop where
  switches : ∀ key, s.switches.objects.get? key = s'.switches.objects.get? key
  interfaces : ∀ key, s.interfaces.objects.get? key = s'.interfaces.objects.get? key

/-- The resource that a question applies under a name, if it succeeds. -/
def application? (key : String) : Program.Asked Query.Answer → Option SwitchInterface
  | ⟨.interfaces (.apply c), .ok _⟩ => if c.metadata.name = some key then some c else none
  | _ => none

/-- The resource under a name after a question. -/
def applying (key : String) (x : Option SwitchInterface) (a : Program.Asked Query.Answer) :
    Option SwitchInterface :=
  match application? key a with
  | some c => ObjectStore.supersede x c
  | none => x

theorem applying_answer {σ : Type} {answer : (q : Query) → σ → q.Answer × σ}
    {store : σ → ObjectStore SwitchInterfaceSpec SwitchInterfaceStatus}
    (hk : interfaceKind.Keeps .interfaces answer store) (key : String) {q : Query} {s : σ}
    (hq : Inspects q) :
    (store (answer q s).2).objects.get? key =
      applying key ((store s).objects.get? key) ⟨q, (answer q s).1⟩ := by
  have hother (hne : ∀ v, q ≠ .interfaces v) :
      (store (answer q s).2).objects.get? key = (store s).objects.get? key := by
    rw [hk.other q s hne]
  cases q with
  | client o => exact hother fun _ => nofun
  | call address op => exact hother fun _ => nofun
  | switches v => exact hq.elim
  | now => exact hq.elim
  | interfaces v =>
    obtain ⟨c, rfl, -⟩ := hq
    have hstored := hk.send (.apply c) s
    change (answer (.interfaces (.apply c)) s).1 = _ ∧
        store (answer (.interfaces (.apply c)) s).2 = _ ∨
      (∃ e, (answer (.interfaces (.apply c)) s).1 = .error e) ∧
        store (answer (.interfaces (.apply c)) s).2 = store s at hstored
    rcases hstored with ⟨hr, hstore⟩ | ⟨⟨e, he⟩, hstore⟩
    · rw [hr, hstore, ObjectStore.get?_accept]
      dsimp only [ObjectStore.effect, ObjectStore.accept, Object.name]
      rcases hname : c.metadata.name with _ | name
      · rfl
      · dsimp only [applying, application?]
        rw [hname]
        split <;> rfl
    · rw [he, hstore]
      rfl

theorem foldl_applying_again (key : String) (x : Option SwitchInterface)
    (asked : List (Program.Asked Query.Answer)) :
    asked.foldl (applying key) (asked.foldl (applying key) x) = asked.foldl (applying key) x := by
  have hfold (x : Option SwitchInterface) : asked.foldl (applying key) x =
      (asked.filterMap (application? key)).foldl ObjectStore.supersede x := by
    rw [List.foldl_filterMap]
    congr 1
    funext x a
    unfold applying
    cases application? key a with
    | none => rfl
    | some c => rfl
  rw [hfold, hfold, ObjectStore.foldl_supersede_again]

end Scene

/-- A question that patches a status. -/
def Query.PatchesStatus : Query → Prop
  | .switches (.patchStatus ..) | .interfaces (.patchStatus ..) => True
  | _ => False

/-- An attempt at a resource of a kind is repeated in vain. If its write of the status succeeded, another
attempt at the stored resource, with the same replies and at any time, has the same outcome, writes no
status, and leaves all resources as they are. -/
def Kind.Repeats (k : Kind Spec Status)
    (observe : Object Spec Status → String → Observation Status Action)
    (store : ∀ {τ : Type}, Scene τ → ObjectStore Spec Status) : Prop :=
  ∀ {τ : Type} (reply : Replies τ) {o : Object Spec Status} {name : String}
    {before computed : Status} {s s' : Scene τ} {r outcome : Except ControllerError Action}
    {asked : List (Program.Asked Query.Answer)},
    k.Compares o name before → (store s).objects.get? name = some o →
    Program.Runs (Scene.answer reply) (k.reconcile observe o) s r s' asked →
    k.Computes observe (Scene.answer reply) o name s s' asked outcome computed (.ok ()) →
      (store s').objects.get? name = some { o with status := some computed } ∧
      ∀ time r' s'' asked', Program.Runs (Scene.answer reply)
          (k.reconcile observe { o with status := some computed })
          { s' with script := s.script, time } r' s'' asked' →
        r' = r ∧ (∀ a ∈ asked', ¬ a.1.PatchesStatus) ∧ s''.SameResources s'

section

variable {own : Verb Spec Status → Query} {σ : Type} {k : Kind Spec Status}
  {observe : Object Spec Status → String → Observation Status Action}
  {answer : (q : Query) → σ → q.Answer × σ} {store : σ → ObjectStore Spec Status}
  {o : Object Spec Status} {name : String} {before computed : Status} {s s' : σ}
  {r outcome : Except ControllerError Action} {asked : List (Program.Asked Query.Answer)}

theorem Kind.Managed.stored (hm : k.Managed own observe) (hk : k.Keeps own answer store)
    (hc : k.Compares o name before) (hget : (store s).objects.get? name = some o)
    (h : Program.Runs answer (k.reconcile observe o) s r s' asked)
    (hcomp : k.Computes observe answer o name s s' asked outcome computed (.ok ())) :
    r = k.excuse outcome ∧
      (store s').objects.get? name = some { o with status := some computed } := by
  obtain ⟨outcome', computed', written, hcomp', hwritten⟩ := hm.computes hk hc hget h
  obtain ⟨rfl, rfl, rfl⟩ := hcomp.unique hcomp'
  exact hwritten rfl

end

theorem Inspects.not_patchesStatus {q : Query} (hq : Inspects q) : ¬ q.PatchesStatus := by
  intro hp
  cases q with
  | interfaces v =>
    obtain ⟨c, rfl, -⟩ := hq
    exact hp
  | switches v => exact hq
  | _ => exact hp

theorem Looks.not_patchesStatus {q : Query} (hq : Looks q) : ¬ q.PatchesStatus := by
  intro hp
  cases q with
  | switches v =>
    obtain ⟨key, rfl⟩ := hq
    exact hp
  | interfaces v => exact hq
  | _ => exact hp

theorem repeats_switchKind : switchKind.Repeats observeSwitch Scene.switches := by
  intro τ reply o name before computed s s' r outcome asked hc hget h hcomp
  have hm := managed_switchKind
  have hkeeps := Scene.keepsSwitches reply
  obtain ⟨rfl, hstored⟩ := hm.stored hkeeps hc hget h hcomp
  refine ⟨hstored, fun time r' s'' asked' h' => ?_⟩
  have hreplays : Kind.Replays observeSwitch (Scene.answer reply) Inspects
      fun s s' => s.script = s'.script :=
    ⟨asks_observeSwitch, fun q s s' => Scene.alike_of_inspects, Scene.run_observeSwitch reply⟩
  let again : Scene τ := { s' with script := s.script, time }
  have halike : s.script = again.script := rfl
  obtain ⟨hr, hasked, rfl, htrace, t, hflush⟩ :=
    hm.replayed updates_switchKind uniform_observeSwitch hreplays hc hcomp halike h'
  have hasks := asks_observeSwitch o name computed
  refine ⟨hr, fun a ha hp => ?_, fun key => ?_, fun key => ?_⟩
  · rcases hasked a ha with hq | hq
    · exact hq.not_patchesStatus hp
    · rw [hq] at hp
      exact hp
  · have hkept := Program.run_keeps Scene.switches
      (fun q s hq => hkeeps.other q s hq.ne_switches) hasks again
    exact congrArg (fun t => t.objects.get? key) hkept
  · -- both comparisons apply the same resources in the same order
    have hchildren := Program.run_foldl (fun s : Scene τ => s.interfaces.objects.get? key)
      (Scene.applying key)
      (fun q _ hq => Scene.applying_answer (Scene.keepsInterfaces reply) key hq) hasks
    have hflushed := Kind.flush_keeps hm.sends
      (fun s : Scene τ => s.interfaces.objects.get? key) (fun _ _ => rfl) hflush
    have hfirst : s'.interfaces.objects.get? key = _ := hflushed.trans (hchildren s)
    refine (hchildren again).trans ?_
    change List.foldl _ (s'.interfaces.objects.get? key) _ = _
    rw [← htrace, hfirst, Scene.foldl_applying_again]

theorem repeats_interfaceKind : interfaceKind.Repeats observeInterface Scene.interfaces := by
  intro τ reply o name before computed s s' r outcome asked hc hget h hcomp
  have hm := managed_interfaceKind
  have hkeeps := Scene.keepsInterfaces reply
  obtain ⟨rfl, hstored⟩ := hm.stored hkeeps hc hget h hcomp
  refine ⟨hstored, fun time r' s'' asked' h' => ?_⟩
  have hreplays : Kind.Replays observeInterface (Scene.answer reply) Looks
      fun s s' => s.script = s'.script ∧ s.switches = s'.switches :=
    ⟨looks_observeInterface, fun q s s' => Scene.alike_of_looks, fun _ _ _ _ _ => rfl⟩
  have hread := Scene.switches_answer_of_looks reply
  -- the attempt left the switches as they were
  have hswitches : s'.switches = s.switches := by
    obtain ⟨hobs, hflush, -⟩ := hcomp
    have hobserved := hobs.keeps Scene.switches hread
      (Kind.asks_sinceSeen (looks_observeInterface o name))
    exact (Kind.flush_keeps hm.sends Scene.switches (fun _ _ => rfl) hflush).trans hobserved
  let again : Scene τ := { s' with script := s.script, time }
  have halike : s.script = again.script ∧ s.switches = again.switches := ⟨rfl, hswitches.symm⟩
  obtain ⟨hr, hasked, rfl, htrace, t, hflush⟩ :=
    hm.replayed updates_interfaceKind uniform_observeInterface hreplays hc hcomp halike h'
  have hasks := looks_observeInterface o name computed
  refine ⟨hr, fun a ha hp => ?_, fun key => ?_, fun key => ?_⟩
  · rcases hasked a ha with hq | hq
    · exact hq.not_patchesStatus hp
    · rw [hq] at hp
      exact hp
  · have hkept := Program.run_keeps Scene.switches hread hasks again
    exact congrArg (fun t => t.objects.get? key) hkept
  · have hkept := Program.run_keeps Scene.interfaces
      (fun q s hq => hkeeps.other q s fun v hv => by rw [hv] at hq; exact hq) hasks again
    exact congrArg (fun t => t.objects.get? key) hkept

/-- **Attempts are repeated in vain**, at switches as well as at interfaces. -/
theorem reconcile_repeats :
    switchKind.Repeats observeSwitch Scene.switches ∧
      interfaceKind.Repeats observeInterface Scene.interfaces :=
  ⟨repeats_switchKind, repeats_interfaceKind⟩

/-! ## An attempt that fails half-way -/

namespace Scene

/-- An agent with two interfaces whose resources have the same name, and whose ports cannot be listed. -/
def clashing : Replies Unit
  | .switches (.get _), w => (.ok none, w)
  | .switches (.patchFinalizers ..), w => (.ok (), w)
  | .switches (.patchStatus ..), w => (.ok (), w)
  | .switches (.apply _), w => (.ok (), w)
  | .interfaces (.get _), w => (.ok none, w)
  | .interfaces (.patchFinalizers ..), w => (.ok (), w)
  | .interfaces (.patchStatus ..), w => (.ok (), w)
  | .interfaces (.apply _), w => (.ok (), w)
  | .client o, w => (.ok o.agentAddress, w)
  | .call _ .deviceInfo, w => (.ok ⟨"aa:bb:cc:00:00:01", "sku", "4.2", "asic", Device.ready⟩, w)
  | .call _ .interfaces, w =>
    (.ok [⟨"Ethernet0", "aa:bb:cc:00:00:00", .up, .up⟩, ⟨"ethernet0", "aa:bb:cc:00:00:04", .up, .down⟩],
      w)
  | .call _ _, w => (.error (.remote (.notFound "")), w)
  | .now, w => ("", w)

/-- A switch that is ready, alone. -/
def ofReady : Scene Unit :=
  ⟨ObjectStore.empty.insert "leaf" Cluster.readySwitch, ObjectStore.empty, (), "2026-01-01T00:00:00Z"⟩

/-- The scene after an attempt at the switch. -/
def afterReady : Except ControllerError Action × Scene Unit :=
  (reconcileSwitch Cluster.readySwitch).run.run (answer clashing) ofReady

/-- The general theorem at such an attempt. It fails, and another one at any time leaves the switch and the
resource for its interfaces as they are. -/
theorem clash_repeats :
    afterReady.1 = .error (.agent (.remote (.notFound ""))) ∧
      ∃ p, afterReady.2.switches.objects.get? "leaf" = some p ∧ ∀ time,
        let again := (reconcileSwitch p).run.run (answer clashing) { afterReady.2 with time }
        again.1 = afterReady.1 ∧ again.2.SameResources afterReady.2 := by
  have hc : switchKind.Compares Cluster.readySwitch "leaf"
      { SwitchStatus.empty with state := some .ready } := ⟨rfl, by decide, rfl, rfl, rfl⟩
  obtain ⟨hstored, hagain⟩ := reconcile_repeats.1 clashing hc (s := ofReady) rfl (.self _ _)
    (.intro ⟨rfl, rfl⟩ ⟨rfl, rfl⟩ rfl)
  refine ⟨rfl, _, hstored, fun time => ?_⟩
  obtain ⟨hr, -, hsame⟩ := hagain time _ _ _ (.self _ _)
  exact ⟨hr, hsame⟩

end Scene

end Controller

end SwitchFleet

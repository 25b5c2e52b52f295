import SwitchFleet.Proofs.Controller.Lifecycle

/-!
# Desired states

Attempts at switches and at interfaces follow each other in any order, in any world that keeps both
kinds of resources. An attempt at a switch applies a resource for each interface that the agent lists,
and this replaces what was desired of that interface.

* `World`: a world with the resources of the operator. `Turn`, `World.afterAll`: attempts in a sequence.
* `accepted?`: a verb on interfaces that is accepted. **`World.interfaces_accepted`**: these alone change
  interfaces. `declares`: the specification that an application declares for a resource.
* `World.remains_afterAll`: a resource has the specification that was declared last.
* `World.Reported`: a declaration that follows from a report of the agent.
* **`World.desired_kept`**: what is desired of an interface after any sequence of attempts, and what is
  requested for it. `desired_replaced`: what its author wants is replaced.
-/

namespace SwitchFleet

/-! ## Specifications that are stored -/

namespace ObjectStore

variable {Spec Status : Type} {s : Schema Spec Status} {t : ObjectStore Spec Status}

/-- The specification of a resource. -/
def spec? (name : String) (t : ObjectStore Spec Status) : Option Spec :=
  (t.objects.get? name).map (·.spec)

/-- The specification that a verb declares for a resource. -/
def declaredBy (name : String) : Verb Spec Status → Option Spec
  | .apply o => if o.metadata.name = some name then some o.spec else none
  | _ => none

/-- **Only an application changes a specification**, apart from a resource that goes away. -/
theorem remains_accept (name : String) (v : Verb Spec Status) :
    Program.Remains (declaredBy name v).toList (t.spec? name) ((t.accept s v).2.spec? name) := by
  unfold spec?
  rw [get?_accept]
  rcases t.objects.get? name with _ | found
  · cases v with
    | get key => exact .inr rfl
    | patchFinalizers key fs => exact .inl (by simp [effect])
    | patchStatus key patch => exact .inl (by simp [effect])
    | apply o =>
      dsimp only [declaredBy, effect]
      split <;> exact .inr rfl
  · cases v with
    | get key => exact .inr rfl
    | patchFinalizers key fs =>
      dsimp only [effect]
      split
      · rw [Option.bind_some]
        rcases hp : found.withFinalizers fs with _ | p
        · exact .inl rfl
        · rw [(Object.relisted_of_withFinalizers hp).eq]
          exact .inr rfl
      · exact .inr rfl
    | patchStatus key patch =>
      dsimp only [effect]
      split
      · obtain ⟨status, hstatus⟩ := repatched_eq s patch found
        rw [Option.map_some, Option.map_some, hstatus]
        exact .inr rfl
      · exact .inr rfl
    | apply o =>
      dsimp only [declaredBy, effect]
      split <;> exact .inr rfl

theorem accept_error {v : Verb Spec Status} {e : ControllerError}
    (h : (t.accept s v).1 = .error e) : (t.accept s v).2 = t := by
  cases v with
  | get key => cases h
  | patchFinalizers key fs =>
    dsimp only [accept] at h ⊢
    split at h
    · rfl
    · cases h
  | patchStatus key patch =>
    dsimp only [accept] at h ⊢
    split at h
    · rfl
    · split at h
      · rfl
      · cases h
  | apply o =>
    dsimp only [accept] at h ⊢
    split at h
    · rfl
    · cases h

end ObjectStore

namespace Controller

/-! ## Sequences of attempts -/

/-- A world with the resources of the operator. -/
structure World (σ : Type) where
  answer : (q : Query) → σ → q.Answer × σ
  switches : σ → ObjectStore SwitchSpec SwitchStatus
  interfaces : σ → ObjectStore SwitchInterfaceSpec SwitchInterfaceStatus
  keepsSwitches : switchKind.Keeps .switches answer switches
  keepsInterfaces : interfaceKind.Keeps .interfaces answer interfaces

/-- The resource that an attempt is at. -/
inductive Turn where
  | switch (name : String)
  | interface (name : String)

namespace World

variable {σ : Type} (w : World σ)

/-- One attempt at a resource as it is stored. If there is none, nothing is done. -/
def task (s : σ) : Turn → Task Action
  | .switch name =>
    match (w.switches s).objects.get? name with
    | some o => reconcileSwitch o
    | none => pure .awaitChange
  | .interface name =>
    match (w.interfaces s).objects.get? name with
    | some o => reconcileInterface o
    | none => pure .awaitChange

section

variable {w} {s : σ} {name : String}

theorem task_switch {o : Switch} (hget : (w.switches s).objects.get? name = some o) :
    w.task s (.switch name) = reconcileSwitch o := by
  dsimp only [task]
  rw [hget]

theorem task_interface {o : SwitchInterface} (hget : (w.interfaces s).objects.get? name = some o) :
    w.task s (.interface name) = reconcileInterface o := by
  dsimp only [task]
  rw [hget]

theorem task_no_interface (hget : (w.interfaces s).objects.get? name = none) :
    w.task s (.interface name) = pure .awaitChange := by
  dsimp only [task]
  rw [hget]

end

/-- The world after an attempt. -/
def after (s : σ) (turn : Turn) : σ := ((w.task s turn).run.run w.answer s).2

/-- The questions of an attempt with their answers. -/
def asked (s : σ) (turn : Turn) : List (Program.Asked Query.Answer) :=
  (w.task s turn).run.trace w.answer s

/-- The world after several attempts, one after the other. -/
def afterAll (s : σ) (turns : List Turn) : σ := turns.foldl w.after s

/-- The questions of several attempts with their answers. -/
def askedAll (s : σ) : List Turn → List (Program.Asked Query.Answer)
  | [] => []
  | turn :: turns => w.asked s turn ++ askedAll (w.after s turn) turns

end World

/-! ## Declarations and requests -/

/-- The verb on interfaces that a question was, if it was accepted. -/
def accepted? : Program.Asked Query.Answer → Option (Verb SwitchInterfaceSpec SwitchInterfaceStatus)
  | ⟨.interfaces v, .ok _⟩ => some v
  | _ => none

theorem accepted?_inv {a : Program.Asked Query.Answer}
    {v : Verb SwitchInterfaceSpec SwitchInterfaceStatus} (h : accepted? a = some v) :
    a.1 = .interfaces v := by
  obtain ⟨q, r⟩ := a
  cases q with
  | interfaces v' =>
    cases r with
    | error e => cases h
    | ok reply => exact congrArg _ (Option.some.inj h)
  | _ => cases h

/-- The specification that an application declares for a resource. -/
def declares (name : String) : Program.Asked Query.Answer → Option SwitchInterfaceSpec
  | ⟨.interfaces v, .ok _⟩ => ObjectStore.declaredBy name v
  | _ => none

theorem declares_eq (name : String) (a : Program.Asked Query.Answer) :
    declares name a = (accepted? a).bind (ObjectStore.declaredBy name) := by
  obtain ⟨q, r⟩ := a
  cases q with
  | interfaces v => cases r <;> rfl
  | _ => rfl

/-- The specifications that are declared for a resource, first one first. -/
def declared (name : String) (asked : List (Program.Asked Query.Answer)) :
    List SwitchInterfaceSpec := asked.filterMap (declares name)

theorem declared_append (name : String) (t t' : List (Program.Asked Query.Answer)) :
    declared name (t ++ t') = declared name t ++ declared name t' := List.filterMap_append

/-- A request to set an admin status: the interface and the status. -/
def request? : Program.Asked Query.Answer → Option (String × LineStatus)
  | ⟨.call _ (.setAdminStatus handle status), _⟩ => some (handle, status)
  | _ => none

/-- The requests to set an admin status, first one first. -/
def requested (asked : List (Program.Asked Query.Answer)) : List (String × LineStatus) :=
  asked.filterMap request?

theorem request?_inv {a : Program.Asked Query.Answer} {handle : String} {status : LineStatus}
    (h : request? a = some (handle, status)) :
    ∃ address, a.1 = .call address (.setAdminStatus handle status) := by
  obtain ⟨q, r⟩ := a
  cases q with
  | call address op =>
    cases op with
    | setAdminStatus name wanted =>
      cases h
      exact ⟨address, rfl⟩
    | _ => cases h
  | _ => cases h

namespace World

variable {σ : Type} (w : World σ) (name : String) (s : σ)

/-- The specification of an interface. -/
def spec? : Option SwitchInterfaceSpec := (w.interfaces s).spec? name

/-- **Interfaces change** by the verbs on them that are accepted. -/
theorem interfaces_accepted (q : Query) : w.interfaces (w.answer q s).2 =
    match accepted? ⟨q, (w.answer q s).1⟩ with
    | some v => ((w.interfaces s).accept interfaceKind.schema v).2
    | none => w.interfaces s := by
  cases q with
  | interfaces v =>
    have hstored := w.keepsInterfaces.send v s
    change (w.answer (.interfaces v) s).1 = _ ∧ w.interfaces (w.answer (.interfaces v) s).2 = _ ∨
      (∃ e, (w.answer (.interfaces v) s).1 = .error e) ∧
        w.interfaces (w.answer (.interfaces v) s).2 = w.interfaces s at hstored
    rcases hstored with ⟨hr, hstore⟩ | ⟨⟨e, he⟩, hstore⟩
    · rw [hr, hstore]
      rcases ha : ((w.interfaces s).accept interfaceKind.schema v).1 with e | x
      · exact ObjectStore.accept_error ha
      · rfl
    · rw [he, hstore]
      rfl
  | switches v => exact w.keepsInterfaces.other _ s fun _ => nofun
  | client o => exact w.keepsInterfaces.other _ s fun _ => nofun
  | call address op => exact w.keepsInterfaces.other _ s fun _ => nofun
  | now => exact w.keepsInterfaces.other _ s fun _ => nofun

theorem remains_answer (q : Query) :
    Program.Remains (declares name ⟨q, (w.answer q s).1⟩).toList (w.spec? name s)
      (w.spec? name (w.answer q s).2) := by
  unfold spec?
  rw [w.interfaces_accepted s q, declares_eq]
  rcases accepted? ⟨q, (w.answer q s).1⟩ with _ | v
  · exact .inr rfl
  · exact ObjectStore.remains_accept name v

theorem remains_after (turn : Turn) :
    Program.Remains (declared name (w.asked s turn)) (w.spec? name s)
      (w.spec? name (w.after s turn)) :=
  Program.run_remains (w.spec? name) (declares name) (fun q s => w.remains_answer name s q) _ s

/-- **What was declared last remains**, unless the resource goes away. -/
theorem remains_afterAll (turns : List Turn) :
    Program.Remains (declared name (w.askedAll s turns)) (w.spec? name s)
      (w.spec? name (w.afterAll s turns)) := by
  induction turns generalizing s with
  | nil => exact .inr rfl
  | cons turn turns ih =>
    have h := (w.remains_after name s turn).append (ih (w.after s turn))
    rwa [← declared_append] at h

/-! ## Where declarations come from -/

theorem mem_asked_interface {key : String} {a : Program.Asked Query.Answer}
    (ha : a ∈ w.asked s (.interface key)) :
    ∃ o, (w.interfaces s).objects.get? key = some o ∧
      (Permitted o a.1 ∨
        ∃ self, o.metadata.name = some self ∧ Kind.Routine .interfaces self a.1) := by
  dsimp only [asked, task] at ha
  rcases hget : (w.interfaces s).objects.get? key with _ | o
  · rw [hget] at ha
    cases ha
  · rw [hget] at ha
    refine ⟨o, rfl, ?_⟩
    obtain ⟨t₁, t₂, ht, hroutine, hcompared⟩ :=
      managed_interfaceKind.asked_inv (.self (reconcileInterface o) s)
    change a ∈ (reconcileInterface o).run.trace w.answer s at ha
    rw [ht] at ha
    rcases List.mem_append.mp ha with ha | ha
    · rcases hcompared with rfl | ⟨-, -, -, name, outcome, status, s₁, -, hobs⟩
      · cases ha
      · exact .inl (hobs.within (asks_observeInterface o name) a ha)
    · exact .inr (hroutine a ha)

/-- An attempt at a switch asks about the switch itself, and what a comparison may ask. Resources that it
applies are for interfaces that the agent lists. -/
theorem mem_asked_switch {key : String} {a : Program.Asked Query.Answer}
    (ha : a ∈ w.asked s (.switch key)) :
    ∃ o switch, (w.switches s).objects.get? key = some o ∧ o.metadata.name = some switch ∧
      (Kind.Routine .switches switch a.1 ∨ Inspects a.1 ∧
        ∀ c, a.1 = .interfaces (.apply c) → ∃ address, ∃ is : List Interface,
          ⟨.call address .interfaces, .ok is⟩ ∈ w.asked s (.switch key) ∧
            ∃ i ∈ is, child o switch i = .ok c) := by
  dsimp only [asked, task] at ha ⊢
  rcases hget : (w.switches s).objects.get? key with _ | o
  · rw [hget] at ha
    cases ha
  · rw [hget] at ha
    obtain ⟨t₁, t₂, ht, hroutine, hcompared⟩ :=
      managed_switchKind.asked_inv (.self (reconcileSwitch o) s)
    change a ∈ (reconcileSwitch o).run.trace w.answer s at ha
    rw [ht] at ha
    rcases List.mem_append.mp ha with ha | ha
    · rcases hcompared with rfl | ⟨-, -, -, switch, outcome, status, s₁, hswitch, hobs⟩
      · cases ha
      · refine ⟨o, switch, rfl, hswitch, .inr ⟨hobs.within (asks_observeSwitch o switch) a ha, ?_⟩⟩
        intro c hc
        obtain ⟨address, is, hlisted, hchild⟩ := (exit_observeSwitch hobs).applied_inv ha hc
        refine ⟨address, is, ?_, hchild⟩
        change _ ∈ (reconcileSwitch o).run.trace w.answer s
        rw [ht]
        exact List.mem_append_left _ hlisted
    · obtain ⟨switch, hswitch, hroutine⟩ := hroutine a ha
      exact ⟨o, switch, rfl, hswitch, .inl hroutine⟩

theorem declares_inv {a : Program.Asked Query.Answer} {x : SwitchInterfaceSpec}
    (h : declares name a = some x) :
    ∃ c : SwitchInterface, a.1 = .interfaces (.apply c) ∧ c.metadata.name = some name ∧ x = c.spec := by
  obtain ⟨q, r⟩ := a
  cases q with
  | interfaces v =>
    rcases r with e | reply
    · cases h
    · cases v with
      | apply c =>
        change (if c.metadata.name = some name then some c.spec else none) = some x at h
        split at h
        · rename_i hname
          cases h
          exact ⟨c, rfl, hname, rfl⟩
        · cases h
      | _ => cases h
  | _ => cases h

theorem not_routine_apply {key : String} {c : SwitchInterface} :
    ¬ Kind.Routine .interfaces key (.interfaces (.apply c)) := by
  rintro (h | ⟨v, hv, h⟩)
  · cases h
  · cases h
    exact hv

theorem declared_interface (key : String) : declared name (w.asked s (.interface key)) = [] := by
  refine List.filterMap_eq_nil_iff.mpr fun a ha => Option.eq_none_iff_forall_ne_some.mpr ?_
  intro x hx
  obtain ⟨c, hc, -, -⟩ := declares_inv name hx
  obtain ⟨o, -, hpermitted | ⟨self, -, hroutine⟩⟩ := w.mem_asked_interface s ha
  · rw [hc] at hpermitted
    exact hpermitted
  · rw [hc] at hroutine
    exact not_routine_apply hroutine

/-- A specification follows from a report: the attempt is at a switch whose agent lists an interface that
the resource is for. -/
def Reported (turn : Turn) (x : SwitchInterfaceSpec) : Prop :=
  ∃ key o switch address, ∃ is : List Interface, ∃ i ∈ is,
    turn = .switch key ∧ (w.switches s).objects.get? key = some o ∧ o.metadata.name = some switch ∧
      ⟨.call address .interfaces, .ok is⟩ ∈ w.asked s turn ∧ childName switch i.name = name ∧
      x = ⟨i.name, some ⟨switch⟩, i.admin.observedAdmin⟩

theorem child_inv {o : Switch} {switch : String} {i : Interface} {c : SwitchInterface}
    (h : child o switch i = .ok c) :
    c.metadata.name = some (childName switch i.name) ∧
      c.spec = ⟨i.name, some ⟨switch⟩, i.admin.observedAdmin⟩ := by
  obtain ⟨owner, -, rfl⟩ := child_ok_inv h
  exact ⟨rfl, rfl⟩

/-- **Declarations are reports.** -/
theorem reported_of_declared (turn : Turn) {x : SwitchInterfaceSpec}
    (hx : x ∈ declared name (w.asked s turn)) : w.Reported name s turn x := by
  cases turn with
  | interface key =>
    rw [w.declared_interface name s key] at hx
    cases hx
  | switch key =>
    obtain ⟨a, ha, hdeclares⟩ := List.mem_filterMap.mp hx
    obtain ⟨c, hc, hcname, rfl⟩ := declares_inv name hdeclares
    obtain ⟨o, switch, hget, hswitch, (hnow | ⟨v, -, hown⟩) | ⟨-, hchildren⟩⟩ :=
      w.mem_asked_switch s ha
    · cases hc.symm.trans hnow
    · cases hc.symm.trans hown
    · obtain ⟨address, is, hlisted, i, hi, hchild⟩ := hchildren c hc
      obtain ⟨hchildname, hspec⟩ := child_inv hchild
      have hname : childName switch i.name = name :=
        Option.some.inj (hchildname.symm.trans hcname)
      exact ⟨key, o, switch, address, is, i, hi, rfl, hget, hswitch, hlisted, hname, hspec⟩

/-! ## Requests -/

theorem requested_interface {handle : String} {status : LineStatus}
    (h : (handle, status) ∈ requested (w.asked s (.interface name))) :
    ∃ x, w.spec? name s = some x ∧ handle = x.handle ∧ x.adminState.lineStatus = .ok status := by
  obtain ⟨a, ha, hrequest⟩ := List.mem_filterMap.mp h
  obtain ⟨address, hq⟩ := request?_inv hrequest
  obtain ⟨o, hget, hpermitted | ⟨self, -, hnow | ⟨v, -, hown⟩⟩⟩ := w.mem_asked_interface s ha
  · rw [hq] at hpermitted
    exact ⟨o.spec, by rw [spec?, ObjectStore.spec?, hget]; rfl, hpermitted⟩
  · cases hq.symm.trans hnow
  · cases hq.symm.trans hown

/-! ## What is desired -/

variable {name s}

theorem spec_afterAll {o : SwitchInterface} (hget : (w.interfaces s).objects.get? name = some o)
    (turns : List Turn) {x : SwitchInterfaceSpec} (hx : w.spec? name (w.afterAll s turns) = some x) :
    x = (declared name (w.askedAll s turns)).getLast?.getD o.spec := by
  have hbefore : w.spec? name s = some o.spec := by
    rw [spec?, ObjectStore.spec?, hget]
    rfl
  rcases w.remains_afterAll name s turns with hgone | hlast
  · cases hgone.symm.trans hx
  · rw [hbefore, hx] at hlast
    rcases hd : (declared name (w.askedAll s turns)).getLast? with _ | y
    · rw [hd] at hlast
      exact Option.some.inj hlast
    · rw [hd] at hlast
      exact Option.some.inj hlast

/-- **What is desired of an interface.** After any sequence of attempts, an interface that is still there
has the specification that was declared for it last, or that of its author if there was none. A
declaration is what an attempt at a switch makes of a report on an interface. Every request that is made
for the interface is for what is desired of it at that time. -/
theorem desired_kept {o : SwitchInterface} (hget : (w.interfaces s).objects.get? name = some o)
    (turns : List Turn) :
    (∀ p, (w.interfaces (w.afterAll s turns)).objects.get? name = some p →
      p.spec = (declared name (w.askedAll s turns)).getLast?.getD o.spec) ∧
    (∀ before turn after, turns = before ++ turn :: after →
      ∀ x ∈ declared name (w.asked (w.afterAll s before) turn),
        w.Reported name (w.afterAll s before) turn x) ∧
    ∀ before after, turns = before ++ .interface name :: after →
      ∀ r ∈ requested (w.asked (w.afterAll s before) (.interface name)),
        let desired := (declared name (w.askedAll s before)).getLast?.getD o.spec
        r.1 = desired.handle ∧ desired.adminState.lineStatus = .ok r.2 := by
  refine ⟨fun p hp => ?_, fun before turn _ _ x hx => ?_, fun before _ _ r hr => ?_⟩
  · refine w.spec_afterAll hget turns ?_
    rw [spec?, ObjectStore.spec?, hp]
    rfl
  · exact w.reported_of_declared name _ turn hx
  · obtain ⟨x, hx, hrequest⟩ := w.requested_interface name _ hr
    rwa [w.spec_afterAll hget before hx] at hrequest

end World

/-! ## A desired state that is replaced -/

/-- The resources of the operator alone. -/
structure Resources where
  switches : ObjectStore SwitchSpec SwitchStatus
  interfaces : ObjectStore SwitchInterfaceSpec SwitchInterfaceStatus

namespace Resources

/-- The answer to a question, where all others are answered in the same way at all times. -/
def answer (others : (q : Query) → q.Answer) : (q : Query) → Resources → q.Answer × Resources
  | .switches v, t =>
    let (outcome, switches) := t.switches.answer Switch.schema v
    (outcome, { t with switches })
  | .interfaces v, t =>
    let (outcome, interfaces) := t.interfaces.answer SwitchInterface.schema v
    (outcome, { t with interfaces })
  | q, t => (others q, t)

variable {others : (q : Query) → q.Answer}

theorem backedSwitches : switchKind.Backed (answer others) Resources.switches
    fun switches t => { t with switches } :=
  ⟨fun _ _ => rfl, fun _ _ => rfl⟩

theorem backedInterfaces : interfaceKind.Backed (answer others) Resources.interfaces
    fun interfaces t => { t with interfaces } :=
  ⟨fun _ _ => rfl, fun _ _ => rfl⟩

theorem switches_answer {q : Query} (hq : ∀ v, q ≠ .switches v) (t : Resources) :
    (answer others q t).2.switches = t.switches := by
  cases q with
  | switches v => exact absurd rfl (hq v)
  | _ => rfl

theorem interfaces_answer {q : Query} (hq : ∀ v, q ≠ .interfaces v) (t : Resources) :
    (answer others q t).2.interfaces = t.interfaces := by
  cases q with
  | interfaces v => exact absurd rfl (hq v)
  | _ => rfl

variable (others) in
/-- The world of the resources, where all other questions are answered in the same way at all times. -/
def world : World Resources where
  answer := answer others
  switches := Resources.switches
  interfaces := Resources.interfaces
  keepsSwitches := backedSwitches.keeps fun _ t hq => switches_answer hq t
  keepsInterfaces := backedInterfaces.keeps fun _ t hq => interfaces_answer hq t

/-- An agent with one interface, which is up. -/
def lit : (q : Query) → q.Answer
  | .switches v => .error (ObjectStore.rejection v.kind)
  | .interfaces v => .error (ObjectStore.rejection v.kind)
  | .client o => .ok o.agentAddress
  | .call _ .deviceInfo => .ok ⟨"aa:bb:cc:00:00:01", "sku", "4.2", "asic", Device.ready⟩
  | .call _ .interfaces => .ok [⟨"Ethernet0", "aa:bb:cc:00:00:00", .up, .up⟩]
  | .call _ (.interface name) => .ok ⟨name, "aa:bb:cc:00:00:00", .up, .up⟩
  | .call _ (.setAdminStatus name status) => .ok ⟨name, "aa:bb:cc:00:00:00", .up, status⟩
  | .call _ .ports => .ok []
  | .call _ (.peer _) => .error (.remote (.notFound ""))
  | .now => "2026-01-01T00:00:00Z"

/-- An interface that its author wants to be down. -/
def unwanted : SwitchInterface where
  metadata := { Metadata.named "leaf-ethernet0" with finalizers := some [Group.finalizer] }
  spec := ⟨"Ethernet0", some ⟨"leaf"⟩, .down⟩
  status := some { SwitchInterfaceStatus.empty with state := some .ready }

/-- The interface with its switch. -/
def ofUnwanted : Resources :=
  ⟨ObjectStore.empty.insert "leaf" Cluster.readySwitch,
    ObjectStore.empty.insert "leaf-ethernet0" unwanted⟩

/-- The general theorem at an attempt at the interface alone: it is still to be down. -/
theorem desired_alone :
    ((world lit).interfaces ofUnwanted).objects.get? "leaf-ethernet0" = some unwanted ∧
      ∀ p, ((world lit).interfaces ((world lit).afterAll ofUnwanted
          [.interface "leaf-ethernet0"])).objects.get? "leaf-ethernet0" = some p →
        p.spec.adminState = .down := by
  refine ⟨rfl, fun p hp => ?_⟩
  have h := @World.desired_kept _ (world lit) "leaf-ethernet0" ofUnwanted unwanted rfl
    [.interface "leaf-ethernet0"]
  rw [h.1 p hp]
  rfl

/-- **A desired state that is replaced.** An attempt at the switch makes the interface one that is to be
up, and the next attempt at the interface requests this. -/
theorem desired_replaced :
    ((world lit).spec? "leaf-ethernet0" ofUnwanted).map (·.adminState) = some .down ∧
      ((world lit).spec? "leaf-ethernet0"
        ((world lit).after ofUnwanted (.switch "leaf"))).map (·.adminState) = some .up ∧
      requested ((world lit).asked ((world lit).after ofUnwanted (.switch "leaf"))
        (.interface "leaf-ethernet0")) = [("Ethernet0", .up)] :=
  ⟨rfl, rfl, rfl⟩

end Resources

end Controller

end SwitchFleet

import Mathlib.Data.List.Forall2
import SwitchFleet.Proofs.Controller.Children
import SwitchFleet.Proofs.Controller.Recording
import SwitchFleet.Proofs.Controller.Repetition

/-!
# What an attempt at a switch writes

An attempt at a switch may stop anywhere: at the identity of the device, at its interfaces, at the
resource for any of them, and at its ports.

* `reports`, `applications`: what the agent reported in an attempt, and which resources were applied.
* `placed`: the resource for an interface, in the place of another one. `AppliedUpTo`: resources are
  applied for the first interfaces of a list. **`applyChildren_inv`**: this is how they are applied.
* `World.Inventory`: what an attempt leaves of the identity, of the interfaces, and of the ports.
* **`World.inventory_written`**: every attempt whose status is written leaves this.
-/

namespace SwitchFleet.Controller

/-! ## What was asked -/

/-- The report on an operation, if it was asked for and succeeded. -/
def report? (op : Operation) : Program.Asked Query.Answer → Option op.Report
  | ⟨.call _ op', r⟩ => if h : op' = op then h ▸ r.toOption else none
  | _ => none

/-- The reports on an operation, first one first. -/
def reports (op : Operation) (asked : List (Program.Asked Query.Answer)) : List op.Report :=
  asked.filterMap (report? op)

/-- The application of a resource for an interface, with its outcome. -/
def application? :
    Program.Asked Query.Answer → Option (SwitchInterface × Except ControllerError Unit)
  | ⟨.interfaces (.apply c), r⟩ => some (c, r)
  | _ => none

/-- The applications of resources for interfaces, first one first. -/
def applications (asked : List (Program.Asked Query.Answer)) :
    List (SwitchInterface × Except ControllerError Unit) :=
  asked.filterMap application?

/-! ## Resources for interfaces -/

/-- The resource for an interface of a switch, in the place of what was there: it keeps the status, the
identity and the finalizers. The interface is wanted as it was found. -/
def placed (uid switch : String) (i : Interface) (old : Option SwitchInterface) : SwitchInterface where
  metadata := { Metadata.named (childName switch i.name) with
    uid := old.bind (·.metadata.uid)
    finalizers := old.bind (·.metadata.finalizers)
    labels := some [(Group.switchLabel, switch)]
    ownerReferences := some [⟨Group.apiVersion, none, some true, Switch.schema.kind, switch, uid⟩] }
  spec := ⟨i.name, some ⟨switch⟩,
    if i.admin = .up then .up else if i.admin = .down then .down else .unknown⟩
  status := old.bind (·.status)

/-- What is stored under a name after the resources for some interfaces were placed: the last one with
this name counts. -/
def lastPlaced (uid switch name : String) (done : List Interface) (old : Option SwitchInterface) :
    Option SwitchInterface :=
  match (done.filter fun i => childName switch i.name = name).getLast? with
  | none => old
  | some i => some (placed uid switch i old)

/-- The resource for an interface is applied, and this succeeds. -/
def accepted (uid switch : String) (i : Interface) : SwitchInterface × Except ControllerError Unit :=
  (placed uid switch i none, .ok ())

/-- Resources are applied for the interfaces of a list in their order: for all of them, or for those that
are done and for the next one, which is rejected. -/
inductive AppliedUpTo (uid switch : String) :
    List Interface → List Interface → List (SwitchInterface × Except ControllerError Unit) → Prop
  | all (is : List Interface) : AppliedUpTo uid switch is is (is.map (accepted uid switch))
  | rejected (done : List Interface) (i : Interface) (rest : List Interface) (e : ControllerError) :
    AppliedUpTo uid switch (done ++ i :: rest) done
      (done.map (accepted uid switch) ++ [(placed uid switch i none, .error e)])

variable {uid switch name : String}

theorem AppliedUpTo.cons (i : Interface) {is done : List Interface}
    {tried : List (SwitchInterface × Except ControllerError Unit)}
    (h : AppliedUpTo uid switch is done tried) :
    AppliedUpTo uid switch (i :: is) (i :: done) (accepted uid switch i :: tried) := by
  cases h with
  | all => exact .all (i :: is)
  | rejected done j rest e => exact .rejected (i :: done) j rest e

theorem child_eq {o : Switch} (hname : o.metadata.name = some switch) (huid : o.metadata.uid = some uid)
    (i : Interface) : child o switch i = .ok (placed uid switch i none) := by
  have hadmin : (if i.admin = .up then .up else if i.admin = .down then .down else .unknown) =
      i.admin.observedAdmin := by
    cases i.admin <;> rfl
  unfold child ownerReference? placed
  rw [hname, huid, hadmin]
  rfl

theorem superseding_placed (old : Option SwitchInterface) (i : Interface) :
    ObjectStore.superseding old (placed uid switch i none) = placed uid switch i old := by
  cases old with
  | none => rfl
  | some old => simp [ObjectStore.superseding, ObjectStore.replacing, placed]

theorem placed_placed (i j : Interface) (old : Option SwitchInterface) :
    placed uid switch j (some (placed uid switch i old)) = placed uid switch j old := rfl

theorem lastPlaced_cons (i : Interface) (done : List Interface) (old : Option SwitchInterface) :
    lastPlaced uid switch name (i :: done) old = lastPlaced uid switch name done
      (if childName switch i.name = name then some (placed uid switch i old) else old) := by
  unfold lastPlaced
  by_cases hi : childName switch i.name = name
  · rw [if_pos hi, List.filter_cons_of_pos (by simpa using hi), List.getLast?_cons]
    cases (done.filter fun i => childName switch i.name = name).getLast? with
    | none => rfl
    | some j => exact congrArg some (placed_placed i j old).symm
  · rw [if_neg hi, List.filter_cons_of_neg (by simpa using hi)]

theorem isSome_lastPlaced {i : Interface} {done : List Interface} (hi : i ∈ done)
    (hname : childName switch i.name = name) (old : Option SwitchInterface) :
    (lastPlaced uid switch name done old).isSome = true := by
  have hmem : i ∈ done.filter fun i => childName switch i.name = name :=
    List.mem_filter.mpr ⟨hi, decide_eq_true hname⟩
  unfold lastPlaced
  rw [List.getLast?_eq_some_getLast (List.ne_nil_of_mem hmem)]
  rfl

/-! ## Applications in a sequence -/

/-- The application of a resource, as it is asked for. -/
def asApplication (p : SwitchInterface × Except ControllerError Unit) :
    Program.Asked Query.Answer := ⟨.interfaces (.apply p.1), p.2⟩

@[simp] theorem applications_append (t t' : List (Program.Asked Query.Answer)) :
    applications (t ++ t') = applications t ++ applications t' := List.filterMap_append

@[simp] theorem applications_asApplication
    (tried : List (SwitchInterface × Except ControllerError Unit)) :
    applications (tried.map asApplication) = tried := by
  unfold applications
  rw [List.filterMap_map]
  exact List.filterMap_some

@[simp] theorem reports_append (op : Operation) (t t' : List (Program.Asked Query.Answer)) :
    reports op (t ++ t') = reports op t ++ reports op t' := List.filterMap_append

@[simp] theorem reports_asApplication (op : Operation)
    (tried : List (SwitchInterface × Except ControllerError Unit)) :
    reports op (tried.map asApplication) = [] := by
  unfold reports
  rw [List.filterMap_map]
  exact List.filterMap_eq_nil_iff.mpr fun _ _ => rfl

/-- **Resources are applied** in the order of the interfaces up to the first one that is rejected. -/
theorem applyChildren_inv {σ : Type} {answer : (q : Query) → σ → q.Answer × σ} {o : Switch}
    (hname : o.metadata.name = some switch) (huid : o.metadata.uid = some uid) {is : List Interface}
    {s s' : σ} {r : Except ControllerError Unit} {asked : List (Program.Asked Query.Answer)}
    (h : Program.Runs answer (applyChildren o switch is) s r s' asked) :
    ∃ done tried, AppliedUpTo uid switch is done tried ∧ asked = tried.map asApplication ∧
      (r = .ok () → is = done ∧ tried = is.map (accepted uid switch)) := by
  induction is generalizing s asked with
  | nil =>
    obtain ⟨-, rfl⟩ := h
    exact ⟨[], [], .all [], rfl, fun _ => ⟨rfl, rfl⟩⟩
  | cons i is ih =>
    unfold applyChildren at h
    rw [child_eq hname huid] at h
    rcases h.bind_inv with ⟨e, -, hl⟩ | ⟨c, s₁, t₁, t₂, hl, hf, rfl⟩
    · cases hl.lift_inv.1
    obtain ⟨hc, rfl, rfl⟩ := hl.lift_inv
    cases hc
    rcases hf.bind_inv with ⟨e, rfl, ha⟩ | ⟨⟨⟩, s₂, t₁, t₂, ha, hrest, rfl⟩
    · obtain ⟨-, rfl⟩ := onInterfaces_inv ha
      refine ⟨[], _, .rejected [] i is e, rfl, fun hr => ?_⟩
      cases hr
    · obtain ⟨-, rfl⟩ := onInterfaces_inv ha
      obtain ⟨done, tried, hupto, rfl, hall⟩ := ih hrest
      refine ⟨i :: done, _, hupto.cons i, rfl, fun hr => ?_⟩
      obtain ⟨rfl, rfl⟩ := hall hr
      exact ⟨rfl, rfl⟩

/-- Questions that are not applications leave all resources for interfaces alone. -/
theorem foldl_applying_eq (asked : List (Program.Asked Query.Answer)) (old : Option SwitchInterface) :
    asked.foldl (Scene.applying name) old =
      (applications asked).foldl (fun x p => Scene.applying name x (asApplication p)) old := by
  unfold applications
  rw [List.foldl_filterMap]
  congr 1
  funext x ⟨q, r⟩
  cases q with
  | interfaces v => cases v <;> rfl
  | _ => rfl

theorem foldl_accepted (done : List Interface) (old : Option SwitchInterface) :
    (done.map (accepted uid switch)).foldl (fun x p => Scene.applying name x (asApplication p)) old =
      lastPlaced uid switch name done old := by
  induction done generalizing old with
  | nil => rfl
  | cons i done ih =>
    rw [List.map_cons, List.foldl_cons, ih, lastPlaced_cons]
    congr 1
    have happlication : Scene.application? name (asApplication (accepted uid switch i)) =
        if some (childName switch i.name) = some name then some (placed uid switch i none) else none := rfl
    unfold Scene.applying
    rw [happlication]
    by_cases hi : childName switch i.name = name
    · rw [if_pos (congrArg some hi), if_pos hi]
      exact congrArg some (superseding_placed old i)
    · rw [if_neg fun h => hi (Option.some.inj h), if_neg hi]

/-- **What is stored after the applications**: under each name the last one for it. -/
theorem AppliedUpTo.foldl_applying {is done : List Interface}
    {asked : List (Program.Asked Query.Answer)}
    (h : AppliedUpTo uid switch is done (applications asked)) (old : Option SwitchInterface) :
    asked.foldl (Scene.applying name) old = lastPlaced uid switch name done old := by
  rw [foldl_applying_eq]
  generalize applications asked = tried at h
  cases h with
  | all => exact foldl_accepted is old
  | rejected done i rest e =>
    rw [List.foldl_append, foldl_accepted]
    rfl

/-! ## What an attempt leaves -/

/-- The entry for a port refers to the resources for the interfaces with its name, which are all there. -/
structure Lists (stored : String → Option SwitchInterface) (switch : String) (is : List Interface)
    (p : Port) (entry : PortStatus) : Prop where
  name_eq : entry.name = p.name
  refs_eq : entry.interfaceRefs.map (·.name) =
    (is.filter fun i => i.name = p.name).map fun i => childName switch i.name
  stored : ∀ ref ∈ entry.interfaceRefs, (stored ref.name).isSome = true

/-- What an attempt at a switch leaves, given its statuses before and after, and the resources for
interfaces that were stored before and that are stored after.

* The identity is that which was reported. If none was, it is as before.
* Resources were applied for the interfaces that were reported, up to the first one that was rejected.
  Under each name the last one that was accepted is stored. What is stored under others is as before.
* If the identity, the interfaces and the ports were reported and all resources were accepted, there is an
  entry for each of the ports. If not, the ports were not reported, and they are as before. -/
structure Inventory (uid switch : String) (before status : SwitchStatus)
    (old new : String → Option SwitchInterface) (asked : List (Program.Asked Query.Answer)) : Prop where
  identity :
    (∃ d, reports .deviceInfo asked = [d] ∧ status.macAddress = d.macAddress ∧
      status.firmwareVersion = d.osVersion ∧ status.sku = d.hardwareSku) ∨
    reports .deviceInfo asked = [] ∧ status.macAddress = before.macAddress ∧
      status.firmwareVersion = before.firmwareVersion ∧ status.sku = before.sku
  children : ∃ done,
    AppliedUpTo uid switch (reports .interfaces asked).flatten done (applications asked) ∧
      ∀ name, new name = lastPlaced uid switch name done (old name)
  ports :
    (∃ d, ∃ is : List Interface, ∃ ps : List Port, reports .deviceInfo asked = [d] ∧
      reports .interfaces asked = [is] ∧ applications asked = is.map (accepted uid switch) ∧
      reports .ports asked = [ps] ∧ List.Forall₂ (Lists new switch is) ps status.ports) ∨
    reports .ports asked = [] ∧ status.ports = before.ports

section

variable {o : Switch} {before status : SwitchStatus} {asked : List (Program.Asked Query.Answer)}
  {old new : String → Option SwitchInterface}

theorem lists_portStatus {is : List Interface}
    (hstored : ∀ i ∈ is, (new (childName switch i.name)).isSome = true) (p : Port) :
    Lists new switch is p (portStatus switch is p) := by
  refine ⟨rfl, ?_, fun ref href => ?_⟩
  · simp only [portStatus, List.map_map, beq_eq_decide]
    rfl
  · obtain ⟨i, hi, rfl⟩ := List.mem_map.mp href
    exact hstored i (List.mem_filter.mp hi).1

/-- The questions of a comparison before resources are applied. -/
def surveyed (o : Switch) (address : String) (d : Device) (is : List Interface) :
    List (Program.Asked Query.Answer) :=
  [⟨.client o, .ok address⟩, ⟨.call address .deviceInfo, .ok d⟩, ⟨.call address .interfaces, .ok is⟩]

/-- What a comparison leaves that applied resources, given what was asked after that. -/
theorem inventory_surveyed {address : String} {d : Device} {is done : List Interface}
    {tried : List (SwitchInterface × Except ControllerError Unit)}
    {t : List (Program.Asked Query.Answer)}
    (hasked : asked = surveyed o address d is ++ (tried.map asApplication ++ t))
    (hnew : ∀ name, new name = asked.foldl (Scene.applying name) (old name))
    (hupto : AppliedUpTo uid switch is done tried) (ht : applications t = [])
    (hcalls : reports .deviceInfo t = [] ∧ reports .interfaces t = [])
    (hstatus : status.macAddress = d.macAddress ∧ status.firmwareVersion = d.osVersion ∧
      status.sku = d.hardwareSku)
    (hports : (∃ ps : List Port, reports .ports t = [ps] ∧ is = done ∧ tried = is.map (accepted uid switch) ∧
        status.ports = ps.map (portStatus switch is)) ∨
      reports .ports t = [] ∧ status.ports = before.ports) :
    Inventory uid switch before status old new asked := by
  have hreports (op : Operation) :
      reports op asked = reports op (surveyed o address d is) ++ reports op t := by
    rw [hasked, reports_append, reports_append, reports_asApplication, List.nil_append]
  have hdevice : reports .deviceInfo asked = [d] := by
    rw [hreports, hcalls.1]
    rfl
  have hlisted : reports .interfaces asked = [is] := by
    rw [hreports, hcalls.2]
    rfl
  have htried : applications asked = tried := by
    rw [hasked, applications_append, applications_append, applications_asApplication, ht,
      List.append_nil]
    rfl
  have hdone : AppliedUpTo uid switch (reports .interfaces asked).flatten done
      (applications asked) := by
    rw [hlisted, htried, List.flatten_singleton]
    exact hupto
  have hstored (name : String) : new name = lastPlaced uid switch name done (old name) :=
    (hnew name).trans (hdone.foldl_applying (old name))
  refine ⟨.inl ⟨d, hdevice, hstatus⟩, ⟨done, hdone, hstored⟩, ?_⟩
  rcases hports with ⟨ps, hps, rfl, hall, hstatus⟩ | ⟨hnone, hkept⟩
  · refine .inl ⟨d, is, ps, hdevice, hlisted, htried.trans hall, (hreports .ports).trans hps, ?_⟩
    rw [hstatus, List.forall₂_map_right_iff, List.forall₂_same]
    intro p _
    refine lists_portStatus (fun i hi => ?_) p
    rw [hstored]
    exact isSome_lastPlaced hi rfl _
  · exact .inr ⟨(hreports .ports).trans hnone, hkept⟩

/-- **What a comparison leaves**, wherever it stops. -/
theorem SwitchExit.inventory {σ : Type} {answer : (q : Query) → σ → q.Answer × σ}
    {r : Except ControllerError Action}
    (h : SwitchExit answer o switch before r status asked) (hname : o.metadata.name = some switch)
    (huid : o.metadata.uid = some uid)
    (hnew : ∀ name, new name = asked.foldl (Scene.applying name) (old name)) :
    Inventory uid switch before status old new asked := by
  cases h with
  | noClient e =>
    exact ⟨.inr ⟨rfl, rfl, rfl, rfl⟩, ⟨[], .all [], hnew⟩, .inr ⟨rfl, rfl⟩⟩
  | noDevice address e =>
    exact ⟨.inr ⟨rfl, rfl, rfl, rfl⟩, ⟨[], .all [], hnew⟩, .inr ⟨rfl, rfl⟩⟩
  | noInterfaces address d e =>
    exact ⟨.inl ⟨d, rfl, rfl, rfl, rfl⟩, ⟨[], .all [], hnew⟩, .inr ⟨rfl, rfl⟩⟩
  | unapplied address d is ha =>
    obtain ⟨done, tried, hupto, rfl, -⟩ := applyChildren_inv hname huid ha
    have hasked : surveyed o address d is ++ tried.map asApplication =
        surveyed o address d is ++ (tried.map asApplication ++ []) := by rw [List.append_nil]
    exact inventory_surveyed hasked hnew hupto rfl ⟨rfl, rfl⟩ ⟨rfl, rfl, rfl⟩ (.inr ⟨rfl, rfl⟩)
  | noPorts address d is e ha =>
    obtain ⟨done, tried, hupto, rfl, -⟩ := applyChildren_inv hname huid ha
    exact inventory_surveyed rfl hnew hupto rfl ⟨rfl, rfl⟩ ⟨rfl, rfl, rfl⟩ (.inr ⟨rfl, rfl⟩)
  | ready address d is ps ha =>
    obtain ⟨done, tried, hupto, rfl, hall⟩ := applyChildren_inv hname huid ha
    obtain ⟨hdone, htried⟩ := hall rfl
    exact inventory_surveyed rfl hnew hupto rfl ⟨rfl, rfl⟩ ⟨rfl, rfl, rfl⟩
      (.inl ⟨ps, rfl, hdone, htried, rfl⟩)

section

variable {t : List (Program.Asked Query.Answer)} (ht : ∀ a ∈ t, Aside a.1)

include ht

theorem reports_aside (op : Operation) : reports op (asked ++ t) = reports op asked := by
  have hnone : reports op t = [] := by
    refine List.filterMap_eq_nil_iff.mpr fun ⟨q, r⟩ ha => ?_
    have hq := ht _ ha
    cases q with
    | call address op' => exact hq.elim
    | _ => rfl
  rw [reports_append, hnone, List.append_nil]

theorem applications_aside : applications (asked ++ t) = applications asked := by
  have hnone : applications t = [] := by
    refine List.filterMap_eq_nil_iff.mpr fun ⟨q, r⟩ ha => ?_
    have hq := ht _ ha
    cases q with
    | interfaces v => exact hq.elim
    | _ => rfl
  rw [applications_append, hnone, List.append_nil]

theorem Inventory.aside (h : Inventory uid switch before status old new asked)
    (conditions : List Condition) :
    Inventory uid switch before { status with conditions } old new (asked ++ t) := by
  have hreports (op : Operation) : reports op (asked ++ t) = reports op asked := reports_aside ht op
  have happlications : applications (asked ++ t) = applications asked := applications_aside ht
  constructor
  · rw [hreports]
    exact h.identity
  · rw [hreports, happlications]
    exact h.children
  · simp only [hreports, happlications]
    exact h.ports

end

end

/-- **What an attempt at a switch writes.** The switch has a state, our finalizer and an identity, and it is
not being deleted. If the write of its status does not fail, its status and the resources for its
interfaces are what the attempt leaves, wherever it stopped. -/
theorem World.inventory_written {σ : Type} (w : World σ) {s : σ} {key uid : String} {o : Switch}
    {before : SwitchStatus} (hget : (w.switches s).objects.get? key = some o)
    (hc : switchKind.Compares o key before) (huid : o.metadata.uid = some uid)
    (hintact : (w.asked s (.switch key)).any isFailedFlush = false) :
    ∃ status, (w.switches (w.after s (.switch key))).objects.get? key =
        some { o with status := some status } ∧
      Inventory uid key before status (fun name => (w.interfaces s).objects.get? name)
        (fun name => (w.interfaces (w.after s (.switch key))).objects.get? name)
        (w.asked s (.switch key)) := by
  dsimp only [World.after, World.asked] at hintact ⊢
  rw [World.task_switch hget] at hintact ⊢
  have hruns : Program.Runs w.answer (reconcileSwitch o) s _ _ _ := .self (reconcileSwitch o) s
  obtain ⟨outcome, computed, written, hcomp, hwritten⟩ :=
    managed_switchKind.computes w.keepsSwitches hc hget hruns
  obtain ⟨status, s₁, t₁, t₂, hobs, rfl, hflush, hasked⟩ := hcomp.parts hc
  rw [hasked, List.any_append, List.any_cons, Bool.or_eq_false_iff, Bool.or_eq_false_iff] at hintact
  obtain ⟨-, hstored⟩ := hwritten (Kind.flush_ok sends_switchKind hflush hintact.2.2)
  -- neither the question for the time nor the write of the status is about interfaces
  have hview (name : String) :
      (w.interfaces ((reconcileSwitch o).run.run w.answer s).2).objects.get? name =
        t₁.foldl (Scene.applying name) ((w.interfaces s).objects.get? name) := by
    have hwrite := Kind.flush_keeps managed_switchKind.sends w.interfaces
      (fun _ s => w.keepsInterfaces.other _ s fun _ => nofun) hflush
    have hnow := w.keepsInterfaces.other .now s₁ fun _ => nofun
    have hchildren := Program.run_foldl (fun s => (w.interfaces s).objects.get? name)
      (Scene.applying name) (fun q _ hq => Scene.applying_answer w.keepsInterfaces name hq)
      (asks_observeSwitch o key before) s
    rw [hobs.run_eq, hobs.trace_eq] at hchildren
    rw [hwrite, hnow, hchildren]
  have haside : ∀ a ∈ (⟨.now, (w.answer .now s₁).1⟩ :: t₂ : List (Program.Asked _)), Aside a.1 := by
    refine List.forall_mem_cons.mpr ⟨trivial, fun a ha => ?_⟩
    obtain ⟨patch, hpatch⟩ := Kind.asked_flush managed_switchKind.sends hflush a ha
    rw [hpatch]
    trivial
  have hexit := exit_observeSwitch hobs
  obtain ⟨state, hstate⟩ := Option.isSome_iff_exists.mp (hexit.isSome_state hc.seen)
  obtain ⟨conditions, hjudge⟩ :=
    Kind.judge_eq (k := switchKind) hstate o.metadata.generation outcome (w.answer .now s₁).1
  rw [hjudge] at hstored
  refine ⟨_, hstored, ?_⟩
  rw [hasked]
  exact (hexit.inventory hc.named huid hview).aside haside conditions

/-! ## Two interfaces with one name -/

namespace Resources

/-- An agent with two interfaces whose handles differ in their case only, and with a port for the second
one. -/
def ported : (q : Query) → q.Answer
  | .call _ .ports => .ok [⟨"ethernet0", "1"⟩]
  | q => twins q

/-- The general theorem at a switch with such an agent: there is one resource, which is for the second
interface, and the entry for the port refers to it. -/
theorem inventory_ported :
    ofLeaf.switches.objects.get? "leaf" = some Cluster.readySwitch ∧
      ((world ported).asked ofLeaf (.switch "leaf")).any isFailedFlush = false ∧
      ∃ status, ((world ported).after ofLeaf (.switch "leaf")).switches.objects.get? "leaf" =
          some { Cluster.readySwitch with status := some status } ∧
        status.sku = "sku" ∧
        status.ports.map (fun p => (p.name, p.interfaceRefs.map (·.name))) =
          [("ethernet0", ["leaf-ethernet0"])] ∧
        ∃ c, ((world ported).after ofLeaf (.switch "leaf")).interfaces.objects.get?
          "leaf-ethernet0" = some c ∧ c.spec.handle = "ethernet0" := by
  have hc : switchKind.Compares Cluster.readySwitch "leaf"
      { SwitchStatus.empty with state := some .ready } := ⟨rfl, by decide, rfl, rfl, rfl⟩
  have huid : Cluster.readySwitch.metadata.uid = some "1" := rfl
  obtain ⟨status, hstored, hidentity, -, hports⟩ :=
    (world ported).inventory_written (s := ofLeaf) rfl hc huid rfl
  refine ⟨rfl, rfl, status, hstored, ?_, ?_, _, rfl, rfl⟩
  · rcases hidentity with ⟨d, hd, -, -, hsku⟩ | ⟨hnone, -⟩
    · cases hd
      exact hsku
    · cases hnone
  · rcases hports with ⟨d, is, ps, -, hlisted, -, hp, hall⟩ | ⟨hnone, -⟩
    · cases hlisted
      cases hp
      obtain ⟨entry, _, hentry, hrest, hstatus⟩ := List.forall₂_cons_left_iff.mp hall
      rw [hstatus, List.forall₂_nil_left_iff.mp hrest, List.map_singleton, hentry.name_eq,
        hentry.refs_eq]
      rfl
    · cases hnone

end Resources

end SwitchFleet.Controller

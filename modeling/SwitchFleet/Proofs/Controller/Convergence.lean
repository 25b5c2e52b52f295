import SwitchFleet.Proofs.Agent.Keys
import SwitchFleet.Proofs.Agent.Reports
import SwitchFleet.Proofs.Controller.Fleet
import SwitchFleet.Text.Casing

/-!
# Interfaces that are reconciled

An attempt at an interface over the whole program: the operator, the client, the protocol, the agent
and its device store.

* `Converged`: the device is as the interface wants it, and the status tells what the device is like.
* **`converges`**: an interface that is ready has converged, and a state that stands for nothing on the
  device is the only reason for a failed conversion, which then changes nothing.
-/

namespace SwitchFleet.Controller

open Agent

/-! ## Conversions -/

theorem lineStatus_ok {wanted : LinkState} {status : LineStatus}
    (h : wanted.lineStatus = .ok status) :
    status.linkState = .ok wanted ∧ status.text = Text.lower wanted.name := by
  cases wanted with
  | unknown => cases h
  | up | down =>
    cases h
    exact ⟨rfl, by decide⟩

theorem lineStatus_error {wanted : LinkState} {e : ConversionError}
    (h : wanted.lineStatus = .error e) : wanted = .unknown := by
  cases wanted with
  | unknown => rfl
  | up | down => cases h

theorem linkState_ofField (value : String) :
    (LineStatus.ofField value).linkState = .ok (if value = "up" then .up else .down) := by
  unfold LineStatus.ofField
  split <;> rfl

/-- The neighbor that a device store describes. -/
def neighborOn (h : Host) (handle : String) : Neighbor :=
  match h.peer? handle with
  | some p =>
    { macAddress := p.macAddress, systemName := p.systemName, interfaceHandle := p.handle }
  | none => .empty

/-- A device is as an interface wants it, and a status tells what it is like. -/
structure Converged (o : SwitchInterface) (b : SwitchInterfaceStatus) (h : Host) : Prop where
  configured : h.admin? o.spec.handle = some (Text.lower o.spec.adminState.name)
  admin : b.adminState = some o.spec.adminState
  operational : b.operationalState = some
    (if Hash.text (h.content.hash (some .state) (stateKey o.spec.handle)) operationalField = "up"
      then .up else .down)
  link : h.links o.spec.handle = .ok (some b.macAddress)
  neighbor : b.neighbor = neighborOn h o.spec.handle

namespace Fleet

variable {f f' : Fleet} {o : SwitchInterface} {name address handle : String}
  {before : SwitchInterfaceStatus}

/-! ## Steps of a comparison -/

theorem links_runs {α : Type} {t : Task α} {r : Except ControllerError α}
    {asked : List (Program.Asked Query.Answer)} (h : Program.Runs answer t f r f' asked) :
    f'.host.links = f.host.links :=
  h.preserves (P := fun _ => True) (fun g => g.host.links = f.host.links)
    (fun q g _ hg => (links_answer q g).trans hg) (fun _ _ => trivial) rfl

theorem switchOf_error {e : ControllerError} {asked : List (Program.Asked Query.Answer)}
    (h : Program.Runs answer (switchOf o name) f (.error e) f' asked) (fault : ConversionError) :
    e ≠ .conversion fault := by
  rintro rfl
  unfold switchOf at h
  split at h
  · nomatch h.run_eq
  · rename_i reference _
    rcases h.bind_inv with ⟨e, he, hv⟩ | ⟨found, f₁, _, _, -, hf, -⟩
    · obtain rfl := Except.error.inj he
      have ha := congrArg Prod.fst (onSwitches_inv hv).1
      change (f.switches.answer Switch.schema (.get reference.name)).1 = _ at ha
      unfold ObjectStore.answer at ha
      split at ha <;> cases ha
    · split at hf <;> nomatch hf.run_eq

theorem neighborOfReport_ok {n : Neighbor}
    (h : neighborOfReport (Client.perform Host.serve address (.peer handle) f.host).1 = .ok n) :
    n = neighborOn f.host handle := by
  by_cases hf : Client.Fits (.peer handle)
  · obtain ⟨r, h', asked, hr, hp⟩ := f.host.report_peer handle
    have hattempt : f.host.attempt (Agent.perform (.peer handle)) = (r, h') := hr.run_eq
    rw [Client.perform_serve hf, hattempt] at h
    unfold neighborOn
    cases hp with
    | found hp =>
      rw [hp]
      exact (Except.ok.inj h).symm
    | missing hp hs =>
      rw [hp]
      dsimp only [Except.mapError, neighborOfReport] at h
      rw [if_pos ((Client.isNotFound_explain _ _).mpr hs)] at h
      exact (Except.ok.inj h).symm
    | failed hs =>
      dsimp only [Except.mapError, neighborOfReport] at h
      rw [if_neg fun hn => hs ((Client.isNotFound_explain _ _).mp hn)] at h
      cases h
  · rw [Client.perform_serve_long hf] at h
    cases h

/-- **Comparisons that succeed** leave a device that has converged. -/
theorem converged_of_changes {i j : Interface} {admin admin' operational : LinkState}
    {wanted : LineStatus} {n : Neighbor} {f₄ : Fleet} {asked : List (Program.Asked Query.Answer)}
    (hc : Changes answer o name f address i admin wanted j f₄)
    (ha : j.admin.linkState = .ok admin') (ho : j.operational.linkState = .ok operational)
    (hn : Program.Runs answer (observedNeighbor address o.spec.handle) f₄ (.ok n) f' asked)
    (b : SwitchInterfaceStatus) :
    Converged o { seenAfter (seenBefore b i admin) admin' operational with
      neighbor := n, state := some .ready } f'.host := by
  obtain ⟨hw, f₃, ⟨⟨f₂, hr, hi⟩, -⟩, hj⟩ := hc
  obtain ⟨hlink, -⟩ := Host.interface_ok ⟨call_ok hi, rfl⟩
  obtain ⟨hcontent, rfl⟩ := Host.setAdminStatus_ok (call_ok hj)
  obtain ⟨hwanted, htext⟩ := lineStatus_ok hw
  obtain ⟨hreport, hf'⟩ := observedNeighbor_inv hn
  have hpeer : (answer (.call address (.peer o.spec.handle)) f₄).2.host.content =
    f₄.host.content := content_answer (fun _ _ _ he => by cases he) f₄
  have hkeep : f'.host.content = f₄.host.content := by rw [hf', hpeer]
  have hlinks : f'.host.links = f₂.host.links := by
    have h₃ := links_answer (.call address (.interface o.spec.handle)) f₂
    have h₄ := links_answer (.call address (.setAdminStatus o.spec.handle wanted)) f₃
    rw [hi] at h₃
    rw [hj] at h₄
    rw [links_runs hn, h₄, h₃]
  refine ⟨?_, ?_, ?_, ?_, ?_⟩
  · unfold Host.admin?
    rw [hkeep, hcontent, ← htext]
    simp [Host.withAdmin, Content.field_setField]
  · exact congrArg some (Except.ok.inj (ha.symm.trans hwanted))
  · rw [hkeep]
    exact congrArg some (Except.ok.inj (ho.symm.trans (linkState_ofField _)))
  · rw [hlinks]
    exact hlink
  · simp only [answer_call] at hreport
    have hneighbor := neighborOfReport_ok hreport.symm
    unfold neighborOn Host.peer? at hneighbor ⊢
    rw [hkeep]
    exact hneighbor

/-- **Conversions that fail.** The only state that cannot be converted is the wanted one. -/
theorem unknown_of_conversion {e : ConversionError} {b' : SwitchInterfaceStatus}
    (h : InterfaceExit answer o name before f (.error (.conversion e)) b' f') :
    o.spec.adminState = .unknown := by
  cases h with
  | noSwitch h => exact absurd rfl (switchOf_error h e)
  | noClient h => cases h
  | unclear hr h hi =>
    obtain ⟨-, text, ha⟩ := Host.interface_ok ⟨call_ok h, rfl⟩
    rw [ha, linkState_ofField] at hi
    cases hi
  | unwanted hf hw => exact lineStatus_error hw
  | unsettled hc hj =>
    obtain ⟨hw, f₃, -, hj'⟩ := hc
    obtain ⟨-, rfl⟩ := Host.setAdminStatus_ok (call_ok hj')
    rcases hj with hj | hj
    · nomatch hj.symm.trans (lineStatus_ok hw).1
    · nomatch hj.symm.trans (linkState_ofField _)
  | noNeighbor hc ha ho h =>
    obtain ⟨fault, he⟩ := neighborOfReport_error (observedNeighbor_inv h).1.symm
    cases he

/-! ## Attempts -/

theorem settle_eq_conversion {outcome : Except ControllerError Action}
    {flushed : Except ControllerError Unit} {e : ConversionError}
    (hf : flushed = .ok () ∨ flushed = .error (ObjectStore.rejection .patchStatus))
    (h : settle (interfaceKind.excuse outcome) flushed = .error (.conversion e)) :
    outcome = .error (.conversion e) := by
  have hflushed (a : Action) : flushed.map (fun _ => a) ≠ .error (.conversion e) := by
    rcases hf with rfl | rfl <;> nofun
  rcases outcome with e' | a
  · unfold Kind.excuse at h
    dsimp only at h
    split at h
    · exact absurd h (hflushed _)
    · exact h
  · exact absurd h (hflushed _)

theorem converged_judge {generation : Option Int64} {outcome : Except ControllerError Action}
    {time : String} {b : SwitchInterfaceStatus} {h : Host} (hb : Converged o b h) :
    Converged o (interfaceKind.judge generation outcome time b) h := by
  unfold Kind.judge
  split
  · exact hb
  · exact ⟨hb.configured, hb.admin, hb.operational, hb.link, hb.neighbor⟩

theorem interfaces_observe {r : Except ControllerError Action} {b' : SwitchInterfaceStatus}
    {asked : List (Program.Asked Query.Answer)}
    (h : Observes answer (observeInterface o name) before f r b' f' asked) :
    f'.interfaces = f.interfaces :=
  h.keeps (P := Permitted o) Fleet.interfaces
    (fun q f hq => interfaces_answer (q := q) (by rintro v rfl; exact hq) f)
    (asks_observeInterface o name)

theorem silent_observe {r : Except ControllerError Action} {b' : SwitchInterfaceStatus}
    {asked : List (Program.Asked Query.Answer)} (hu : o.spec.adminState = .unknown)
    (h : Observes answer (observeInterface o name) before f r b' f' asked) :
    (∀ a ∈ asked, ∀ address handle status, a.1 ≠ .call address (.setAdminStatus handle status)) ∧
      f'.host.content = f.host.content := by
  have hasks := asks_observeInterface o name
  have hnot (q : Query) (hq : Permitted o q) (address handle : String) (status : LineStatus) :
      q ≠ .call address (.setAdminStatus handle status) := by
    rintro rfl
    have hwanted := hq.2
    rw [hu] at hwanted
    cases hwanted
  exact ⟨fun a ha => hnot a.1 (h.within hasks a ha),
    h.keeps (fun f : Fleet => f.host.content) (fun q f hq => content_answer (hnot q hq) f) hasks⟩

/-- The write of a status leaves the device alone, asks about interfaces only, and stores the status
unless the cluster rejects it. -/
theorem flushed_inv {after : SwitchInterfaceStatus} {r : Except ControllerError Unit}
    {asked : List (Program.Asked Query.Answer)}
    (hget : f.interfaces.objects.get? name = some o) (hb : o.status = some before)
    (h : Program.Runs answer (interfaceKind.flush name before after) f r f' asked) :
    (r = .ok () ∨ r = .error (ObjectStore.rejection .patchStatus)) ∧ f'.host = f.host ∧
      (∀ a ∈ asked, ∃ v, a.1 = .interfaces v) ∧
      f'.interfaces.objects.get? name = some { o with
        status := some
          (if f.interfaces.rejected.contains Verb.Kind.patchStatus then before else after) } := by
  have hf := Kind.flushed_of_runs written_interfaceKind backed hget hb h
  cases hf with
  | kept he =>
    refine ⟨.inl rfl, rfl, fun _ ha => absurd ha List.not_mem_nil, ?_⟩
    rw [hget, ← he, ite_self, ← hb]
  | written hr =>
    refine ⟨.inl rfl, rfl, List.forall_mem_singleton.mpr ⟨_, rfl⟩, ?_⟩
    rw [hr, if_neg Bool.false_ne_true]
    exact ObjectStore.get?_withStatus _ _
  | rejected hr =>
    refine ⟨.inr rfl, rfl, List.forall_mem_singleton.mpr ⟨_, rfl⟩, ?_⟩
    rw [hr, if_pos rfl, ← hb]
    exact hget

/-- **Interfaces that are reconciled.** The status that comes of an attempt is stored unless the cluster
rejects it. If the interface is ready then, it has converged. A conversion fails only if the wanted
state is not known, and then the device is not asked for a change and nothing is stored on it. -/
theorem converges (hc : interfaceKind.Compares o name before)
    (hget : f.interfaces.objects.get? name = some o) :
    ∃ after,
      (f.attempt o).2.interfaces.objects.get? name = some { o with
        status := some
          (if f.interfaces.rejected.contains Verb.Kind.patchStatus then before else after) } ∧
      (after.state = some .ready → Converged o after (f.attempt o).2.host) ∧
      ∀ e, (f.attempt o).1 = .error (.conversion e) →
        o.spec.adminState = .unknown ∧
        (∀ a ∈ f.asked o, ∀ address handle status,
          a.1 ≠ .call address (.setAdminStatus handle status)) ∧
        (f.attempt o).2.host.content = f.host.content := by
  obtain ⟨outcome, status, f₁, t₁, flushed, t₂, hobs, hflush, hr, ht⟩ :=
    hc.reconcile_inv (fun _ _ _ _ h => (exit_observeInterface h).isSome_state)
      (.self (reconcileInterface o) f)
  change (f.attempt o).1 = _ at hr
  change f.asked o = _ at ht
  have hinterfaces : (answer .now f₁).2.interfaces = f.interfaces := interfaces_observe hobs
  obtain ⟨hfl, hhost, hquiet, hstored⟩ :=
    flushed_inv (by rw [hinterfaces, hget]) hc.status_eq hflush
  rw [hinterfaces] at hstored
  have hhost' : (f.attempt o).2.host = f₁.host := hhost
  refine ⟨_, hstored, fun hready => ?_, fun e he => ?_⟩
  · have hstatus := (lenses_interfaceKind.state_judge _ _ _ status).symm.trans hready
    rw [hhost']
    refine converged_judge ?_
    cases exit_observeInterface hobs with
    | ready hc ha ho hn => exact converged_of_changes hc ha ho hn before
    | _ => cases hstatus
  · obtain rfl := settle_eq_conversion hfl (hr.symm.trans he)
    have hunknown := unknown_of_conversion (exit_observeInterface hobs)
    obtain ⟨hasked, hcontent⟩ := silent_observe hunknown hobs
    refine ⟨hunknown, fun a ha => ?_, by rw [hhost', hcontent]⟩
    rw [ht, List.mem_append, List.mem_cons] at ha
    rcases ha with ha | rfl | ha
    · exact hasked a ha
    · exact fun _ _ _ => nofun
    · obtain ⟨v, hv⟩ := hquiet a ha
      rw [hv]
      exact fun _ _ _ => nofun

/-! ## A fleet with one interface -/

/-- An interface that is to be down. -/
def downlink : SwitchInterface where
  metadata := { Metadata.named "leaf-ethernet0" with finalizers := some [Group.finalizer] }
  spec := ⟨"Ethernet0", some ⟨"leaf"⟩, .down⟩
  status := some { SwitchInterfaceStatus.empty with state := some .pending }

/-- A switch with this interface, whose device has it up. -/
def withDownlink : Fleet where
  switches := ObjectStore.empty.insert "leaf" ⟨Metadata.named "leaf", ⟨.empty, "", []⟩, none⟩
  interfaces := ObjectStore.empty.insert "leaf-ethernet0" downlink
  host := Host.single
  time := "2026-01-01T00:00:00Z"

/-- The general theorem at this fleet: the interface is ready after one attempt, and has converged. -/
theorem converged_downlink :
    interfaceKind.Compares downlink "leaf-ethernet0"
        { SwitchInterfaceStatus.empty with state := some .pending } ∧
      withDownlink.interfaces.objects.get? "leaf-ethernet0" = some downlink ∧
      ∃ after, (withDownlink.attempt downlink).2.interfaces.objects.get? "leaf-ethernet0" =
          some { downlink with status := some after } ∧
        Converged downlink after (withDownlink.attempt downlink).2.host := by
  have hc : interfaceKind.Compares downlink "leaf-ethernet0"
      { SwitchInterfaceStatus.empty with state := some .pending } := ⟨rfl, by decide, rfl, rfl, rfl⟩
  obtain ⟨after, hstored, hready, -⟩ := @converges withDownlink _ _ _ hc rfl
  have hstate : (((withDownlink.attempt downlink).2.interfaces.objects.get? "leaf-ethernet0").bind
      fun o => o.status.bind (·.state)) = some .ready := by decide +kernel
  rw [hstored] at hstate
  exact ⟨hc, rfl, after, hstored, hready hstate⟩

end Fleet

end SwitchFleet.Controller

import SwitchFleet.Controller.Interfaces
import SwitchFleet.Proofs.Controller.Attempt
import SwitchFleet.Proofs.Controller.Flush
import SwitchFleet.Proofs.Resource.Codecs

/-!
# Comparisons of interfaces

* `Reaches`, `Finds`, `Changes`: a comparison gets as far as the agent of the switch, as the state of
  the interface before it is changed, and as the state after that.
* `InterfaceExit`: the ways in which the comparison of an interface with its device ends.
  **`exit_observeInterface`**: there are no others.
* `lenses_interfaceKind`, `written_interfaceKind`: what is needed of statuses of interfaces.
  `sends_interfaceKind`: verbs on interfaces are questions that may be refused.
-/

namespace SwitchFleet.Controller

theorem lenses_interfaceKind : interfaceKind.Lenses :=
  ⟨fun _ _ => rfl, fun _ _ => rfl, fun _ _ => rfl⟩

theorem written_interfaceKind : interfaceKind.Written :=
  ⟨SwitchInterfaceStatus.lawful_codec, fun _ => rfl⟩

theorem sends_interfaceKind : interfaceKind.Sends .interfaces where
  verb_eq _ := rfl
  send_eq _ := ⟨id, rfl, fun r => by cases r <;> rfl⟩

variable {σ : Type} (answer : (q : Query) → σ → q.Answer × σ) (o : SwitchInterface) (name : String)
  (b : SwitchInterfaceStatus) (s : σ)

/-! ## How far a comparison gets -/

/-- The agent of the switch of an interface is found at an address. -/
structure Reaches (address : String) (s₂ : σ) : Prop where
  found : ∃ switch s₁ t, Program.Runs answer (switchOf o name) s (.ok switch) s₁ t ∧
    answer (.client switch) s₁ = (.ok address, s₂)

/-- The agent reports what an interface is like before it is changed. -/
structure Finds (address : String) (i : Interface) (admin : LinkState) (s₃ : σ) : Prop where
  found : ∃ s₂, Reaches answer o name s address s₂ ∧
    answer (.call address (.interface o.spec.handle)) s₂ = (.ok i, s₃)
  admin_eq : i.admin.linkState = .ok admin

/-- The agent changes the admin status to the one that is wanted, and reports it. -/
structure Changes (address : String) (i : Interface) (admin : LinkState) (wanted : LineStatus)
    (j : Interface) (s₄ : σ) : Prop where
  wanted_eq : o.spec.adminState.lineStatus = .ok wanted
  changed : ∃ s₃, Finds answer o name s address i admin s₃ ∧
    answer (.call address (.setAdminStatus o.spec.handle wanted)) s₃ = (.ok j, s₄)

/-- What becomes of the report on the peer of an interface. -/
def neighborOfReport : Except ClientError Peer → Except ControllerError Neighbor
  | .ok p => .ok (neighborOf p)
  | .error e => if e.isNotFound then .ok .empty else .error (.agent e)

theorem neighborOfReport_error {r : Except ClientError Peer} {e : ControllerError}
    (h : neighborOfReport r = .error e) : ∃ fault, e = .agent fault := by
  unfold neighborOfReport at h
  split at h
  · cases h
  · split at h <;> cases h
    exact ⟨_, rfl⟩

section

variable {answer s} {address handle : String} {s' : σ} {r : Except ControllerError Neighbor}
  {asked : List (Program.Asked Query.Answer)}
  (h : Program.Runs answer (observedNeighbor address handle) s r s' asked)

include h

theorem runs_observedNeighbor :
    r = neighborOfReport (answer (.call address (.peer handle)) s).1 ∧
      s' = (answer (.call address (.peer handle)) s).2 ∧
      asked = [⟨.call address (.peer handle), (answer (.call address (.peer handle)) s).1⟩] := by
  have hq := Program.Runs.query (ε := ControllerError) answer (.call address (.peer handle)) s
  rcases ha : answer (.call address (.peer handle)) s with ⟨report, s₁⟩
  rw [ha] at hq
  rcases h.bind_inv with ⟨e, rfl, hx⟩ | ⟨a, s₂, t₁, t₂, hx, hf, rfl⟩
  · nomatch hx.run_eq.symm.trans hq.run_eq
  · cases hx.run_eq.symm.trans hq.run_eq
    obtain rfl := hx.trace_eq.symm.trans hq.trace_eq
    unfold neighborOfReport
    rcases report with e | p
    · dsimp only at hf ⊢
      by_cases hn : e.isNotFound = true
      · rw [if_pos hn] at hf ⊢
        obtain ⟨rfl, rfl, rfl⟩ := hf.pure_inv
        exact ⟨rfl, rfl, rfl⟩
      · rw [if_neg hn] at hf ⊢
        obtain ⟨hr, rfl⟩ := hf
        cases hr
        exact ⟨rfl, rfl, rfl⟩
    · obtain ⟨rfl, rfl, rfl⟩ := hf.pure_inv
      exact ⟨rfl, rfl, rfl⟩

theorem observedNeighbor_inv : r = neighborOfReport (answer (.call address (.peer handle)) s).1 ∧
    s' = (answer (.call address (.peer handle)) s).2 :=
  ⟨(runs_observedNeighbor h).1, (runs_observedNeighbor h).2.1⟩

end

/-! ## All ways to end -/

/-- A status with what an interface is like before it is changed. -/
def seenBefore (b : SwitchInterfaceStatus) (i : Interface) (admin : LinkState) :
    SwitchInterfaceStatus :=
  { b with
    adminState := some admin
    operationalState := some i.operational.observedOperational
    macAddress := i.macAddress }

/-- A status with the states of an interface after it was changed. -/
def seenAfter (b : SwitchInterfaceStatus) (admin operational : LinkState) :
    SwitchInterfaceStatus :=
  { b with adminState := some admin, operationalState := some operational }

/-- A status of an interface that is failed. -/
def spoilt (b : SwitchInterfaceStatus) : SwitchInterfaceStatus := { b with state := some .failed }

/-- The ways in which the comparison of an interface ends: its outcome, the status, and the world
afterwards. -/
inductive InterfaceExit : Except ControllerError Action → SwitchInterfaceStatus → σ → Prop
  | noSwitch {e : ControllerError} {s' : σ} {t : List (Program.Asked Query.Answer)}
    (h : Program.Runs answer (switchOf o name) s (.error e) s' t) :
    InterfaceExit (.error e) (spoilt b) s'
  | noClient {switch : Switch} {e : ControllerError} {s₁ s' : σ}
    (h : answer (.client switch) s₁ = (.error e, s')) : InterfaceExit (.error e) (spoilt b) s'
  | unread {address : String} {e : ClientError} {s₂ s' : σ} (hr : Reaches answer o name s address s₂)
    (h : answer (.call address (.interface o.spec.handle)) s₂ = (.error e, s')) :
    InterfaceExit (.error (.agent e)) (spoilt b) s'
  | unclear {address : String} {i : Interface} {e : ConversionError} {s₂ s' : σ}
    (hr : Reaches answer o name s address s₂)
    (h : answer (.call address (.interface o.spec.handle)) s₂ = (.ok i, s'))
    (hi : i.admin.linkState = .error e) : InterfaceExit (.error (.conversion e)) (spoilt b) s'
  | unwanted {address : String} {i : Interface} {admin : LinkState} {e : ConversionError} {s' : σ}
    (hf : Finds answer o name s address i admin s') (hw : o.spec.adminState.lineStatus = .error e) :
    InterfaceExit (.error (.conversion e)) (spoilt (seenBefore b i admin)) s'
  | unchanged {address : String} {i : Interface} {admin : LinkState} {wanted : LineStatus}
    {e : ClientError} {s₃ s' : σ} (hf : Finds answer o name s address i admin s₃)
    (hw : o.spec.adminState.lineStatus = .ok wanted)
    (h : answer (.call address (.setAdminStatus o.spec.handle wanted)) s₃ = (.error e, s')) :
    InterfaceExit (.error (.agent e)) (spoilt (seenBefore b i admin)) s'
  | unsettled {address : String} {i j : Interface} {admin : LinkState} {wanted : LineStatus}
    {e : ConversionError} {s' : σ} (hc : Changes answer o name s address i admin wanted j s')
    (hj : j.admin.linkState = .error e ∨ j.operational.linkState = .error e) :
    InterfaceExit (.error (.conversion e)) (spoilt (seenBefore b i admin)) s'
  | noNeighbor {address : String} {i j : Interface} {admin admin' operational : LinkState}
    {wanted : LineStatus} {e : ControllerError} {s₄ s' : σ}
    {t : List (Program.Asked Query.Answer)}
    (hc : Changes answer o name s address i admin wanted j s₄)
    (ha : j.admin.linkState = .ok admin') (ho : j.operational.linkState = .ok operational)
    (h : Program.Runs answer (observedNeighbor address o.spec.handle) s₄ (.error e) s' t) :
    InterfaceExit (.error e) (spoilt (seenAfter (seenBefore b i admin) admin' operational)) s'
  | ready {address : String} {i j : Interface} {admin admin' operational : LinkState}
    {wanted : LineStatus} {neighbor : Neighbor} {s₄ s' : σ}
    {t : List (Program.Asked Query.Answer)}
    (hc : Changes answer o name s address i admin wanted j s₄)
    (ha : j.admin.linkState = .ok admin') (ho : j.operational.linkState = .ok operational)
    (h : Program.Runs answer (observedNeighbor address o.spec.handle) s₄ (.ok neighbor) s' t) :
    InterfaceExit (.ok .awaitChange)
      { seenAfter (seenBefore b i admin) admin' operational with neighbor, state := some .ready } s'

/-! ## Calls -/

/-- A call of an agent: the operation and its outcome. -/
abbrev Call : Type := Σ op : Operation, Except ClientError op.Report

def call? : Program.Asked Query.Answer → Option Call
  | ⟨.call _ op, r⟩ => some ⟨op, r⟩
  | _ => none

/-- The calls of agents, first one first. -/
def calls (asked : List (Program.Asked Query.Answer)) : List Call := asked.filterMap call?

theorem calls_append (t t' : List (Program.Asked Query.Answer)) :
    calls (t ++ t') = calls t ++ calls t' := List.filterMap_append

theorem calls_eq_nil {t : List (Program.Asked Query.Answer)}
    (ht : ∀ a ∈ t, ∀ address op, a.1 ≠ .call address op) : calls t = [] := by
  refine List.filterMap_eq_nil_iff.mpr fun ⟨q, r⟩ ha => ?_
  cases q with
  | call address op => exact absurd rfl (ht _ ha address op)
  | _ => rfl

/-- A status at the end of a comparison that got as far as the neighbor. -/
def concluded (b : SwitchInterfaceStatus) : Except ControllerError Neighbor → SwitchInterfaceStatus
  | .ok neighbor => { b with neighbor, state := some .ready }
  | .error _ => spoilt b

@[simp] theorem macAddress_concluded (b : SwitchInterfaceStatus) (r : Except ControllerError Neighbor) :
    (concluded b r).macAddress = b.macAddress := by cases r <;> rfl

@[simp] theorem adminState_concluded (b : SwitchInterfaceStatus) (r : Except ControllerError Neighbor) :
    (concluded b r).adminState = b.adminState := by cases r <;> rfl

@[simp] theorem operationalState_concluded (b : SwitchInterfaceStatus)
    (r : Except ControllerError Neighbor) :
    (concluded b r).operationalState = b.operationalState := by cases r <;> rfl

/-- The ways in which the status and the calls go together at the end of the comparison of an interface
that is wanted as `x`. -/
inductive Trail (x : SwitchInterfaceSpec) (b : SwitchInterfaceStatus) :
    SwitchInterfaceStatus → List Call → Prop
  | unreached : Trail x b (spoilt b) []
  | unseen {r : Except ClientError Interface}
    (hr : ∀ i admin, r = .ok i → i.admin.linkState ≠ .ok admin) :
    Trail x b (spoilt b) [⟨.interface x.handle, r⟩]
  | unwanted {i : Interface} {admin : LinkState} {e : ConversionError}
    (hi : i.admin.linkState = .ok admin) (hw : x.adminState.lineStatus = .error e) :
    Trail x b (spoilt (seenBefore b i admin)) [⟨.interface x.handle, .ok i⟩]
  | unsettled {i : Interface} {admin : LinkState} {wanted : LineStatus}
    {r : Except ClientError Interface} (hi : i.admin.linkState = .ok admin)
    (hw : x.adminState.lineStatus = .ok wanted)
    (hr : ∀ j admin operational, r = .ok j → j.admin.linkState = .ok admin →
      j.operational.linkState ≠ .ok operational) :
    Trail x b (spoilt (seenBefore b i admin))
      [⟨.interface x.handle, .ok i⟩, ⟨.setAdminStatus x.handle wanted, r⟩]
  | settled {i j : Interface} {admin admin' operational : LinkState} {wanted : LineStatus}
    {r : Except ClientError Peer} (hi : i.admin.linkState = .ok admin)
    (hw : x.adminState.lineStatus = .ok wanted) (ha : j.admin.linkState = .ok admin')
    (ho : j.operational.linkState = .ok operational) :
    Trail x b
      (concluded (seenAfter (seenBefore b i admin) admin' operational) (neighborOfReport r))
      [⟨.interface x.handle, .ok i⟩, ⟨.setAdminStatus x.handle wanted, .ok j⟩, ⟨.peer x.handle, r⟩]

/-! ## What is asked -/

theorem asks_switchOf {P : Query → Prop} (hP : ∀ key, P (.switches (.get key)))
    (o : SwitchInterface) (name : String) : TaskAsks P (switchOf o name) := by
  unfold switchOf
  split
  · exact .outcome _
  · refine .bind (.ask (hP _) fun r => .outcome r) fun found => ?_
    split <;> exact .outcome _

variable {answer o name b s}

theorem calls_switchOf {s' : σ} {r : Except ControllerError Switch}
    {asked : List (Program.Asked Query.Answer)}
    (h : Program.Runs answer (switchOf o name) s r s' asked) : calls asked = [] :=
  calls_eq_nil (h.within (P := fun q => ∀ address op, q ≠ .call address op)
    (asks_switchOf (fun _ => nofun) o name))

theorem runs_observeInterface {s' : σ} {r : Except ControllerError Action}
    {b' : SwitchInterfaceStatus} {asked : List (Program.Asked Query.Answer)}
    (h : Observes answer (observeInterface o name) b s r b' s' asked) :
    InterfaceExit answer o name b s r b' s' ∧ Trail o.spec b b' (calls asked) := by
  rcases h.orFail_bind_inv with ⟨e, rfl, hs, rfl⟩ | ⟨switch, s₁, t₁, _, hs, h₁, rfl⟩
  · rw [calls_switchOf hs]
    exact ⟨.noSwitch hs, .unreached⟩
  rw [calls_append, calls_switchOf hs, List.nil_append]
  rcases h₁.orFail_bind_inv with ⟨e, rfl, hc, rfl⟩ | ⟨address, s₂, _, _, hc, h₂, rfl⟩
  · obtain ⟨hclient, rfl⟩ := client_inv hc
    exact ⟨.noClient hclient, .unreached⟩
  obtain ⟨hclient, rfl⟩ := client_inv hc
  have hreach : Reaches answer o name s address s₂ := ⟨switch, s₁, _, hs, hclient⟩
  rcases h₂.reportOrFail_bind_inv with ⟨e, rfl, hi, rfl, rfl⟩ | ⟨i, s₃, _, hi, h₃, rfl⟩
  · exact ⟨.unread hreach hi, .unseen nofun⟩
  rcases h₃.convertOrFail_bind_inv with ⟨e, ha, rfl, rfl, rfl, rfl⟩ | ⟨admin, ha, h₄⟩
  · refine ⟨.unclear hreach hi ha, .unseen fun _ admin he => ?_⟩
    cases he
    rw [ha]
    nofun
  have hfinds : Finds answer o name s address i admin s₃ := ⟨⟨s₂, hreach, hi⟩, ha⟩
  have h₅ := h₄.modify_bind_inv
  rcases h₅.convertOrFail_bind_inv with ⟨e, hw, rfl, rfl, rfl, rfl⟩ | ⟨wanted, hw, h₆⟩
  · exact ⟨.unwanted hfinds hw, .unwanted ha hw⟩
  rcases h₆.reportOrFail_bind_inv with ⟨e, rfl, hj, rfl, rfl⟩ | ⟨j, s₄, _, hj, h₇, rfl⟩
  · exact ⟨.unchanged hfinds hw hj, .unsettled ha hw nofun⟩
  have hchanges : Changes answer o name s address i admin wanted j s₄ := ⟨hw, s₃, hfinds, hj⟩
  rcases h₇.convertOrFail_bind_inv with ⟨e, ha', rfl, rfl, rfl, rfl⟩ | ⟨admin', ha', h₈⟩
  · refine ⟨.unsettled hchanges (.inl ha'), .unsettled ha hw fun _ _ _ he hadmin => ?_⟩
    cases he
    cases ha'.symm.trans hadmin
  rcases h₈.convertOrFail_bind_inv with ⟨e, ho, rfl, rfl, rfl, rfl⟩ | ⟨operational, ho, h₉⟩
  · refine ⟨.unsettled hchanges (.inr ho), .unsettled ha hw fun _ _ _ he _ => ?_⟩
    cases he
    rw [ho]
    nofun
  have h₁₀ := h₉.modify_bind_inv
  have htrail (report : Except ClientError Peer) := Trail.settled (x := o.spec) (b := b) (r := report)
    ha hw ha' ho
  rcases h₁₀.orFail_bind_inv with ⟨e, rfl, hn, rfl⟩ | ⟨neighbor, s₅, _, _, hn, h₁₁, rfl⟩
  · obtain ⟨hr, -, rfl⟩ := runs_observedNeighbor hn
    refine ⟨.noNeighbor hchanges ha' ho hn, ?_⟩
    have h := htrail (answer (.call address (.peer o.spec.handle)) s₄).1
    rwa [← hr] at h
  · obtain ⟨hr, -, rfl⟩ := runs_observedNeighbor hn
    obtain ⟨rfl, rfl, rfl, rfl⟩ := h₁₁.modify_bind_inv.pure_inv
    refine ⟨.ready hchanges ha' ho hn, ?_⟩
    have h := htrail (answer (.call address (.peer o.spec.handle)) s₄).1
    rwa [← hr] at h

/-- **The comparison of an interface ends in one of these ways.** -/
theorem exit_observeInterface {s' : σ} {r : Except ControllerError Action}
    {b' : SwitchInterfaceStatus} {asked : List (Program.Asked Query.Answer)}
    (h : Observes answer (observeInterface o name) b s r b' s' asked) :
    InterfaceExit answer o name b s r b' s' := (runs_observeInterface h).1

theorem InterfaceExit.state_eq {s' : σ} {r : Except ControllerError Action}
    {b' : SwitchInterfaceStatus} (h : InterfaceExit answer o name b s r b' s') :
    (r = .ok .awaitChange ∧ b'.state = some .ready) ∨ ∃ e, r = .error e ∧ b'.state = some .failed := by
  cases h <;> first | exact .inl ⟨rfl, rfl⟩ | exact .inr ⟨_, rfl, rfl⟩

theorem InterfaceExit.conditions_eq {s' : σ} {r : Except ControllerError Action}
    {b' : SwitchInterfaceStatus} (h : InterfaceExit answer o name b s r b' s') :
    b'.conditions = b.conditions := by
  cases h <;> rfl

theorem InterfaceExit.isSome_state {s' : σ} {r : Except ControllerError Action}
    {b' : SwitchInterfaceStatus} (h : InterfaceExit answer o name b s r b' s') :
    b'.state.isSome = true := by
  rcases h.state_eq with ⟨-, hs⟩ | ⟨e, -, hs⟩ <;>
    exact Option.isSome_iff_exists.mpr ⟨_, hs⟩

/-! ## What may be asked -/

theorem asks_observedNeighbor {P : Query → Prop} {address handle : String}
    (hP : P (.call address (.peer handle))) : TaskAsks P (observedNeighbor address handle) := by
  refine .bind (.ask hP fun r => .outcome _) fun found => ?_
  split
  · exact .outcome _
  · split <;> exact .outcome _

/-- A comparison reads switches, and asks the agent. It requests no admin status of the agent but the one
that is wanted of its interface. -/
theorem asks_observeInterface_of {P : Query → Prop} (o : SwitchInterface) (name : String)
    (hget : ∀ key, P (.switches (.get key))) (hclient : ∀ switch, P (.client switch))
    (hcall : ∀ address op, (∀ handle status, op = .setAdminStatus handle status →
      handle = o.spec.handle ∧ o.spec.adminState.lineStatus = .ok status) → P (.call address op)) :
    Asks P (observeInterface o name) := by
  have hset (address : String) {status : LineStatus}
      (hw : o.spec.adminState.lineStatus = .ok status) :
      P (.call address (.setAdminStatus o.spec.handle status)) := by
    refine hcall _ _ fun handle wanted h => ?_
    cases h
    exact ⟨rfl, hw⟩
  exact .bind (.orFail (asks_switchOf hget o name)) fun _ =>
    .bind (.orFail (.ask (hclient _) fun r => .outcome r)) fun _ =>
    .bind (.reportOrFail (hcall _ _ fun _ _ => nofun)) fun _ => .bind (.convertOrFail _) fun _ =>
    .bind (.modify _) fun _ => .convertOrFail_bind fun _ hw =>
    .bind (.reportOrFail (hset _ hw)) fun _ => .bind (.convertOrFail _) fun _ =>
    .bind (.convertOrFail _) fun _ => .bind (.modify _) fun _ =>
    .bind (.orFail (asks_observedNeighbor (hcall _ _ fun _ _ => nofun))) fun _ =>
    .bind (.modify _) fun _ => .pure _

/-- What the comparison of an interface may ask: nothing about interfaces, and no change but that of its
own interface to the state that is wanted. -/
def Permitted (o : SwitchInterface) : Query → Prop
  | .interfaces _ => False
  | .call _ (.setAdminStatus handle status) =>
    handle = o.spec.handle ∧ o.spec.adminState.lineStatus = .ok status
  | _ => True

theorem asks_observeInterface (o : SwitchInterface) (name : String) :
    Asks (Permitted o) (observeInterface o name) := by
  refine asks_observeInterface_of o name (fun _ => trivial) (fun _ => trivial) fun _ op hop => ?_
  cases op with
  | setAdminStatus handle status => exact hop handle status rfl
  | _ => trivial

/-- What only reads switches and asks agents. -/
def Looks : Query → Prop
  | .switches v => ∃ key, v = .get key
  | .client _ | .call .. => True
  | .interfaces _ | .now => False

theorem looks_observeInterface (o : SwitchInterface) (name : String) :
    Asks Looks (observeInterface o name) :=
  asks_observeInterface_of o name (fun key => ⟨key, rfl⟩) (fun _ => trivial) fun _ _ _ => trivial

end SwitchFleet.Controller

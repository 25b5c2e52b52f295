import Mathlib.Data.List.Nodup
import SwitchFleet.Proofs.Client.Responses
import SwitchFleet.Proofs.Client.Transparency
import SwitchFleet.Proofs.Controller.Persistence

/-!
# What an attempt at an interface writes

An attempt at an interface calls its agent up to three times. The responses may be any, and what is
reported may not be understood.

* `Known`: the line statuses that stand for a state.
* `Sighting`: what an attempt leaves of the address, the states and the neighbor of an interface.
  **`Trail.sighting`**: every comparison leaves this, wherever it stops.
* `Wire`: a world in which agents are reached by requests.
* **`Wire.sighting_written`**: every attempt whose status is written leaves this, and marks its error.
-/

namespace SwitchFleet

namespace Controller

/-! ## What is written -/

/-- The operations that a comparison asks for at most, in this order. The admin status is changed to the
one that is wanted, if there is one. -/
def planned (x : SwitchInterfaceSpec) : List Operation :=
  .interface x.handle :: match x.adminState with
    | .up => [.setAdminStatus x.handle .up, .peer x.handle]
    | .down => [.setAdminStatus x.handle .down, .peer x.handle]
    | .unknown => []

/-- A line status that is known, and the state that it stands for. -/
inductive Known : LineStatus → LinkState → Prop
  | up : Known .up .up
  | down : Known .down .down

theorem linkState_eq_ok_iff {status : LineStatus} {state : LinkState} :
    status.linkState = .ok state ↔ Known status state := by
  constructor
  · intro h
    cases status with
    | up =>
      cases h
      exact .up
    | down =>
      cases h
      exact .down
    | unknown => cases h
  · rintro (_ | _) <;> rfl

section

variable (x : SwitchInterfaceSpec) (before status : SwitchInterfaceStatus) (ops : List Operation)
  (reported : (op : Operation) → op.Report → Prop) (missing : Operation → Prop)

/-- The agent reported what the interface is like, with an admin status that is known. -/
def Seen (i : Interface) (admin : LinkState) : Prop :=
  reported (.interface x.handle) i ∧ Known i.admin admin

/-- The agent reported what the interface is like after a change, with statuses that are known. -/
def Changed (admin operational : LinkState) : Prop :=
  ∃ wanted, ∃ j : Interface, reported (.setAdminStatus x.handle wanted) j ∧
    Known j.admin admin ∧ Known j.operational operational

/-- What an attempt at an interface that is wanted as `x` leaves, given its statuses before and after, the
operations that were asked for, and what was reported and was missing.

* No other operations are asked for than those that are planned.
* The address and the states are those that were reported before a change, if the admin status was known
  then. If it was not, they are as before.
* The states are those that were reported after a change instead, if both were known then.
* The neighbor is the peer that was reported. It is gone if the peer was missing. In every other case it
  is as before. -/
structure Sighting : Prop where
  planned : ops <+: planned x
  unseen : (∀ i admin, ¬ Seen x reported i admin) →
    status.macAddress = before.macAddress ∧ status.adminState = before.adminState ∧
      status.operationalState = before.operationalState
  seen : ∀ i admin, Seen x reported i admin → status.macAddress = i.macAddress ∧
    ((∀ admin' operational, ¬ Changed x reported admin' operational) →
      status.adminState = some admin ∧
        status.operationalState = some (if i.operational = .up then .up else .down))
  changed : ∀ admin operational, Changed x reported admin operational →
    status.adminState = some admin ∧ status.operationalState = some operational
  peer : ∀ p : Peer, reported (.peer x.handle) p → status.neighbor.macAddress = p.macAddress ∧
    status.neighbor.systemName = p.systemName ∧ status.neighbor.interfaceHandle = p.handle
  cleared : missing (.peer x.handle) → status.neighbor = ⟨"", "", ""⟩
  kept : (∀ p, ¬ reported (.peer x.handle) p) → ¬ missing (.peer x.handle) →
    status.neighbor = before.neighbor

end

/-- A report that was made by a call. -/
def Told (made : List Call) (op : Operation) (y : op.Report) : Prop := ⟨op, .ok y⟩ ∈ made

/-- A call that found something missing. -/
def Missed (made : List Call) (op : Operation) : Prop :=
  ∃ e, ⟨op, .error e⟩ ∈ made ∧ e.isNotFound = true

namespace Trail

variable {x : SwitchInterfaceSpec} {before status : SwitchInterfaceStatus} {made : List Call}
  (h : Trail x before status made)

include h

theorem planned : made.map (·.1) <+: planned x := by
  have hplanned {wanted : LineStatus} (hw : x.adminState.lineStatus = .ok wanted) :
      Controller.planned x = [.interface x.handle, .setAdminStatus x.handle wanted, .peer x.handle] := by
    unfold Controller.planned
    rcases hx : x.adminState <;> rw [hx] at hw <;> cases hw <;> rfl
  cases h with
  | unreached => exact List.nil_prefix
  | unseen hr => exact ⟨_, rfl⟩
  | unwanted hi hw => exact ⟨_, rfl⟩
  | unsettled hi hw hr =>
    rw [hplanned hw]
    exact ⟨_, rfl⟩
  | settled hi hw ha ho =>
    rw [hplanned hw]
    exact ⟨_, rfl⟩

theorem unique {c c' : Call} (hc : c ∈ made) (hc' : c' ∈ made) (hk : c.1.kind = c'.1.kind) :
    c = c' := by
  have hnodup : (made.map fun c => c.1.kind).Nodup := by cases h <;> simp [Operation.kind]
  exact List.inj_on_of_nodup_map hnodup hc hc' hk

theorem of_unseen (hunseen : ∀ i admin, ¬ Seen x (Told made) i admin) :
    status.macAddress = before.macAddress ∧ status.adminState = before.adminState ∧
      status.operationalState = before.operationalState := by
  cases h with
  | unreached => exact ⟨rfl, rfl, rfl⟩
  | unseen hr => exact ⟨rfl, rfl, rfl⟩
  | unwanted hi hw =>
    exact absurd ⟨List.mem_cons_self, linkState_eq_ok_iff.mp hi⟩ (hunseen _ _)
  | unsettled hi hw hr =>
    exact absurd ⟨List.mem_cons_self, linkState_eq_ok_iff.mp hi⟩ (hunseen _ _)
  | settled hi hw ha ho =>
    exact absurd ⟨List.mem_cons_self, linkState_eq_ok_iff.mp hi⟩ (hunseen _ _)

theorem of_seen {i : Interface} {admin : LinkState} (hseen : Seen x (Told made) i admin) :
    status.macAddress = i.macAddress ∧
      ((∀ admin' operational, ¬ Changed x (Told made) admin' operational) →
        status.adminState = some admin ∧
          status.operationalState = some (if i.operational = .up then .up else .down)) := by
  obtain ⟨htold, hknown⟩ := hseen
  have hadmin := linkState_eq_ok_iff.mpr hknown
  have hunique {j : Interface} (hj : Told made (.interface x.handle) j) : i = j := by
    cases h.unique htold hj rfl
    rfl
  cases h with
  | unreached => cases htold
  | unseen hr =>
    cases List.mem_singleton.mp htold
    exact absurd hadmin (hr i admin rfl)
  | unwanted hi hw =>
    cases hunique List.mem_cons_self
    cases hi.symm.trans hadmin
    exact ⟨rfl, fun _ => ⟨rfl, rfl⟩⟩
  | unsettled hi hw hr =>
    cases hunique List.mem_cons_self
    cases hi.symm.trans hadmin
    exact ⟨rfl, fun _ => ⟨rfl, rfl⟩⟩
  | settled hi hw ha ho =>
    cases hunique List.mem_cons_self
    exact ⟨macAddress_concluded .., fun hnone =>
      absurd ⟨_, _, .tail _ (.head _), linkState_eq_ok_iff.mp ha, linkState_eq_ok_iff.mp ho⟩
        (hnone _ _)⟩

theorem of_changed {admin operational : LinkState}
    (hchanged : Changed x (Told made) admin operational) :
    status.adminState = some admin ∧ status.operationalState = some operational := by
  obtain ⟨wanted, j, htold, hknown, hknown'⟩ := hchanged
  have hadmin := linkState_eq_ok_iff.mpr hknown
  have hoperational := linkState_eq_ok_iff.mpr hknown'
  have hunique {wanted' : LineStatus} {r : Except ClientError Interface}
      (hr : ⟨.setAdminStatus x.handle wanted', r⟩ ∈ made) : r = .ok j := by
    cases h.unique htold hr rfl
    rfl
  cases h with
  | unreached => cases htold
  | unseen hr => nomatch List.mem_singleton.mp htold
  | unwanted hi hw => nomatch List.mem_singleton.mp htold
  | unsettled hi hw hr =>
    exact absurd hoperational (hr j _ _ (hunique (.tail _ (.head _))) hadmin)
  | settled hi hw ha ho =>
    cases hunique (.tail _ (.head _))
    cases ha.symm.trans hadmin
    cases ho.symm.trans hoperational
    exact ⟨adminState_concluded .., operationalState_concluded ..⟩

theorem of_peer {r : Except ClientError Peer} (hr : ⟨.peer x.handle, r⟩ ∈ made) :
    (∀ neighbor, neighborOfReport r = .ok neighbor → status.neighbor = neighbor) ∧
      ∀ e, neighborOfReport r = .error e → status.neighbor = before.neighbor := by
  have hunique {r' : Except ClientError Peer} (hr' : ⟨.peer x.handle, r'⟩ ∈ made) : r = r' := by
    cases h.unique hr hr' rfl
    rfl
  cases h with
  | unreached => cases hr
  | unseen _ => nomatch List.mem_singleton.mp hr
  | unwanted _ _ => nomatch List.mem_singleton.mp hr
  | unsettled _ _ _ => nomatch List.mem_pair.mp hr
  | settled _ _ _ _ =>
    rw [hunique (.tail _ (.tail _ (.head _)))]
    refine ⟨fun _ hfound => ?_, fun _ hlost => ?_⟩
    · rw [hfound]
      rfl
    · rw [hlost]
      rfl

theorem of_no_peer (hnone : ∀ r, ⟨.peer x.handle, r⟩ ∉ made) : status.neighbor = before.neighbor := by
  cases h with
  | settled _ _ _ _ => exact absurd (.tail _ (.tail _ (.head _))) (hnone _)
  | _ => rfl

end Trail

/-- **Where a comparison stops**, and what is written there. -/
theorem Trail.sighting {x : SwitchInterfaceSpec} {before status : SwitchInterfaceStatus}
    {made : List Call} (h : Trail x before status made) :
    Sighting x before status (made.map (·.1)) (Told made) (Missed made) where
  planned := h.planned
  unseen := h.of_unseen
  seen _ _ hseen := h.of_seen hseen
  changed _ _ hchanged := h.of_changed hchanged
  peer p hp := by
    rw [(h.of_peer hp).1 (neighborOf p) rfl]
    exact ⟨rfl, rfl, rfl⟩
  cleared := by
    rintro ⟨e, he, hn⟩
    refine (h.of_peer he).1 .empty ?_
    dsimp only [neighborOfReport]
    rw [if_pos hn]
  kept := by
    intro hnone hfound
    by_cases hr : ∃ r, ⟨.peer x.handle, r⟩ ∈ made
    · obtain ⟨r, hr⟩ := hr
      rcases r with e | p
      · refine (h.of_peer hr).2 (.agent e) ?_
        dsimp only [neighborOfReport]
        exact if_neg fun hn => hfound ⟨e, hr, hn⟩
      · exact absurd hr (hnone p)
    · exact h.of_no_peer fun r hmem => hr ⟨r, hmem⟩

theorem Sighting.withConditions {x : SwitchInterfaceSpec} {before status : SwitchInterfaceStatus}
    {ops : List Operation} {reported : (op : Operation) → op.Report → Prop} {missing : Operation → Prop}
    (h : Sighting x before status ops reported missing) (conditions : List Condition) :
    Sighting x before { status with conditions } ops reported missing :=
  ⟨h.planned, h.unseen, h.seen, h.changed, h.peer, h.cleared, h.kept⟩

/-! ## Agents that are reached by requests -/

/-- A world with the resources of the operator, in which agents are reached by requests. -/
structure Wire (σ : Type) extends World σ where
  exchange : String → Http.Request → σ → Option Http.Response × σ
  answer_call : ∀ address op s, answer (.call address op) s = Client.perform exchange address op s

namespace Wire

variable {σ : Type} (w : Wire σ) (s : σ) (turn : Turn)

/-- The response to a call in a world, or the lack of one. -/
def response? : Query × σ → Option (Operation × Option Http.Response)
  | (.call address op, s) =>
    some (op, (w.exchange (Client.baseUrl address) (Client.request op) s).1)
  | _ => none

/-- The responses to the calls of an attempt, first one first. -/
def responses : List (Operation × Option Http.Response) :=
  ((w.task s turn).run.visited w.answer s).filterMap w.response?

/-- A response in an attempt tells a report. -/
def Tells (op : Operation) (y : op.Report) : Prop :=
  ∃ response, (op, response) ∈ w.responses s turn ∧ Client.Tells op.kind response y

/-- A response in an attempt says that something is missing. -/
def Misses (op : Operation) : Prop :=
  ∃ response, (op, response) ∈ w.responses s turn ∧ Client.Misses op.kind response

variable {w s turn}

theorem mem_responses_iff {op : Operation} {response : Option Http.Response} :
    (op, response) ∈ w.responses s turn ↔ ∃ address s',
      (.call address op, s') ∈ (w.task s turn).run.visited w.answer s ∧
        (w.exchange (Client.baseUrl address) (Client.request op) s').1 = response := by
  unfold responses
  rw [List.mem_filterMap]
  constructor
  · rintro ⟨⟨q, s'⟩, hv, hq⟩
    cases q with
    | call address op' =>
      cases hq
      exact ⟨address, s', hv, rfl⟩
    | _ => cases hq
  · rintro ⟨address, s', hv, rfl⟩
    exact ⟨_, hv, rfl⟩

theorem answer_call_fst (address : String) (op : Operation) (s' : σ) :
    (w.answer (.call address op) s').1 = Client.interpret (Client.baseUrl address) op.kind
      (w.exchange (Client.baseUrl address) (Client.request op) s').1 := by
  rw [w.answer_call]
  rfl

theorem responds_of_call {op : Operation} {r : Except ClientError op.Report}
    (h : ⟨op, r⟩ ∈ calls (w.asked s turn)) : ∃ address response,
      (op, response) ∈ w.responses s turn ∧
        Client.interpret (Client.baseUrl address) op.kind response = r := by
  obtain ⟨⟨q, reply⟩, hmem, hq⟩ := List.mem_filterMap.mp h
  cases q with
  | call address op' =>
    cases hq
    obtain ⟨s', hv, hr⟩ := Program.visited_of_mem_trace hmem
    exact ⟨address, _, mem_responses_iff.mpr ⟨address, s', hv, rfl⟩,
      (w.answer_call_fst address op s').symm.trans hr⟩
  | _ => cases hq

theorem call_of_responds {op : Operation} {response : Option Http.Response}
    (h : (op, response) ∈ w.responses s turn) : ∃ address,
      ⟨op, Client.interpret (Client.baseUrl address) op.kind response⟩ ∈ calls (w.asked s turn) := by
  obtain ⟨address, s', hv, rfl⟩ := mem_responses_iff.mp h
  refine ⟨address, List.mem_filterMap.mpr ⟨⟨.call address op, _⟩, ?_, rfl⟩⟩
  rw [← w.answer_call_fst]
  unfold World.asked
  rw [Program.trace_eq_map_visited]
  exact List.mem_map_of_mem hv

theorem told_calls : Told (calls (w.asked s turn)) = w.Tells s turn := by
  funext op y
  refine propext ⟨fun h => ?_, fun ⟨response, hmem, htells⟩ => ?_⟩
  · obtain ⟨address, response, hmem, hr⟩ := responds_of_call h
    exact ⟨response, hmem, Client.interpret_eq_ok_iff.mp hr⟩
  · obtain ⟨address, hcall⟩ := call_of_responds hmem
    rwa [Client.interpret_eq_ok_iff.mpr htells] at hcall

theorem missed_calls : Missed (calls (w.asked s turn)) = w.Misses s turn := by
  funext op
  refine propext ⟨fun ⟨e, he, hn⟩ => ?_, fun ⟨response, hmem, hmisses⟩ => ?_⟩
  · obtain ⟨address, response, hmem, hr⟩ := responds_of_call he
    exact ⟨response, hmem, Client.interpret_isNotFound_iff.mp ⟨e, hr, hn⟩⟩
  · obtain ⟨address, hcall⟩ := call_of_responds hmem
    obtain ⟨e, he, hn⟩ := Client.interpret_isNotFound_iff.mpr hmisses
    rw [he] at hcall
    exact ⟨e, hcall, hn⟩

theorem map_fst_calls :
    (calls (w.asked s turn)).map (·.1) = (w.responses s turn).map (·.1) := by
  unfold calls World.asked responses
  rw [Program.trace_eq_map_visited, List.filterMap_map, List.map_filterMap, List.map_filterMap]
  congr 1
  funext ⟨q, s'⟩
  cases q <;> rfl

/-- **What an attempt at an interface writes.** The interface has a state and our finalizer, and it is not
being deleted. If the write of its status does not fail, the status that was computed is stored. It is
ready, or an error is marked. The rest follows from the responses to the calls, wherever the attempt
stopped. -/
theorem sighting_written {key : String} {o : SwitchInterface} {before : SwitchInterfaceStatus}
    (hget : (w.interfaces s).objects.get? key = some o) (hc : interfaceKind.Compares o key before)
    (hintact : (w.asked s (.interface key)).any isFailedFlush = false) :
    ∃ outcome status,
      interfaceKind.Computes observeInterface w.answer o key s (w.after s (.interface key))
        (w.asked s (.interface key)) outcome status (.ok ()) ∧
      ((w.task s (.interface key)).run.run w.answer s).1 = interfaceKind.excuse outcome ∧
      (w.interfaces (w.after s (.interface key))).objects.get? key =
        some { o with status := some status } ∧
      ((outcome = .ok .awaitChange ∧ status.state = some .ready) ∨
        ∃ e, outcome = .error e ∧ interfaceKind.Marks status e) ∧
      Sighting o.spec before status ((w.responses s (.interface key)).map (·.1))
        (w.Tells s (.interface key)) (w.Misses s (.interface key)) := by
  rw [← told_calls, ← missed_calls, ← map_fst_calls]
  have hruns : Program.Runs w.answer (w.task s (.interface key)) s _ (w.after s (.interface key))
      (w.asked s (.interface key)) := .self (w.task s (.interface key)) s
  generalize w.asked s (.interface key) = asked at hintact hruns ⊢
  generalize w.after s (.interface key) = s' at hruns ⊢
  rw [World.task_interface hget] at hruns ⊢
  obtain ⟨outcome, computed, written, hcomp, hwritten⟩ :=
    managed_interfaceKind.computes w.keepsInterfaces hc hget hruns
  obtain ⟨status, s₁, t₁, t₂, hobs, hjudged, hflush, hasked⟩ := hcomp.parts hc
  have hok : written = .ok () := by
    rw [hasked, List.any_append, List.any_cons, Bool.or_eq_false_iff, Bool.or_eq_false_iff] at hintact
    exact Kind.flush_ok sends_interfaceKind hflush hintact.2.2
  subst hok
  obtain ⟨hr, hstored⟩ := hwritten rfl
  obtain ⟨hexit, htrail⟩ := runs_observeInterface hobs
  refine ⟨outcome, computed, hcomp, hr, hstored, ?_, ?_⟩
  · rw [hjudged]
    rcases hexit.state_eq with ⟨rfl, hstate⟩ | ⟨e, rfl, hstate⟩
    · exact .inl ⟨rfl, (lenses_interfaceKind.state_judge ..).trans hstate⟩
    · exact .inr ⟨e, rfl, (lenses_interfaceKind.marks_judge hstate ..).mpr rfl⟩
  · -- neither the question for the time nor the write of the status is a call
    have hcalls : calls asked = calls t₁ := by
      have hrest : calls (⟨.now, (w.answer .now s₁).1⟩ :: t₂) = [] := by
        refine calls_eq_nil (List.forall_mem_cons.mpr ⟨fun _ _ => nofun, fun a ha _ _ => ?_⟩)
        obtain ⟨patch, hpatch⟩ := Kind.asked_flush managed_interfaceKind.sends hflush a ha
        rw [hpatch]
        nofun
      rw [hasked, calls_append, hrest, List.append_nil]
    obtain ⟨state, hstate⟩ := Option.isSome_iff_exists.mp hexit.isSome_state
    obtain ⟨conditions, hconditions⟩ := Kind.judge_eq (k := interfaceKind) hstate
      o.metadata.generation outcome (w.answer .now s₁).1
    rw [hcalls, hjudged, hconditions]
    exact htrail.sighting.withConditions conditions

end Wire

/-! ## Responses that look alike -/

namespace Resources

/-- The answers of a world, with an agent that is reached by requests. -/
def remote (respond : Http.Request → Option Http.Response) (others : (q : Query) → q.Answer) :
    (q : Query) → q.Answer
  | .call address op => (Client.perform (fun _ r w => (respond r, w)) address op ()).1
  | q => others q

/-- The world of the resources, with an agent that is reached by requests. -/
def wire (respond : Http.Request → Option Http.Response) (others : (q : Query) → q.Answer) :
    Wire Resources where
  toWorld := world (remote respond others)
  exchange _ r t := (respond r, t)
  answer_call _ _ _ := rfl

/-- An interface that has a neighbor. -/
def befriended : SwitchInterface :=
  { unwanted with status := some { SwitchInterfaceStatus.empty with
      state := some .ready
      neighbor := ⟨"aa:bb:cc:00:00:02", "spine", "Ethernet4"⟩ } }

/-- The interface with its switch. -/
def ofBefriended : Resources :=
  ⟨ObjectStore.empty.insert "leaf" Cluster.readySwitch,
    ObjectStore.empty.insert "leaf-ethernet0" befriended⟩

/-- The report on the interface. -/
def ethernet : Interface := ⟨"Ethernet0", "aa:bb:cc:00:00:00", .up, .down⟩

/-- The responses of an agent about the interface, and about its peer. -/
def responses (response : Http.Response) : Operation.Kind → Option Http.Response
  | .interface | .setAdminStatus => some (Agent.replyTo (.interface "Ethernet0") (.ok ethernet))
  | .peer => some response
  | _ => none

/-- The responses of this agent to requests. -/
def responding (response : Http.Response) (r : Http.Request) : Option Http.Response :=
  (Operation.Kind.all.find? fun k => k.path = r.path).bind (responses response)

/-- What these responses stand for. -/
def hearing (peer : Except ClientError Peer) : (q : Query) → q.Answer
  | .call _ (.interface _) => .ok ethernet
  | .call _ (.setAdminStatus ..) => .ok ethernet
  | .call _ (.peer _) => peer
  | .call address op =>
    .error (.transport (.unreachable op.kind (Client.url (Client.baseUrl address) op.kind)))
  | q => lit q

theorem responding_request (response : Http.Response) (op : Operation) :
    responding response (Client.request op) = responses response op.kind := by
  have hfind : Operation.Kind.all.find? (fun k => k.path = op.kind.path) = some op.kind := by
    cases op.kind <;> decide
  unfold responding
  rw [Client.path_request, hfind]
  rfl

theorem remote_responding {response : Http.Response} {peer : Except ClientError Peer}
    (hpeer : ∀ base, Client.interpret base .peer (some response) = peer) :
    remote (responding response) lit = hearing peer := by
  funext q
  cases q with
  | call address op =>
    have hfst : remote (responding response) lit (.call address op) =
        Client.interpret (Client.baseUrl address) op.kind (responses response op.kind) :=
      congrArg (Client.interpret (Client.baseUrl address) op.kind) (responding_request response op)
    rw [hfst]
    cases op with
    | interface name =>
      exact Client.interpret_replyTo (Client.baseUrl address) (.interface name) (r := .ok ethernet)
        trivial
    | setAdminStatus name status =>
      exact Client.interpret_replyTo (Client.baseUrl address) (.setAdminStatus name status)
        (r := .ok ethernet) trivial
    | peer name => exact hpeer (Client.baseUrl address)
    | _ => rfl
  | _ => rfl

theorem asked_wire {response : Http.Response} {peer : Except ClientError Peer}
    (hpeer : ∀ base, Client.interpret base .peer (some response) = peer) (t : Resources)
    (turn : Turn) :
    (wire (responding response) lit).asked t turn = (world (hearing peer)).asked t turn := by
  rw [← remote_responding hpeer]
  rfl

/-- An attempt at the interface leaves it with a status. -/
def Leaves (w : Wire Resources) (status : SwitchInterfaceStatus) : Prop :=
  (w.interfaces (w.after ofBefriended (.interface "leaf-ethernet0"))).objects.get? "leaf-ethernet0" =
    some { befriended with status := some status }

/-- The response of an agent that finds no peer. -/
def absent : Http.Response := Agent.replyTo (.peer "Ethernet0") (.error (.notFound ""))

/-- Another peer of the interface. -/
def border : Peer := ⟨"Ethernet0", "aa:bb:cc:00:00:03", "border", "Ethernet8"⟩

/-- The response of an agent that finds this peer. -/
def met : Http.Response := Agent.replyTo (.peer "Ethernet0") (.ok border)

/-- The general theorem at three responses about the peer. If the agent finds another peer, this is the
neighbor. If it finds no peer, the neighbor is gone. If the response is only one of the exchange, the
neighbor is kept. -/
theorem sighting_responding :
    interfaceKind.Compares befriended "leaf-ethernet0" { SwitchInterfaceStatus.empty with
      state := some .ready, neighbor := ⟨"aa:bb:cc:00:00:02", "spine", "Ethernet4"⟩ } ∧
    (∃ status, Leaves (wire (responding met) lit) status ∧
      status.neighbor = ⟨"aa:bb:cc:00:00:03", "border", "Ethernet8"⟩) ∧
    (∃ status, Leaves (wire (responding absent) lit) status ∧ status.neighbor = .empty) ∧
    ∃ status, Leaves (wire (responding (.bare 404)) lit) status ∧
      status.neighbor = ⟨"aa:bb:cc:00:00:02", "spine", "Ethernet4"⟩ := by
  have hc : interfaceKind.Compares befriended "leaf-ethernet0" { SwitchInterfaceStatus.empty with
      state := some .ready, neighbor := ⟨"aa:bb:cc:00:00:02", "spine", "Ethernet4"⟩ } :=
    ⟨rfl, by decide, rfl, rfl, rfl⟩
  have hmet (base : String) : Client.interpret base .peer (some met) = _ :=
    Client.interpret_replyTo base (.peer "Ethernet0") (r := .ok border) trivial
  have habsent (base : String) : Client.interpret base .peer (some absent) = _ :=
    Client.interpret_replyTo base (.peer "Ethernet0") (r := .error (.notFound "")) rfl
  have hlost (base : String) : Client.interpret base .peer (some (.bare 404)) =
      .error (.transport (.refused .peer 404)) := rfl
  refine ⟨hc, ?_, ?_, ?_⟩
  · obtain ⟨-, status, -, -, hstored, -, h⟩ := (wire (responding met) lit).sighting_written
      (s := ofBefriended) rfl hc (by rw [asked_wire hmet]; rfl)
    have htold : (wire (responding met) lit).Tells ofBefriended (.interface "leaf-ethernet0")
        (.peer "Ethernet0") border := by
      rw [← Wire.told_calls, asked_wire hmet]
      exact .tail _ (.tail _ (.head _))
    obtain ⟨hmac, hsystem, hport⟩ := h.peer border htold
    refine ⟨status, hstored, ?_⟩
    rcases hneighbor : status.neighbor
    rw [hneighbor] at hmac hsystem hport
    cases hmac
    cases hsystem
    cases hport
    rfl
  · obtain ⟨-, status, -, -, hstored, -, h⟩ := (wire (responding absent) lit).sighting_written
      (s := ofBefriended) rfl hc (by rw [asked_wire habsent]; rfl)
    refine ⟨status, hstored, h.cleared ?_⟩
    rw [← Wire.missed_calls, asked_wire habsent]
    exact ⟨_, .tail _ (.tail _ (.head _)), rfl⟩
  · obtain ⟨-, status, -, -, hstored, -, h⟩ := (wire (responding (.bare 404)) lit).sighting_written
      (s := ofBefriended) rfl hc (by rw [asked_wire hlost]; rfl)
    refine ⟨status, hstored, h.kept (fun p hp => ?_) fun hp => ?_⟩
    · rw [← Wire.told_calls, asked_wire hlost] at hp
      nomatch hp
    · rw [← Wire.missed_calls, asked_wire hlost] at hp
      obtain ⟨e, he, hn⟩ := hp
      rcases he with _ | ⟨_, _ | ⟨_, _ | ⟨_, ⟨⟩⟩⟩⟩
      cases hn

end Resources

end Controller

end SwitchFleet

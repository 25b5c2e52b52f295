import SwitchFleet.Agent.Router
import SwitchFleet.Client.Call
import SwitchFleet.Proofs.Agent.AdminStatus
import SwitchFleet.Proofs.Agent.Reading
import SwitchFleet.Proofs.Device.Codecs

/-!
# Calls of an agent at work

A client that calls an agent over its protocol finds out what the agent would have said itself,
whatever the agent is answered by its device store and the kernel.

* `Agent.exchange`: the exchange with an agent in some world. `Host.serve`: with an agent at work on a
  device.
* **`fails_perform`**: no operation fails with the code of success.
* `Client.Fits`: the arguments of an operation are not too long for the agent.
* **`perform_exchange`**: a call has the outcome of the operation, and its failure is introduced by the
  name of the operation. `perform_exchange_long`: arguments that are too long are refused.
* `perform_serve`, `perform_serve_long`, `perform_ok`, `perform_keeps`: what follows for a device.
  `perform_eq_plainly`: a call without the protocol comes to the same.
* **`call_transparent`**: what a client finds out, from the outcome of the operation alone.
-/

namespace SwitchFleet

open Agent

/-- The response to a request at an agent whose questions are answered by `answer`. -/
def Agent.exchange {σ : Type} (answer : (q : Agent.Query) → σ → q.Answer × σ) (_base : String)
    (r : Http.Request) (world : σ) : Option Http.Response × σ :=
  ((respond r).run answer world).map some id

namespace Host

/-- The response to a request at an agent at work on a device. -/
def serve : String → Http.Request → Host → Option Http.Response × Host := Agent.exchange answer

/-! ## Failures -/

variable {P : Agent.Query → Prop}

theorem within_writeAdminStatus {c : Connection} {name text step : String}
    (hq : P (.command c (.setField (configuredKey name) adminField text))) :
    Within P (writeAdminStatus c name text step) :=
  within_command hq (show Status.Code.writeFailed ≠ Status.Code.success by decide)

theorem within_stateAfterChange (name : String) : Within (fun _ => True) (stateAfterChange name) :=
  (within_database trivial).bind fun _ =>
    within_command (q := .fields (stateKey name)) trivial (by decide)

theorem within_setAdminStatus (name : String) (status : LineStatus) :
    Within (fun _ => True) (setAdminStatus name status) := by
  have hcode : Status.Code.keyCheckFailed ≠ Status.Code.success := by decide
  refine (within_requireName name).bind fun _ => within_guard rfl <|
    (within_database trivial).bind fun _ => (within_command trivial hcode).bind fun _ =>
    (within_writeAdminStatus trivial).bind fun _ => (within_command trivial hcode).bind fun _ =>
    within_guard rfl <| (Program.Within.query trivial).bind fun _ => .bind ?_ fun _ => .pure _
  exact (within_stateAfterChange name).tryCatch fun _ hs =>
    (within_writeAdminStatus trivial).bind fun _ => .throw hs

/-- **Failures** are never reported with the code of success. -/
theorem fails_perform (op : Operation) : Within (fun _ => True) (perform op) := by
  by_cases hop : ∃ name status, op = .setAdminStatus name status
  · obtain ⟨name, status, rfl⟩ := hop
    exact within_setAdminStatus name status
  · exact (reads_perform fun name status ho => hop ⟨name, status, ho⟩).mono fun _ _ => trivial

end Host

namespace Client

/-- The arguments of an operation are not too long for an agent. -/
def Fits (op : Operation) : Prop := op.body.render.utf8ByteSize ≤ Http.bodyLimit

instance (op : Operation) : Decidable (Fits op) := inferInstanceAs (Decidable (_ ≤ _))

theorem path_request (op : Operation) : (request op).path = op.kind.path := by
  have hpath (k : Operation.Kind) :
      String.ofList (k.path.toList.takeWhile fun c => c != '?' && c != '#') = k.path := by
    cases k <;> decide
  exact hpath op.kind

theorem respond_request (op : Operation) :
    respond (request op) = respondTo op.kind (request op) := by
  have hhealth : op.kind.path ≠ "/health" := by cases op.kind <;> decide
  have hready : op.kind.path ≠ "/ready" := by cases op.kind <;> decide
  have hfind : Operation.Kind.all.find? (fun k => k.path = op.kind.path) = some op.kind := by
    cases op.kind <;> decide
  unfold respond
  rw [path_request, if_neg hhealth, if_neg hready, hfind]

theorem isJson_request (op : Operation) :
    (request op).contentType.any Http.MediaType.isJson = true := by
  have hjson : Http.MediaType.isJson Http.MediaType.json = true := by decide
  exact hjson

theorem decodeBody_request {op : Operation} (hf : Fits op) {α : Type} {c : Codec α} {x : α}
    (hd : c.decodeText op.body.render = .ok x) : Http.decodeBody (request op) c = .ok x := by
  have hsize : ¬ Http.bodyLimit < (request op).body.utf8ByteSize := Nat.not_lt.mpr hf
  have hbody : (request op).body = op.body.render := rfl
  unfold Http.decodeBody
  rw [isJson_request, Bool.not_true, if_neg Bool.false_ne_true, if_neg hsize, hbody, hd]
  rfl

theorem decodeBody_long {op : Operation} (hf : ¬ Fits op) {α : Type} (c : Codec α) :
    Http.decodeBody (request op) c = .error (.bare 413) := by
  have hsize : Http.bodyLimit < (request op).body.utf8ByteSize := Nat.lt_of_not_le hf
  unfold Http.decodeBody
  rw [isJson_request, Bool.not_true, if_neg Bool.false_ne_true, if_pos hsize]

theorem ofBody_setAdminStatus {ε : Type} (decode : {α : Type} → Codec α → Except ε α) :
    Operation.ofBody decode .setAdminStatus =
      (decode AdminStatusRequest.codec).map fun r => .setAdminStatus r.name r.status := rfl

theorem ofBody_interface {ε : Type} (decode : {α : Type} → Codec α → Except ε α) :
    Operation.ofBody decode .interface =
      (decode InterfaceRequest.codec).map fun r => .interface r.name := rfl

theorem ofBody_peer {ε : Type} (decode : {α : Type} → Codec α → Except ε α) :
    Operation.ofBody decode .peer =
      (decode InterfaceRequest.codec).map fun r => .peer r.name := rfl

theorem ofBody_request {op : Operation} (hf : Fits op) :
    Operation.ofBody (Http.decodeBody (request op)) op.kind = .ok op := by
  cases op with
  | deviceInfo | interfaces | ports => rfl
  | setAdminStatus name status =>
    have hd := AdminStatusRequest.lawful_codec.decodeText ⟨name, status⟩
    rw [Operation.kind, ofBody_setAdminStatus, decodeBody_request hf hd]
    rfl
  | interface name =>
    have hd := InterfaceRequest.lawful_codec.decodeText ⟨name⟩
    rw [Operation.kind, ofBody_interface, decodeBody_request hf hd]
    rfl
  | peer name =>
    have hd := InterfaceRequest.lawful_codec.decodeText ⟨name⟩
    rw [Operation.kind, ofBody_peer, decodeBody_request hf hd]
    rfl

theorem ofBody_long {op : Operation} (hf : ¬ Fits op) :
    Operation.ofBody (Http.decodeBody (request op)) op.kind = .error (.bare 413) := by
  cases op with
  | deviceInfo | interfaces | ports => exact absurd (by decide) hf
  | setAdminStatus name status =>
    rw [Operation.kind, ofBody_setAdminStatus, decodeBody_long hf]
    rfl
  | interface name =>
    rw [Operation.kind, ofBody_interface, decodeBody_long hf]
    rfl
  | peer name =>
    rw [Operation.kind, ofBody_peer, decodeBody_long hf]
    rfl

section

variable {σ : Type} (answer : (q : Agent.Query) → σ → q.Answer × σ)

/-- What an operation comes to when it is asked for directly. -/
abbrev directly (op : Operation) (world : σ) : Except Status op.Report × σ :=
  (Agent.perform op).run.run answer world

theorem exchange_request {op : Operation} (hf : Fits op) (base : String) (world : σ) :
    Agent.exchange answer base (request op) world =
      (some (replyTo op (directly answer op world).1), (directly answer op world).2) := by
  have hpost : ¬ (request op).method ≠ "POST" := fun hne => hne rfl
  unfold Agent.exchange
  rw [respond_request, respondTo, if_neg hpost, ofBody_request hf]
  simp

theorem exchange_long {op : Operation} (hf : ¬ Fits op) (base : String) (world : σ) :
    Agent.exchange answer base (request op) world = (some (.bare 413), world) := by
  have hpost : ¬ (request op).method ≠ "POST" := fun hne => hne rfl
  unfold Agent.exchange
  rw [respond_request, respondTo, if_neg hpost, ofBody_long hf]
  rfl

end

/-! ## Outcomes -/

theorem context_isOk (k : Operation.Kind) (s : Status) : (k.explain s).isOk = s.isOk := by
  unfold Operation.Kind.explain
  cases k.context? <;> rfl

theorem code_explain (k : Operation.Kind) (s : Status) : (k.explain s).code = s.code := by
  unfold Operation.Kind.explain
  cases k.context? <;> rfl

theorem isNotFound_explain (k : Operation.Kind) (s : Status) :
    (ClientError.remote (k.explain s)).isNotFound = true ↔ s.code = Status.Code.notFound := by
  simp [ClientError.isNotFound, ClientError.code?, code_explain]

/-- The outcome of an operation can be told from the reply to it. -/
theorem interpret_replyTo (base : String) (op : Operation) {r : Except Status op.Report}
    (hr : Program.Fails (fun s : Status => s.isOk = false) r) :
    interpret base op.kind (some (replyTo op r)) =
      r.mapError fun s => .remote (op.kind.explain s) := by
  have hread := (Reply.lawful_codec op.kind.lawful_codec).decodeText
    (.ofResult (r.mapError op.kind.explain))
  have hbody : (replyTo op r).body =
      ((Reply.codec op.kind.codec).encode (.ofResult (r.mapError op.kind.explain))).render := rfl
  unfold interpret
  dsimp only
  rw [if_pos (show (replyTo op r).isSuccess = true from rfl), hbody, hread]
  cases r with
  | ok x => rfl
  | error s =>
    have hs : (op.kind.explain s).isOk = false := (context_isOk op.kind s).trans hr
    change outcome op.kind ⟨op.kind.explain s, none⟩ = _
    unfold outcome Reply.result
    rw [hs]
    rfl

section

variable {σ : Type} (answer : (q : Agent.Query) → σ → q.Answer × σ)

theorem fails_directly (op : Operation) (world : σ) :
    Program.Fails (fun s : Status => s.isOk = false) (directly answer op world).1 :=
  Program.run_ends (Host.fails_perform op) world

/-- **Calls that fit.** -/
theorem perform_exchange {op : Operation} (hf : Fits op) (address : String) (world : σ) :
    perform (Agent.exchange answer) address op world =
      ((directly answer op world).1.mapError fun s => .remote (op.kind.explain s),
        (directly answer op world).2) := by
  unfold perform
  dsimp only
  rw [exchange_request answer hf,
    interpret_replyTo (baseUrl address) op (fails_directly answer op world)]

/-- **Calls that do not fit.** -/
theorem perform_exchange_long {op : Operation} (hf : ¬ Fits op) (address : String) (world : σ) :
    perform (Agent.exchange answer) address op world =
      (.error (.transport (.refused op.kind 413)), world) := by
  unfold perform
  dsimp only
  rw [exchange_long answer hf]
  rfl

end

/-! ## Devices -/

theorem perform_serve {op : Operation} (hf : Fits op) (address : String) (h : Host) :
    perform Host.serve address op h =
      ((h.attempt (Agent.perform op)).1.mapError fun s => .remote (op.kind.explain s),
        (h.attempt (Agent.perform op)).2) :=
  perform_exchange Host.answer hf address h

theorem perform_serve_long {op : Operation} (hf : ¬ Fits op) (address : String) (h : Host) :
    perform Host.serve address op h = (.error (.transport (.refused op.kind 413)), h) :=
  perform_exchange_long Host.answer hf address h

/-- What a call of a device comes to, without its protocol. -/
def plainly (op : Operation) (h : Host) : Except ClientError op.Report × Host :=
  if Fits op then
    ((h.attempt (Agent.perform op)).1.mapError fun s => .remote (op.kind.explain s),
      (h.attempt (Agent.perform op)).2)
  else (.error (.transport (.refused op.kind 413)), h)

theorem perform_eq_plainly (address : String) (op : Operation) (h : Host) :
    perform Host.serve address op h = plainly op h := by
  unfold plainly
  split
  · rename_i hf
    exact perform_serve hf address h
  · rename_i hf
    exact perform_serve_long hf address h

theorem perform_ok {op : Operation} {address : String} {h h' : Host} {x : op.Report}
    (hp : perform Host.serve address op h = (.ok x, h')) :
    h.attempt (Agent.perform op) = (.ok x, h') := by
  by_cases hf : Fits op
  · rw [perform_serve hf] at hp
    rcases hr : h.attempt (Agent.perform op) with ⟨s | y, h₁⟩ <;> rw [hr] at hp <;> cases hp
    rfl
  · rw [perform_serve_long hf] at hp
    cases hp

theorem perform_keeps {τ : Type} (view : Host → τ) (op : Operation) (address : String) (h : Host)
    (hv : view (h.attempt (Agent.perform op)).2 = view h) :
    view (perform Host.serve address op h).2 = view h := by
  by_cases hf : Fits op
  · rw [perform_serve hf]
    exact hv
  · rw [perform_serve_long hf]

/-! ## What a client finds out -/

/-- A message as it is sent, with the introduction that the operation gives it. -/
def introduced (k : Operation.Kind) (message : String) : String :=
  match k.context? with
  | none => message
  | some context => context ++ ": " ++ message

theorem explain_eq (k : Operation.Kind) (s : Status) :
    k.explain s = ⟨s.code, introduced k s.message⟩ := by
  unfold Operation.Kind.explain introduced
  cases k.context? <;> rfl

/-- **Transparency.** Whatever the agent is answered, a call leaves the world of the agent as the
operation does. It succeeds with the report of the operation, or it fails with the code of its failure
and the message of it, introduced by the operation. No failure has the code of success, no call fails
on its way, and the client sees something missing exactly if the agent does. -/
theorem call_transparent {σ : Type} (answer : (q : Agent.Query) → σ → q.Answer × σ)
    (address : String) {op : Operation} (hf : Fits op) (world : σ) :
    let direct := (Agent.perform op).run.run answer world
    let call := perform (Agent.exchange answer) address op world
    call.2 = direct.2 ∧
      (∀ x, direct.1 = .ok x → call.1 = .ok x) ∧
      (∀ s, direct.1 = .error s → s.code ≠ Status.Code.success ∧
        call.1 = .error (.remote ⟨s.code, introduced op.kind s.message⟩)) ∧
      (∀ e, call.1 = .error e → ∃ s, e = .remote s) ∧
      ((∃ e, call.1 = .error e ∧ e.isNotFound = true) ↔
        ∃ s, direct.1 = .error s ∧ s.code = Status.Code.notFound) := by
  intro direct call
  have hcall : call = (direct.1.mapError fun s => .remote (op.kind.explain s), direct.2) :=
    perform_exchange answer hf address world
  have hfails : Program.Fails (fun s : Status => s.isOk = false) direct.1 :=
    fails_directly answer op world
  refine ⟨congrArg Prod.snd hcall, ?_⟩
  rw [show call.1 = direct.1.mapError _ from congrArg Prod.fst hcall]
  rcases hr : direct.1 with s | x
  · rw [hr] at hfails
    refine ⟨fun x hx => (nomatch hx), fun s' hs => ?_, fun e he => ?_, ?_⟩
    · cases hs
      rw [← explain_eq]
      exact ⟨beq_eq_false_iff_ne.mp hfails, rfl⟩
    · cases he
      exact ⟨_, rfl⟩
    · constructor
      · rintro ⟨e, he, hn⟩
        cases he
        exact ⟨s, rfl, (isNotFound_explain op.kind s).mp hn⟩
      · rintro ⟨s', hs, hn⟩
        cases hs
        exact ⟨_, rfl, (isNotFound_explain op.kind s).mpr hn⟩
  · refine ⟨fun y hy => ?_, fun s hs => (nomatch hs), fun e he => (nomatch he), ?_⟩
    · cases hy
      rfl
    · exact iff_of_false (fun ⟨_, he, _⟩ => (nomatch he)) fun ⟨_, hs, _⟩ => (nomatch hs)

/-- A device that answers everything and stores nothing. -/
def vacant : Host := ⟨.empty, fun _ => .ok none, none, fun _ => .smooth⟩

/-- An interface that is missing, found out by a call: the failure of the agent comes with its code,
and with an introduction. -/
theorem call_vacant :
    Fits (.interface "Ethernet0") ∧
      ((Agent.interface "Ethernet0").run.run Host.answer vacant).1 =
        .error ⟨Status.Code.notFound, "interface Ethernet0 not found"⟩ ∧
      (perform (Agent.exchange Host.answer) "" (.interface "Ethernet0") vacant).1 =
        .error (.remote ⟨Status.Code.notFound,
          "failed to get interface: interface Ethernet0 not found"⟩) := by
  have hfits : Fits (.interface "Ethernet0") := by decide
  have hdirect : ((Agent.interface "Ethernet0").run.run Host.answer vacant).1 =
      .error ⟨Status.Code.notFound, "interface Ethernet0 not found"⟩ := rfl
  exact ⟨hfits, hdirect, ((call_transparent Host.answer "" hfits vacant).2.2.1 _ hdirect).2⟩

end Client

end SwitchFleet

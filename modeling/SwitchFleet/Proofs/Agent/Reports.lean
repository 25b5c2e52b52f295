import SwitchFleet.Proofs.Agent.AdminStatus
import SwitchFleet.Proofs.Agent.Reading

/-!
# What reports say about the device

* `Host.operational`, `Host.peer?`: what the store says about an interface.
* **`interface_ok`**, **`setAdminStatus_ok`**: a report on an interface, and what is stored after a
  change that succeeds.
* `PeerReport`: a peer is reported, is reported as missing, or cannot be looked for.
  **`report_peer`**: the first two tell whether the entry of the interface is complete.
-/

namespace SwitchFleet.Host

open Agent

variable {h h' : Host} {name : String}

theorem Runs.links_eq {α : Type} {t : Agent.Task α} {r : Except Status α}
    {asked : List (Program.Asked Agent.Query.Answer)} (hr : h.Runs t r h' asked) :
    h'.links = h.links := by
  have hl := h.keeps_links t
  rwa [hr.attempt_eq] at hl

/-! ## Interfaces -/

/-- The operational status of an interface in the store. -/
def operational (h : Host) (name : String) : LineStatus :=
  .ofField (Hash.text (h.content.hash (some .state) (stateKey name)) operationalField)

theorem linkAddress_ok {mac : String} {asked : List (Program.Asked Agent.Query.Answer)}
    (hr : h.Runs (linkAddress name) (.ok mac) h' asked) : h.links name = .ok (some mac) := by
  by_cases hl : ∃ mac', h.links name = .ok (some mac')
  · obtain ⟨mac', hl⟩ := hl
    cases hr.run_eq.symm.trans (runs_linkAddress hl).run_eq
    exact hl
  · obtain ⟨s, _, he⟩ := runs_linkAddress_error fun mac' hl' => hl ⟨mac', hl'⟩
    nomatch hr.run_eq.symm.trans he.run_eq

/-- **Interfaces.** An interface is reported with the address of its link, and its admin status is
known. -/
theorem interface_ok {i : Interface} {asked : List (Program.Asked Agent.Query.Answer)}
    (hr : h.Runs (Agent.interface name) (.ok i) h' asked) :
    h.links name = .ok (some i.macAddress) ∧ ∃ text, i.admin = .ofField text := by
  obtain ⟨_, _, _, _, h₁, hr⟩ := hr.bind_ok_inv
  obtain ⟨_, _, _, _, h₂, hr⟩ := hr.bind_ok_inv
  obtain ⟨_, _, _, _, h₃, hr⟩ := hr.bind_ok_inv
  obtain ⟨found, _, _, _, h₄, hr⟩ := hr.bind_ok_inv
  cases found with
  | false => nomatch hr.run_eq
  | true =>
    obtain ⟨fields, _, _, _, h₅, hr⟩ := Program.Runs.bind_ok_inv (x := Agent.observed _ name) hr
    obtain ⟨mac, _, _, _, h₆, hr⟩ := hr.bind_ok_inv
    have hl := linkAddress_ok h₆
    rw [Runs.links_eq h₅, Runs.links_eq h₄, Runs.links_eq h₃, Runs.links_eq h₂,
      Runs.links_eq h₁] at hl
    cases hr.run_eq
    exact ⟨hl, _, rfl⟩

/-- **Changes that succeed.** The wanted status is stored, and it is reported with the operational
status that is stored afterwards. -/
theorem setAdminStatus_ok {status : LineStatus} {i : Interface}
    (hr : h.attempt (setAdminStatus name status) = (.ok i, h')) :
    h'.content = h.withAdmin name status.text ∧ i = ⟨name, "", h'.operational name, status⟩ := by
  obtain ⟨r, h₁, c, asked, hruns, hc, he⟩ := h.exit_setAdminStatus name status
  obtain ⟨rfl, rfl⟩ := Prod.mk.inj (hruns.attempt_eq.symm.trans hr)
  cases he with
  | changed hw h3 hs =>
    refine ⟨hc, ?_⟩
    unfold operational
    rw [hc]
    cases hs
    rfl

/-! ## Peers -/

/-- The peer that the store describes completely, if there is one. -/
def peer? (h : Host) (name : String) : Option Peer :=
  peerOf? name (h.content.hash (some .application) (peerKey name))

/-- The ways in which the peer of an interface is reported. -/
inductive PeerReport (h : Host) (name : String) : Except Status Peer → Prop
  | found {p : Peer} (hp : h.peer? name = some p) : PeerReport h name (.ok p)
  | missing {s : Status} (hp : h.peer? name = none) (hs : s.code = Status.Code.notFound) :
    PeerReport h name (.error s)
  | failed {s : Status} (hs : s.code ≠ Status.Code.notFound) : PeerReport h name (.error s)

theorem hash_of_not_has {c : Content} {db : Option Database} {key : String}
    (hn : c.has db key = false) : c.hash db key = [] := by
  have hnone : Keyed.get? key (c.table db) = none := by
    simpa [Content.has, Keyed.has] using hn
  unfold Content.hash
  rw [hnone]
  rfl

/-- **Peers.** A peer is reported, or reported as missing, as the entry in the store is complete or
not. Every other failure is one of the store. -/
theorem report_peer (h : Host) (name : String) :
    ∃ r h' asked, h.Runs (Agent.peer name) r h' asked ∧ h.PeerReport name r := by
  by_cases hn : name = ""
  · subst hn
    exact ⟨_, h, _, .bind_error (.throw _ _), .failed (by decide)⟩
  have hname := runs_requireName (h := h) hn
  have hcode : Status.Code.badRequest ≠ Status.Code.notFound := by decide
  rcases h0 : h.fault 0 with _ | e
  case some =>
    exact ⟨_, _, _, hname.bind_ok (runs_database_fault h0).bind_error, .failed hcode⟩
  have hconnect := runs_database (h := h) Database.applicationName .application rfl h0
  rcases h1 : h.fault 1 with _ | e
  case some =>
    exact ⟨_, _, _, hname.bind_ok (hconnect.bind_ok
      (runs_command_fault (h := h.next) h1).bind_error), .failed hcode⟩
  have hhas := h.next.execute_has (h.connection Database.applicationName .application)
    (peerKey name) h1
  have hdb : some (h.connection Database.applicationName .application).database =
      some Database.application := rfl
  rcases hfound : h.content.has (some .application) (peerKey name) with _ | _
  · have hnone : h.peer? name = none := by
      unfold peer?
      rw [hash_of_not_has hfound]
      rfl
    rw [hdb, next_content, hfound] at hhas
    exact ⟨_, _, _, hname.bind_ok (hconnect.bind_ok ((runs_command hhas).bind_ok
      (.ite_pos rfl (.bind_error (.throw _ _))))), .missing hnone rfl⟩
  rw [hdb, next_content, hfound] at hhas
  have found {r h' asked} (hr : h.next.next.Runs _ r h' asked) :
      h.Runs (Agent.peer name) r h' _ :=
    hname.bind_ok (hconnect.bind_ok ((runs_command hhas).bind_ok (.ite_neg (by simp) hr)))
  rcases h2 : h.fault 2 with _ | e
  case some =>
    exact ⟨_, _, _, found (runs_command_fault (h := h.next.next) h2).bind_error, .failed hcode⟩
  have hfields := h.next.next.execute_fields
    (h.connection Database.applicationName .application) (peerKey name) h2
  rw [hdb] at hfields
  have read {r} (hr : h.next.next.next.Runs _ r h.next.next.next []) :
      h.Runs (Agent.peer name) r h.next.next.next _ := found ((runs_command hfields).bind_ok hr)
  rcases hp : h.peer? name with _ | p
  · refine ⟨.error (.notFound ("incomplete LLDP information for interface " ++ name)), _, _,
      read ?_, .missing hp rfl⟩
    unfold peer? at hp
    rw [next_content, next_content, hp]
    exact .throw _ _
  · refine ⟨.ok p, _, _, read ?_, .found hp⟩
    unfold peer? at hp
    rw [next_content, next_content, hp]
    exact .pure _ _

end SwitchFleet.Host

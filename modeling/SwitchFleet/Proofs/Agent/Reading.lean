import SwitchFleet.Proofs.Agent.Host

/-!
# Operations that only read

* `Agent.Query.Reads`: the questions that change nothing, and **`reads_perform`**: all operations but
  `setAdminStatus` ask no others.
* `keeps_content`: such a task leaves the content of the store alone. `keeps_links`: every task leaves the
  links alone.
* **`interfaces_ok_iff`**: all interfaces are listed exactly if the calls for the keys succeed and
  every key leads to a link with an address.
-/

namespace SwitchFleet

open Agent Program

/-- The questions that change nothing. -/
def Agent.Query.Reads : Agent.Query → Prop
  | .command _ (.setField ..) => False
  | _ => True

namespace Host

variable {α : Type} {P : Agent.Query → Prop}

/-! ## Questions -/

/-- A task asks only what satisfies `P`, and does not fail with a status of success. -/
abbrev Within (P : Agent.Query → Prop) (t : Agent.Task α) : Prop :=
  Program.Within P (Fails fun s : Status => s.isOk = false) t.run

theorem within_database {name : String} (hq : P (.database name)) :
    Within P (database name) :=
  (Program.Within.query hq).bind fun r => by
    cases r <;> first | exact .pure _ | exact .throw rfl

theorem within_command {c : Connection} {q : Command} {code : UInt32} {step : String}
    (hq : P (.command c q)) (hc : code ≠ Status.Code.success) :
    Within P (command c q code step) :=
  (Program.Within.query hq).bind fun r => by
    cases r <;> first | exact .pure _ | exact .throw (beq_eq_false_iff_ne.mpr hc)

theorem within_guard {p : Prop} [Decidable p] {s : Status} {t : Agent.Task α}
    (hs : s.isOk = false) (ht : Within P t) : Within P (do
      if p then throw s
      t) := by
  dsimp only
  split
  · exact .bind (.throw hs) fun _ => ht
  · exact ht

theorem within_requireName (name : String) : Within P (requireName name) := by
  unfold requireName
  split
  · exact .throw rfl
  · exact .pure _

theorem within_linkAddress {name : String} (hq : P (.link name)) :
    Within P (linkAddress name) :=
  (Program.Within.query hq).bind fun r => by
    rcases r with _ | _ | _ <;> first | exact .pure _ | exact .throw rfl

theorem within_observed {c : Connection} {name : String}
    (hq : P (.command c (.fields (stateKey name)))) : Within P (observed c name) :=
  (Program.Within.query hq).bind fun r => by cases r <;> exact .pure _

theorem reads_readInterface (state : Connection) (name : String) :
    Within Query.Reads (readInterface state name) :=
  (within_observed trivial).bind fun _ => (within_linkAddress trivial).bind fun _ => .pure _

theorem reads_readInterfaces (state : Connection) (keys : List String) :
    Within Query.Reads (readInterfaces state keys) := by
  induction keys with
  | nil => exact .pure _
  | cons key keys ih =>
    unfold readInterfaces
    split
    · exact .throw rfl
    · exact (reads_readInterface _ _).bind fun _ => ih.bind fun _ => .pure _

theorem reads_readPorts (application : Connection) (keys : List String) :
    Within Query.Reads (readPorts application keys) := by
  induction keys with
  | nil => exact .pure _
  | cons key keys ih =>
    unfold readPorts
    split
    · exact ih
    · refine (Program.Within.query trivial).bind fun r => ?_
      cases r with
      | error _ => exact ih
      | ok _ => exact ih.bind fun _ => .pure _

theorem reads_deviceInfo : Within Query.Reads deviceInfo := by
  refine (within_database trivial).bind fun _ =>
    (within_command trivial (by decide)).bind fun _ => ?_
  split
  · exact .throw rfl
  · dsimp only
    split
    · exact .pure _
    · exact (Program.Within.query trivial).bind fun r => by cases r <;> exact .pure _

theorem reads_interfaces : Within Query.Reads interfaces :=
  (within_database trivial).bind fun _ => (within_database trivial).bind fun _ =>
    (within_command trivial (by decide)).bind fun _ => reads_readInterfaces _ _

theorem reads_interface (name : String) : Within Query.Reads (interface name) := by
  refine (within_requireName name).bind fun _ => (within_database trivial).bind fun _ =>
    (within_database trivial).bind fun _ => (within_command trivial (by decide)).bind fun _ => ?_
  split
  · exact reads_readInterface _ _
  · exact .throw rfl

theorem reads_peer (name : String) : Within Query.Reads (peer name) :=
  (within_requireName name).bind fun _ => (within_database trivial).bind fun _ =>
    (within_command trivial (by decide)).bind fun _ => within_guard rfl <|
    (within_command trivial (by decide)).bind fun _ => by
      split <;> first | exact .pure _ | exact .throw rfl

theorem reads_ports : Within Query.Reads ports :=
  (within_database trivial).bind fun _ => (within_command trivial (by decide)).bind fun _ =>
    (reads_readPorts _ _).bind fun _ => .pure _

/-- **Operations that read.** Only a change of the admin status asks for a write. -/
theorem reads_perform {op : Operation} (hop : ∀ name status, op ≠ .setAdminStatus name status) :
    Within Query.Reads (perform op) := by
  cases op with
  | deviceInfo => exact reads_deviceInfo
  | interfaces => exact reads_interfaces
  | setAdminStatus name status => exact absurd rfl (hop name status)
  | interface name => exact reads_interface name
  | peer name => exact reads_peer name
  | ports => exact reads_ports

/-! ## What is left alone -/

theorem content_answer {q : Agent.Query} (hq : q.Reads) (h : Host) :
    (answer q h).2.content = h.content := by
  cases q with
  | command c q =>
    cases q with
    | setField key field value => exact hq.elim
    | _ => simp only [answer, execute]; split <;> rfl
  | _ => rfl

theorem links_answer (q : Agent.Query) (h : Host) : (answer q h).2.links = h.links := by
  cases q with
  | command c q => cases q <;> simp only [answer, execute] <;> split <;> rfl
  | _ => rfl

theorem keeps_content (h : Host) {t : Agent.Task α} (ht : Within Query.Reads t) :
    (h.attempt t).2.content = h.content :=
  run_keeps Host.content (fun _ s hq => content_answer hq s) ht h

theorem keeps_links (h : Host) (t : Agent.Task α) : (h.attempt t).2.links = h.links :=
  run_keeps Host.links (fun q s _ => links_answer q s) (.any _) h

/-! ## Links -/

/-- A key leads to a link with an address. -/
def Resolves (h : Host) (key : String) : Prop :=
  ∃ name mac, nameAfter? configuredStart key = some name ∧ h.links name = .ok (some mac)

variable {h : Host} {c : Connection} {name mac : String}

theorem runs_observed (h : Host) (c : Connection) (name : String) :
    ∃ fields asked, h.Runs (observed c name) (.ok fields) h.next asked := by
  have hq := Program.Runs.query (ε := Status) answer
    (.command c (.fields (stateKey name))) h
  rcases hf : h.fault 0 with _ | e
  · rw [answer, h.execute_fields c (stateKey name) hf] at hq
    exact ⟨_, _, hq.bind_ok (.pure _ _)⟩
  · rw [answer, h.execute_fault c (.fields (stateKey name)) hf] at hq
    exact ⟨_, _, hq.bind_ok (.pure _ _)⟩

theorem runs_linkAddress (hl : h.links name = .ok (some mac)) :
    h.Runs (linkAddress name) (.ok mac) h [⟨.link name, .ok (some mac)⟩] := by
  have hq := Program.Runs.query (ε := Status) answer (.link name) h
  rw [show answer (.link name) h = (.ok (some mac), h) from Prod.ext hl rfl] at hq
  exact hq.bind_ok (.pure _ _)

theorem runs_linkAddress_error (hl : ∀ mac, h.links name ≠ .ok (some mac)) :
    ∃ s asked, h.Runs (linkAddress name) (.error s) h asked := by
  have hq := Program.Runs.query (ε := Status) answer (.link name) h
  rcases hr : h.links name with e | _ | mac
  · rw [show answer (.link name) h = (.error e, h) from Prod.ext hr rfl] at hq
    exact ⟨_, _, hq.bind_ok (.throw _ _)⟩
  · rw [show answer (.link name) h = (.ok none, h) from Prod.ext hr rfl] at hq
    exact ⟨_, _, hq.bind_ok (.throw _ _)⟩
  · exact absurd hr (hl mac)

theorem runs_readInterface (hl : h.links name = .ok (some mac)) :
    ∃ fields asked, h.Runs (readInterface c name)
      (.ok ⟨name, mac, .ofField (Hash.text fields operationalField),
        .ofField (Hash.text fields adminField)⟩) h.next asked := by
  obtain ⟨fields, asked, hf⟩ := runs_observed h c name
  exact ⟨fields, _, hf.bind_ok (runs_linkAddress (h := h.next) hl).bind_pure⟩

theorem runs_readInterface_error (hl : ∀ mac, h.links name ≠ .ok (some mac)) :
    ∃ s asked, h.Runs (readInterface c name) (.error s) h.next asked := by
  obtain ⟨fields, _, hf⟩ := runs_observed h c name
  obtain ⟨s, _, he⟩ := runs_linkAddress_error (h := h.next) hl
  exact ⟨s, _, hf.bind_ok he.bind_error⟩

/-! ## The list of all interfaces -/

theorem runs_readInterfaces {keys : List String} (hk : ∀ key ∈ keys, h.Resolves key) :
    ∃ is h' asked, h.Runs (readInterfaces c keys) (.ok is) h' asked := by
  induction keys generalizing h with
  | nil => exact ⟨[], h, [], .pure _ _⟩
  | cons key keys ih =>
    obtain ⟨⟨name, mac, hn, hl⟩, hkeys⟩ := List.forall_mem_cons.mp hk
    obtain ⟨fields, _, hi⟩ := runs_readInterface (c := c) hl
    obtain ⟨is, h', _, his⟩ := ih (h := h.next) hkeys
    unfold readInterfaces
    rw [hn]
    exact ⟨_, h', _, hi.bind_ok his.bind_pure⟩

theorem runs_readInterfaces_error {keys : List String} {key : String} (hk : key ∈ keys)
    (hr : ¬ h.Resolves key) : ∃ s h' asked, h.Runs (readInterfaces c keys) (.error s) h' asked := by
  induction keys generalizing h with
  | nil => exact absurd hk List.not_mem_nil
  | cons first keys ih =>
    unfold readInterfaces
    rcases hn : nameAfter? configuredStart first with _ | name
    · exact ⟨_, h, [], .throw _ _⟩
    by_cases hl : ∃ mac, h.links name = .ok (some mac)
    · obtain ⟨mac, hl⟩ := hl
      have hkeys : key ∈ keys := by
        rcases List.mem_cons.mp hk with rfl | hkeys
        · exact absurd ⟨name, mac, hn, hl⟩ hr
        · exact hkeys
      obtain ⟨fields, _, hi⟩ := runs_readInterface (c := c) hl
      obtain ⟨s, h', _, he⟩ := ih (h := h.next) hkeys hr
      exact ⟨s, h', _, hi.bind_ok he.bind_error⟩
    · obtain ⟨s, _, he⟩ := runs_readInterface_error (c := c) fun mac hm => hl ⟨mac, hm⟩
      exact ⟨s, h.next, _, he.bind_error⟩

/-- Every key of an interface leads to a link with an address. -/
def Linked (h : Host) : Prop :=
  ∀ key, h.content.has configuration key = true →
    Content.matchesKey (configuredStart ++ "*") key = true → h.Resolves key

/-- **All interfaces are listed** exactly if the first three calls succeed and every key of an
interface leads to a link with an address. -/
theorem interfaces_ok_iff (h : Host) :
    (∃ is, (h.attempt interfaces).1 = .ok is) ↔
      (h.fault 0 = none ∧ h.fault 1 = none ∧ h.fault 2 = none) ∧ h.Linked := by
  have failed {s h' asked} (hr : h.Runs interfaces (.error s) h' asked) :
      ¬ ∃ is, (h.attempt interfaces).1 = .ok is := by
    have hrun : h.attempt interfaces = (.error s, h') := hr.run_eq
    simp [hrun]
  rcases h0 : h.fault 0 with _ | e
  case some => exact iff_of_false (failed (runs_database_fault h0).bind_error) (by simp)
  have hconfig := runs_database (h := h) Database.configurationName .configuration rfl h0
  rcases h1 : h.fault 1 with _ | e
  case some =>
    exact iff_of_false
      (failed (hconfig.bind_ok (runs_database_fault (h := h.next) h1).bind_error)) (by simp)
  have hstate := runs_database (h := h.next) Database.stateName .state rfl h1
  rcases h2 : h.fault 2 with _ | e
  case some =>
    exact iff_of_false (failed (hconfig.bind_ok (hstate.bind_ok
      (runs_command_fault (h := h.next.next) h2).bind_error))) (by simp)
  have hkeys := h.next.next.execute_keys (h.connection Database.configurationName .configuration)
    (configuredStart ++ "*") h2
  have hmem (key : String) :
      key ∈ ((h.next.next.turns 0).order (h.next.next.content.matching configuration
        (configuredStart ++ "*"))).mergeSort (fun a b => a ≤ b) ↔
      h.content.has configuration key = true ∧
        Content.matchesKey (configuredStart ++ "*") key = true := by
    rw [List.mem_mergeSort, ((h.next.next.turns 0).order_perm _).mem_iff, Content.mem_matching]
    rfl
  by_cases hl : h.Linked
  · obtain ⟨is, h', _, hr⟩ := runs_readInterfaces (h := h.next.next.next)
      (c := h.next.connection Database.stateName .state)
      fun key hk => hl key ((hmem key).mp hk).1 ((hmem key).mp hk).2
    have hrun : h.Runs interfaces (.ok is) h' _ :=
      hconfig.bind_ok (hstate.bind_ok ((runs_command hkeys).bind_ok hr))
    exact iff_of_true ⟨is, congrArg Prod.fst hrun.run_eq⟩ ⟨⟨rfl, rfl, rfl⟩, hl⟩
  · obtain ⟨key, hl'⟩ := Classical.not_forall.mp hl
    obtain ⟨hk, hl'⟩ := Classical.not_imp.mp hl'
    obtain ⟨hm, hr⟩ := Classical.not_imp.mp hl'
    obtain ⟨s, h', _, he⟩ := runs_readInterfaces_error (h := h.next.next.next)
      (c := h.next.connection Database.stateName .state) ((hmem key).mpr ⟨hk, hm⟩) hr
    exact iff_of_false (failed (hconfig.bind_ok (hstate.bind_ok ((runs_command hkeys).bind_ok he))))
      fun ⟨_, hl''⟩ => hl hl''

end Host

end SwitchFleet

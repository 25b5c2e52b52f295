import SwitchFleet.Proofs.Agent.Keys
import SwitchFleet.Proofs.Agent.Reports

/-!
# Interfaces that are listed

What the list of all interfaces says about the device, even if the state of some interfaces cannot be
read while it is made.

* `isRead`, `isUnread`: a read of the state of an interface that succeeds, and one that fails.
* `AdminReport`: where the admin status of a listed interface comes from.
* **`interfaces_ok`**: every listed interface is configured, and its admin status is the stored one, or
  it is down and its state could not be read.
* `admin_after`: what becomes of the admin status of an interface in an operation.
-/

namespace SwitchFleet.Host

open Agent

/-! ## Reads of the state -/

/-- A read of the state of an interface that succeeds. -/
def isRead (name : String) : Program.Asked Agent.Query.Answer → Bool
  | ⟨.command _ (.fields key), .ok _⟩ => key = stateKey name
  | _ => false

/-- A read of the state of an interface that fails. -/
def isUnread (name : String) : Program.Asked Agent.Query.Answer → Bool
  | ⟨.command _ (.fields key), .error _⟩ => key = stateKey name
  | _ => false

/-- Where the admin status of a listed interface comes from: its state was read, or it could not be
read. -/
inductive AdminReport (stored : Content) (asked : List (Program.Asked Agent.Query.Answer))
    (i : Interface) : Prop
  | read (hr : asked.any (isRead i.name) = true)
    (ha : i.admin = .ofField ((stored.field (some .state) (stateKey i.name) adminField).getD ""))
  | unread (hr : asked.any (isUnread i.name) = true) (ha : i.admin = .down)

variable {h h' : Host} {c : Connection} {name : String} {i : Interface} {stored : Content}
  {asked t₁ t₂ : List (Program.Asked Agent.Query.Answer)}

theorem AdminReport.mono (h : AdminReport stored t₁ i) (hsub : t₁ ⊆ t₂) : AdminReport stored t₂ i := by
  have hany {p : Program.Asked Agent.Query.Answer → Bool} (hp : t₁.any p = true) :
      t₂.any p = true := by
    obtain ⟨a, ha, hpa⟩ := List.any_eq_true.mp hp
    exact List.any_eq_true.mpr ⟨a, hsub ha, hpa⟩
  cases h with
  | read hr ha => exact .read (hany hr) ha
  | unread hr ha => exact .unread (hany hr) ha

theorem Runs.content_eq {α : Type} {t : Agent.Task α} {r : Except Status α} (hr : h.Runs t r h' asked)
    (ht : Within Query.Reads t) : h'.content = h.content := by
  have hc := h.keeps_content ht
  rwa [hr.attempt_eq] at hc

/-! ## The list -/

theorem ask_inv {q : Agent.Query} {r : Except Status q.Answer}
    (hr : h.Runs (Agent.ask q) r h' asked) :
    r = .ok (answer q h).1 ∧ h' = (answer q h).2 ∧ asked = [⟨q, (answer q h).1⟩] := by
  obtain ⟨hrun, rfl⟩ := hr
  obtain ⟨rfl, rfl⟩ := Prod.mk.inj hrun
  exact ⟨rfl, rfl, rfl⟩

theorem observed_ok {fields : Hash} (hc : c.database = .state)
    (hr : h.Runs (observed c name) (.ok fields) h' asked) :
    asked.any (isRead name) = true ∧ fields = h.content.hash (some .state) (stateKey name) ∨
      asked.any (isUnread name) = true ∧ fields = [] := by
  rcases hr.bind_inv with ⟨_, he, -⟩ | ⟨reply, h₁, t₁, t₂, hask, hnext, rfl⟩
  · cases he
  obtain ⟨hreply, -, rfl⟩ := ask_inv hask
  rcases hf : h.fault 0 with _ | e
  · have hread : answer (.command c (.fields (stateKey name))) h = _ :=
      h.execute_fields c (stateKey name) hf
    rw [hread, hc] at hreply
    cases hreply
    obtain ⟨hfields, -, -⟩ := hnext.pure_inv
    cases hfields
    rw [hread]
    exact .inl ⟨by simp [isRead], rfl⟩
  · have hread : answer (.command c (.fields (stateKey name))) h = _ :=
      h.execute_fault c (.fields (stateKey name)) hf
    rw [hread] at hreply
    cases hreply
    obtain ⟨hfields, -, -⟩ := hnext.pure_inv
    cases hfields
    rw [hread]
    exact .inr ⟨by simp [isUnread], rfl⟩

theorem readInterface_ok (hc : c.database = .state)
    (hr : h.Runs (readInterface c name) (.ok i) h' asked) :
    i.name = name ∧ AdminReport h.content asked i := by
  rcases hr.bind_inv with ⟨_, he, -⟩ | ⟨fields, h₁, t₁, t₂, hobserved, hlink, rfl⟩
  · cases he
  obtain ⟨mac, h₂, t₃, t₄, -, hnext⟩ := hlink.bind_ok_inv
  obtain ⟨hi, -, -⟩ := hnext.pure_inv
  cases hi
  refine ⟨rfl, .mono ?_ (List.subset_append_left t₁ t₂)⟩
  rcases observed_ok hc hobserved with ⟨hread, rfl⟩ | ⟨hunread, rfl⟩
  · exact .read hread rfl
  · exact .unread hunread rfl

theorem readInterfaces_ok {keys : List String} {is : List Interface} (hc : c.database = .state)
    (hr : h.Runs (readInterfaces c keys) (.ok is) h' asked) :
    ∀ i ∈ is, (∃ key ∈ keys, nameAfter? configuredStart key = some i.name) ∧
      AdminReport h.content asked i := by
  induction keys generalizing h h' is asked with
  | nil =>
    obtain ⟨his, -, -⟩ := hr.pure_inv
    cases his
    exact fun i hi => absurd hi List.not_mem_nil
  | cons key keys ih =>
    unfold readInterfaces at hr
    rcases hn : nameAfter? configuredStart key with _ | name
    · rw [hn] at hr
      cases hr.run_eq
    rw [hn] at hr
    rcases hr.bind_inv with ⟨_, he, -⟩ | ⟨i, h₁, t₁, t₂, hi, hafter, rfl⟩
    · cases he
    rcases hafter.bind_inv with ⟨_, he, -⟩ | ⟨rest, h₂, t₃, t₄, hrest, hlist, rfl⟩
    · cases he
    obtain ⟨his, -, -⟩ := hlist.pure_inv
    cases his
    obtain ⟨rfl, hreport⟩ := readInterface_ok hc hi
    have hcontent : h₁.content = h.content := Runs.content_eq hi (reads_readInterface c i.name)
    refine List.forall_mem_cons.mpr
      ⟨⟨⟨key, List.mem_cons_self, hn⟩, hreport.mono (List.subset_append_left ..)⟩, fun j hj => ?_⟩
    obtain ⟨⟨key', hkey, hname⟩, hreport⟩ := ih hrest j hj
    rw [hcontent] at hreport
    exact ⟨⟨key', List.mem_cons_of_mem _ hkey, hname⟩, hreport.mono
      (List.Subset.trans (List.subset_append_left t₃ t₄) (List.subset_append_right t₁ _))⟩

theorem database_ok {db : Database} (hn : Database.ofName? name = some db)
    (hr : h.Runs (database name) (.ok c) h' asked) : c.database = db ∧ h' = h.next := by
  rcases hf : h.fault 0 with _ | e
  · cases hr.run_eq.symm.trans (runs_database name db hn hf).run_eq
    exact ⟨rfl, rfl⟩
  · nomatch hr.run_eq.symm.trans (runs_database_fault hf).run_eq

theorem keys_ok {pattern : String} {code : UInt32} {step : String} {keys : List String}
    (hr : h.Runs (command c (.keys pattern) code step) (.ok keys) h' asked) :
    keys.Perm (h.content.matching (some c.database) pattern) ∧ h' = h.next := by
  rcases hf : h.fault 0 with _ | e
  · cases hr.run_eq.symm.trans (runs_command (h.execute_keys c pattern hf)).run_eq
    exact ⟨(h.turns 0).order_perm _, rfl⟩
  · nomatch hr.run_eq.symm.trans (runs_command_fault hf).run_eq

/-- **Interfaces that are listed.** -/
theorem interfaces_ok {is : List Interface} (hr : h.Runs interfaces (.ok is) h' asked) :
    ∀ i ∈ is, h.Configures i.name ∧ AdminReport h.content asked i := by
  rcases hr.bind_inv with ⟨_, he, -⟩ | ⟨config, h₁, t₁, t₂, hconfig, hafter, rfl⟩
  · cases he
  rcases hafter.bind_inv with ⟨_, he, -⟩ | ⟨state, h₂, t₃, t₄, hstate, hafter', rfl⟩
  · cases he
  rcases hafter'.bind_inv with ⟨_, he, -⟩ | ⟨keys, h₃, t₅, t₆, hkeys, hread, rfl⟩
  · cases he
  obtain ⟨hconfigdb, rfl⟩ := database_ok rfl hconfig
  obtain ⟨hstatedb, rfl⟩ := database_ok rfl hstate
  obtain ⟨hperm, rfl⟩ := keys_ok hkeys
  intro i hi
  obtain ⟨⟨key, hkey, hname⟩, hreport⟩ := readInterfaces_ok hstatedb hread i hi
  rw [List.mem_mergeSort, hperm.mem_iff, hconfigdb, Content.mem_matching] at hkey
  obtain ⟨-, rfl⟩ := nameAfter?_eq_some_iff.mp hname
  refine ⟨hkey.1, hreport.mono ?_⟩
  exact List.Subset.trans (List.subset_append_right t₅ t₆)
    (List.Subset.trans (List.subset_append_right t₃ _) (List.subset_append_right t₁ _))

/-! ## Admin statuses -/

theorem admin_withAdmin (h : Host) (changed text name : String) :
    (h.withAdmin changed text).field configuration (configuredKey name) adminField =
      if name = changed then some text else h.admin? name := by
  have hkey : configuredKey name = configuredKey changed ↔ name = changed :=
    ⟨fun he => (String.append_right_inj _).mp he, congrArg _⟩
  unfold withAdmin
  rw [Content.field_setField]
  simp only [hkey, true_and, and_true]
  rfl

/-- **What becomes of an admin status.** An operation leaves it alone, or it is a change of it, which
stores the wanted status or writes the old one back. -/
theorem admin_after (h : Host) (op : Operation) (name : String) :
    (h.after op).admin? name = h.admin? name ∨
      ∃ status, op = .setAdminStatus name status ∧
        ((h.after op).admin? name = some status.text ∨
          (h.after op).admin? name = some ((h.admin? name).getD "")) := by
  by_cases hop : ∃ changed status, op = .setAdminStatus changed status
  · obtain ⟨changed, status, rfl⟩ := hop
    obtain ⟨r, h', c, asked, hr, hc, he⟩ := h.exit_setAdminStatus changed status
    have hafter : (h.after (.setAdminStatus changed status)).content = c :=
      (congrArg (Host.content ·.2) hr.attempt_eq).trans hc
    unfold admin?
    rw [hafter]
    by_cases hname : name = changed
    · subst hname
      cases he with
      | unchecked | stuck | changed =>
        exact .inr ⟨status, rfl, .inl (by rw [admin_withAdmin, if_pos rfl])⟩
      | rolledBack => exact .inr ⟨status, rfl, .inr (by rw [admin_withAdmin, if_pos rfl]; rfl)⟩
      | _ => exact .inl rfl
    · cases he with
      | unchecked | stuck | changed | rolledBack =>
        exact .inl (by rw [admin_withAdmin, if_neg hname]; rfl)
      | _ => exact .inl rfl
  · refine .inl ?_
    unfold admin? after
    rw [h.keeps_content (reads_perform fun changed status ho => hop ⟨changed, status, ho⟩)]

end SwitchFleet.Host

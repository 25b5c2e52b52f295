import SwitchFleet.Proofs.Agent.AdminStatus
import SwitchFleet.Proofs.Agent.Names
import SwitchFleet.Proofs.Agent.Reading

/-!
# Keys of the device store

Which keys are stored after a sequence of operations. A change of the admin status writes before it
looks whether the interface exists, and a write creates its key.

* `Host.after`, `Host.afterAll`: a device after one operation, and after several ones.
* `Host.changed`: the interfaces that operations write to. **`has_afterAll`**: the keys afterwards are
  those before, and the keys of these interfaces.
* **`keys_afterAll`**: when a sequence of operations keeps all keys, and when the interfaces can still
  be listed after it.
* `keys_lost`: one change of an interface that does not exist, after which they cannot.
-/

namespace SwitchFleet.Host

open Agent

variable (h : Host)

/-- The device after an operation. -/
def after (op : Operation) : Host := (h.attempt (perform op)).2

/-- The device after several operations. -/
def afterAll : Host → List Operation → Host
  | h, [] => h
  | h, op :: ops => (h.after op).afterAll ops

/-- The interfaces that an operation writes to. -/
def changedBy : Operation → List String
  | .setAdminStatus name status => if h.Writes name status then [name] else []
  | _ => []

/-- The interfaces that several operations write to. -/
def changed : Host → List Operation → List String
  | _, [] => []
  | h, op :: ops => h.changedBy op ++ (h.after op).changed ops

/-- The same device, whose store does not fail in any call to come. -/
def smooth : Host := { h with turns := fun _ => .smooth }

/-- All interfaces can be listed as long as the store does not fail. -/
def Listable : Prop := ∃ is, (h.smooth.attempt interfaces).1 = .ok is

/-- There is a key for an interface. -/
def Configures (name : String) : Prop := h.content.has configuration (configuredKey name) = true

instance (name : String) : Decidable (h.Configures name) :=
  inferInstanceAs (Decidable (_ = true))

/-- The link of an interface has an address. -/
def HasLink (name : String) : Prop := ∃ mac, h.links name = .ok (some mac)

/-! ## Keys after operations -/

theorem has_withAdmin (name text : String) (db : Option Database) (key : String) :
    (h.withAdmin name text).has db key = true ↔
      h.content.has db key = true ∨ db = configuration ∧ key = configuredKey name := by
  simp [withAdmin, or_comm]

theorem has_setAdminStatus (name : String) (status : LineStatus) (db : Option Database)
    (key : String) :
    (h.attempt (setAdminStatus name status)).2.content.has db key = true ↔
      h.content.has db key = true ∨
        h.Writes name status ∧ db = configuration ∧ key = configuredKey name := by
  obtain ⟨r, h', c, asked, hr, hc, he⟩ := h.exit_setAdminStatus name status
  rw [hr.attempt_eq, hc]
  cases he with
  | noName hn => exact (or_iff_left fun hk => hk.1.named hn).symm
  | noStatus _ hs => exact (or_iff_left fun hk => hk.1.known hs).symm
  | noConnection h0 => exact (or_iff_left fun hk => by simpa [h0] using hk.1.connected).symm
  | unread h1 => exact (or_iff_left fun hk => by simpa [h1] using hk.1.read).symm
  | unwritten h2 => exact (or_iff_left fun hk => by simpa [h2] using hk.1.written).symm
  | unchecked hw | rolledBack hw | stuck hw | changed hw =>
    rw [has_withAdmin, and_iff_right hw]

theorem has_after (op : Operation) (db : Option Database) (key : String) :
    (h.after op).content.has db key = true ↔
      h.content.has db key = true ∨
        ∃ name ∈ h.changedBy op, db = configuration ∧ key = configuredKey name := by
  by_cases hop : ∃ name status, op = .setAdminStatus name status
  · obtain ⟨name, status, rfl⟩ := hop
    refine (h.has_setAdminStatus name status db key).trans (or_congr_right ?_)
    unfold changedBy
    by_cases hw : h.Writes name status <;> simp [hw]
  · have hreads := reads_perform fun name status ho => hop ⟨name, status, ho⟩
    have hnone : h.changedBy op = [] := by
      cases op <;> first | rfl | exact absurd ⟨_, _, rfl⟩ hop
    unfold after
    rw [h.keeps_content hreads, hnone]
    simp

/-- **Keys after operations.** They are those before, and those that were written. -/
theorem has_afterAll (ops : List Operation) (db : Option Database) (key : String) :
    (h.afterAll ops).content.has db key = true ↔
      h.content.has db key = true ∨
        ∃ name ∈ h.changed ops, db = configuration ∧ key = configuredKey name := by
  induction ops generalizing h with
  | nil => simp [afterAll, changed]
  | cons op ops ih =>
    rw [afterAll, ih, has_after, or_assoc, changed]
    simp only [List.mem_append, or_and_right, exists_or]

theorem links_afterAll (ops : List Operation) : (h.afterAll ops).links = h.links := by
  induction ops generalizing h with
  | nil => rfl
  | cons op ops ih => exact (ih (h.after op)).trans (h.keeps_links (perform op))

theorem writes_of_mem_changedBy {op : Operation} {name : String} (hm : name ∈ h.changedBy op) :
    ∃ status, h.Writes name status := by
  cases op with
  | setAdminStatus name' status =>
    change name ∈ if h.Writes name' status then [name'] else [] at hm
    by_cases hw : h.Writes name' status
    · rw [if_pos hw] at hm
      exact ⟨status, List.mem_singleton.mp hm ▸ hw⟩
    · rw [if_neg hw] at hm
      exact absurd hm List.not_mem_nil
  | _ => exact absurd hm List.not_mem_nil

theorem named_of_mem_changed {ops : List Operation} {name : String} (hm : name ∈ h.changed ops) :
    name ≠ "" := by
  induction ops generalizing h with
  | nil => exact absurd hm List.not_mem_nil
  | cons op ops ih =>
    rcases List.mem_append.mp hm with hm | hm
    · obtain ⟨status, hw⟩ := h.writes_of_mem_changedBy hm
      exact hw.named
    · exact ih _ hm

/-! ## Interfaces after operations -/

theorem sameKeys_afterAll (ops : List Operation) :
    h.content.SameKeys (h.afterAll ops).content ↔ ∀ name ∈ h.changed ops, h.Configures name := by
  constructor
  · intro hs name hn
    have hk := (h.has_afterAll ops configuration (configuredKey name)).mpr
      (.inr ⟨name, hn, rfl, rfl⟩)
    rwa [hs] at hk
  · intro hc db key
    refine Bool.eq_iff_iff.mpr ((h.has_afterAll ops db key).trans (or_iff_left_of_imp ?_))
    rintro ⟨name, hn, rfl, rfl⟩
    exact hc name hn

theorem listable_iff : h.Listable ↔ h.Linked :=
  h.smooth.interfaces_ok_iff.trans (and_iff_right ⟨rfl, rfl, rfl⟩)

theorem nameAfter_configuredKey {name : String} (hn : name ≠ "") :
    nameAfter? configuredStart (configuredKey name) = some name :=
  nameAfter?_eq_some_iff.mpr ⟨hn, rfl⟩

theorem matches_configuredKey (name : String) :
    Content.matchesKey (configuredStart ++ "*") (configuredKey name) = true :=
  matchesKey_append_star.mpr ⟨name, rfl⟩

theorem listable_afterAll (ops : List Operation) :
    (h.afterAll ops).Listable ↔ h.Listable ∧ ∀ name ∈ h.changed ops, h.HasLink name := by
  rw [listable_iff, listable_iff]
  have hres (key : String) : (h.afterAll ops).Resolves key ↔ h.Resolves key := by
    unfold Resolves
    rw [links_afterAll]
  constructor
  · intro hl
    refine ⟨fun key hk hm => (hres key).mp (hl key ((h.has_afterAll ops _ _).mpr (.inl hk)) hm), ?_⟩
    intro name hn
    have hk := (h.has_afterAll ops configuration (configuredKey name)).mpr
      (.inr ⟨name, hn, rfl, rfl⟩)
    obtain ⟨name', mac, hname, hlink⟩ := (hres _).mp (hl _ hk (matches_configuredKey name))
    rw [nameAfter_configuredKey (h.named_of_mem_changed hn)] at hname
    cases hname
    exact ⟨mac, hlink⟩
  · rintro ⟨hl, hlinks⟩ key hk hm
    refine (hres key).mpr ?_
    rcases (h.has_afterAll ops _ _).mp hk with hk | ⟨name, hn, -, rfl⟩
    · exact hl key hk hm
    · obtain ⟨mac, hlink⟩ := hlinks name hn
      exact ⟨name, mac, nameAfter_configuredKey (h.named_of_mem_changed hn), hlink⟩

/-! ## What becomes of the keys -/

theorem setAdminStatus_ne_notFound (name : String) (status : LineStatus) (message : String) :
    (h.attempt (setAdminStatus name status)).1 ≠ .error (.notFound message) := by
  obtain ⟨r, h', c, asked, hr, hc, he⟩ := h.exit_setAdminStatus name status
  rw [hr.attempt_eq]
  rintro rfl
  exact absurd he.code_mem (by simp [Status.notFound, Status.Code.notFound, Status.Code.badRequest,
    Status.Code.writeFailed, Status.Code.keyCheckFailed])

/-- What is stored is the same after a change of an interface without a key exactly if the change
does not come as far as writing. -/
theorem setAdminStatus_content_iff {name : String} (hn : ¬ h.Configures name)
    (status : LineStatus) :
    (h.attempt (setAdminStatus name status)).2.content = h.content ↔ ¬ h.Writes name status := by
  constructor
  · intro hc hw
    have hk := (h.has_setAdminStatus name status configuration (configuredKey name)).mpr
      (.inr ⟨hw, rfl, rfl⟩)
    rw [hc] at hk
    exact hn hk
  · intro hw
    obtain ⟨r, h', c, asked, hr, hc, he⟩ := h.exit_setAdminStatus name status
    rw [hr.attempt_eq]
    refine hc.trans ?_
    cases he with
    | unchecked hw' | rolledBack hw' | stuck hw' | changed hw' => exact absurd hw' hw
    | _ => rfl

/-- **What becomes of the keys.** A sequence of operations keeps all keys exactly if it writes to
interfaces with a key only, and all interfaces can be listed after it exactly if they could be listed
before and it writes to interfaces with a link only. A change never reports that there is no such
interface, and changes what is stored whenever it comes as far as writing. -/
theorem keys_afterAll (ops : List Operation) :
    (h.content.SameKeys (h.afterAll ops).content ↔ ∀ name ∈ h.changed ops, h.Configures name) ∧
      ((h.afterAll ops).Listable ↔ h.Listable ∧ ∀ name ∈ h.changed ops, h.HasLink name) ∧
      ∀ name status,
        (∀ message, (h.attempt (setAdminStatus name status)).1 ≠ .error (.notFound message)) ∧
        (h.Configures name ∨
          ((h.attempt (setAdminStatus name status)).2.content = h.content ↔
            ¬ h.Writes name status)) := by
  refine ⟨h.sameKeys_afterAll ops, h.listable_afterAll ops, fun name status => ⟨?_, ?_⟩⟩
  · exact h.setAdminStatus_ne_notFound name status
  · by_cases hc : h.Configures name
    · exact .inl hc
    · exact .inr (h.setAdminStatus_content_iff hc status)

/-- A device with one interface. -/
def single : Host where
  content := Content.empty.setFields configuration "PORT|Ethernet0" [("admin_status", "up")]
  links name := if name = "Ethernet0" then .ok (some "aa:bb:cc:00:00:00") else .error (.missing name)
  manifest := none
  turns _ := .smooth

theorem listable_single : single.Listable := by
  refine single.listable_iff.mpr fun key hk _ => ?_
  have htable : single.content.table configuration =
      [(configuredKey "Ethernet0", [("admin_status", "up")])] := rfl
  have hkey : key = configuredKey "Ethernet0" := Decidable.byContradiction fun hne =>
    absurd hk (by simp [Content.has, Keyed.has, htable, Keyed.get?, hne])
  exact ⟨"Ethernet0", _, hkey ▸ nameAfter_configuredKey (by decide), rfl⟩

/-- **Keys that get lost sight of.** All interfaces can be listed. A change of an interface that does
not exist succeeds and creates its key, and then they cannot be listed any more. -/
theorem keys_lost :
    single.Listable ∧ ¬ single.Configures "Ethernet8" ∧
      (single.attempt (setAdminStatus "Ethernet8" .up)).1 = .ok ⟨"Ethernet8", "", .down, .up⟩ ∧
      ¬ single.content.SameKeys (single.afterAll [.setAdminStatus "Ethernet8" .up]).content ∧
      ¬ (single.afterAll [.setAdminStatus "Ethernet8" .up]).Listable := by
  have hnot : ¬ single.Configures "Ethernet8" := by decide
  have hlink : ¬ single.HasLink "Ethernet8" := by
    rintro ⟨mac, hm⟩
    cases hm
  have hmem : "Ethernet8" ∈ single.changed [.setAdminStatus "Ethernet8" .up] := by decide
  refine ⟨listable_single, hnot, rfl, fun hs => ?_, fun hl => ?_⟩
  · exact hnot ((single.sameKeys_afterAll _).mp hs _ hmem)
  · exact hlink (((single.listable_afterAll _).mp hl).2 _ hmem)

end SwitchFleet.Host

import SwitchFleet.Proofs.Agent.Manifest
import SwitchFleet.Proofs.Agent.Reading

/-!
# The identity of a device

What is reported about a device, from its store and from its version manifest.

* `Host.Identifies`: the value of a field of the identity. A value in the store counts, unless it is
  empty; then the last line of the manifest for this field counts.
* `identifies_iff`: there is one such value for each field.
* **`deviceInfo_iff`**: when the identity is reported, and what it is.
-/

namespace SwitchFleet.Host

open Agent

variable (h : Host)

/-- A field of the identity in the store. -/
def identity? (field : String) : Option String :=
  h.content.field configuration identityKey field

/-- A field of the identity has no value in the store, or the empty one. -/
def Lacks (field : String) : Prop := h.identity? field = none ∨ h.identity? field = some ""

/-- The value of a field of the identity: the one in the store, or the one in the manifest, or the empty
text. -/
inductive Identifies (field : String) : String → Prop
  | stored {value : String} (found : h.identity? field = some value) (filled : value ≠ "") :
    Identifies field value
  | listed {text value : String} (lacks : h.Lacks field) (read : h.manifest = some text)
    (last : Manifest.SaysLast text field value) : Identifies field value
  | missing (lacks : h.Lacks field)
    (silent : ∀ text, h.manifest = some text → ∀ value, ¬ Manifest.SaysLast text field value) :
    Identifies field ""

/-- What is reported about a device. -/
structure Identity (d : Device) : Prop where
  macAddress : h.identity? "mac" = some d.macAddress
  hardwareSku : h.Identifies "hwsku" d.hardwareSku
  osVersion : h.Identifies "sonic_os_version" d.osVersion
  asicType : h.Identifies "asic_type" d.asicType
  readiness : d.readiness = Device.ready

/-! ## Fields -/

/-- The entries of the manifest, none if it cannot be read. -/
def entries : Keyed String := (h.manifest.map Manifest.parse).getD []

theorem get?_entries {field value : String} : h.entries.get? field = some value ↔
    ∃ text, h.manifest = some text ∧ Manifest.SaysLast text field value := by
  unfold entries
  rcases h.manifest with _ | text
  · simp
  · rw [Option.map_some, Option.getD_some, Manifest.get?_parse_iff]
    simp

/-- The value that is reported for a field. -/
def reported (field : String) : String := orEntry h.entries field ((h.identity? field).getD "")

theorem reported_of_lacks {field : String} (hl : h.Lacks field) :
    h.reported field = (h.entries.get? field).getD "" := by
  have hempty : (h.identity? field).getD "" = "" := by
    rcases hl with hl | hl <;> rw [hl] <;> rfl
  unfold reported
  rw [hempty]
  rfl

theorem reported_of_filled {field value : String} (hf : h.identity? field = some value)
    (hne : value ≠ "") : h.reported field = value := by
  unfold reported orEntry
  rw [hf, Option.getD_some, if_neg (by simpa using hne)]

variable {h} in
theorem Identifies.eq_reported {field value : String} (hv : h.Identifies field value) :
    value = h.reported field := by
  cases hv with
  | stored found filled => exact (h.reported_of_filled found filled).symm
  | listed lacks read last =>
    rw [h.reported_of_lacks lacks, h.get?_entries.mpr ⟨_, read, last⟩]
    rfl
  | missing lacks silent =>
    rw [h.reported_of_lacks lacks]
    rcases he : h.entries.get? field with _ | value
    · rfl
    · obtain ⟨text, hm, hs⟩ := h.get?_entries.mp he
      exact absurd hs (silent text hm value)

theorem identifies_reported (field : String) : h.Identifies field (h.reported field) := by
  by_cases hl : h.Lacks field
  · rw [h.reported_of_lacks hl]
    rcases he : h.entries.get? field with _ | value
    · refine .missing hl fun text hm value hs => ?_
      cases he.symm.trans (h.get?_entries.mpr ⟨text, hm, hs⟩)
    · obtain ⟨text, hm, hs⟩ := h.get?_entries.mp he
      exact .listed hl hm hs
  · rcases hf : h.identity? field with _ | value
    · exact absurd (.inl hf) hl
    · have hne : value ≠ "" := fun he => hl (.inr (he ▸ hf))
      rw [h.reported_of_filled hf hne]
      exact .stored hf hne

/-- **There is one value for each field.** -/
theorem identifies_iff {field value : String} : h.Identifies field value ↔ value = h.reported field :=
  ⟨Identifies.eq_reported, fun he => he ▸ h.identifies_reported field⟩

/-! ## The report -/

/-- Nothing is taken from the manifest for a device that is complete. -/
theorem completed_of_isComplete {d : Device} (hd : isComplete d = true) (manifest : Keyed String) :
    completed manifest d = d := by
  unfold isComplete at hd
  simp only [Bool.and_eq_true, Bool.not_eq_true'] at hd
  obtain ⟨⟨hsku, hos⟩, hasic⟩ := hd
  simp [completed, orEntry, hsku, hos, hasic]

theorem completed_nil (d : Device) : completed [] d = d := by
  have hkept (key text : String) : orEntry [] key text = text := by
    unfold orEntry
    split
    · rename_i he
      exact (String.isEmpty_iff.mp he).symm
    · rfl
  unfold completed
  rw [hkept, hkept, hkept]

/-- The device that is reported with a MAC address. -/
def report (macAddress : String) : Device :=
  ⟨macAddress, h.reported "hwsku", h.reported "sonic_os_version", h.reported "asic_type", Device.ready⟩

theorem completed_deviceOf (mac : String) :
    completed h.entries (deviceOf mac (h.content.hash configuration identityKey)) = h.report mac := rfl

theorem runs_completed (d : Device) : ∃ asked, h.Runs (do
    if isComplete d then return d
    else
      match ← ask .manifest with
      | some text => return completed (Manifest.parse text) d
      | none => return d) (.ok (completed h.entries d)) h asked := by
  by_cases hd : isComplete d = true
  · rw [completed_of_isComplete hd]
    exact ⟨_, .ite_pos hd (.pure d h)⟩
  · have hq := Program.Runs.query (ε := Status) answer .manifest h
    refine ⟨_ ++ [], .ite_neg hd (hq.bind_ok ?_)⟩
    unfold entries
    rw [show (answer .manifest h).1 = h.manifest from rfl]
    rcases h.manifest with _ | text
    · rw [Option.map_none, Option.getD_none, completed_nil]
      exact .pure d h
    · exact .pure _ h

theorem execute_identity (c : Connection) (hc : c.database = .configuration) (h1 : h.fault 1 = none) :
    h.next.execute c (.fields identityKey) =
      (.ok (h.content.hash configuration identityKey), h.next.next) := by
  rw [h.next.execute_fields c identityKey h1, hc]
  rfl

theorem runs_deviceInfo {mac : String} (h0 : h.fault 0 = none) (h1 : h.fault 1 = none)
    (hmac : h.identity? "mac" = some mac) :
    ∃ asked, h.Runs deviceInfo (.ok (h.report mac)) h.next.next asked := by
  have hconnect := runs_database (h := h) Database.configurationName .configuration rfl h0
  have hread := h.execute_identity (h.connection Database.configurationName .configuration) rfl h1
  obtain ⟨asked, hr⟩ := h.next.next.runs_completed
    (deviceOf mac (h.content.hash configuration identityKey))
  refine ⟨_ ++ (_ ++ asked), hconnect.bind_ok ((runs_command hread).bind_ok ?_)⟩
  rw [show completed h.next.next.entries _ = h.report mac from h.completed_deviceOf mac] at hr
  rw [show Keyed.get? "mac" _ = some mac from hmac]
  exact hr

theorem runs_deviceInfo_error (h0 : h.fault 0 = none) (h1 : h.fault 1 = none)
    (hmac : h.identity? "mac" = none) : ∃ asked, h.Runs deviceInfo
      (.error (.notFound "missing or invalid MAC address")) h.next.next asked := by
  have hconnect := runs_database (h := h) Database.configurationName .configuration rfl h0
  have hread := h.execute_identity (h.connection Database.configurationName .configuration) rfl h1
  refine ⟨_ ++ (_ ++ []), hconnect.bind_ok ((runs_command hread).bind_ok ?_)⟩
  rw [show Keyed.get? "mac" _ = none from hmac]
  exact .throw _ _

theorem deviceInfo_fails (hn : ¬ (h.fault 0 = none ∧ h.fault 1 = none ∧ (h.identity? "mac").isSome)) :
    ∃ e, (h.attempt deviceInfo).1 = .error e := by
  have failed {e h' asked} (hr : h.Runs deviceInfo (.error e) h' asked) :
      ∃ e, (h.attempt deviceInfo).1 = .error e := ⟨e, congrArg Prod.fst hr.run_eq⟩
  rcases h0 : h.fault 0 with _ | e
  case some => exact failed (runs_database_fault h0).bind_error
  have hconnect := runs_database (h := h) Database.configurationName .configuration rfl h0
  rcases h1 : h.fault 1 with _ | e
  case some => exact failed (hconnect.bind_ok (runs_command_fault (h := h.next) h1).bind_error)
  obtain ⟨asked, hr⟩ := h.runs_deviceInfo_error h0 h1 (by simpa [h0, h1] using hn)
  exact failed hr

theorem eq_report_iff {d : Device} :
    h.Identity d ↔ h.identity? "mac" = some d.macAddress ∧ d = h.report d.macAddress := by
  obtain ⟨mac, sku, os, asic, readiness⟩ := d
  constructor
  · rintro ⟨hmac, hsku, hos, hasic, hready⟩
    refine ⟨hmac, ?_⟩
    rw [report, Device.mk.injEq]
    exact ⟨rfl, h.identifies_iff.mp hsku, h.identifies_iff.mp hos, h.identifies_iff.mp hasic, hready⟩
  · rintro ⟨hmac, hd⟩
    obtain ⟨-, rfl, rfl, rfl, rfl⟩ := Device.mk.inj hd
    exact ⟨hmac, h.identifies_iff.mpr rfl, h.identifies_iff.mpr rfl, h.identifies_iff.mpr rfl, rfl⟩

/-- **The identity of a device** is reported exactly if the store can be reached, its fields can be read,
and there is a MAC address among them. It is the only device with this MAC address whose other fields have
the values of the store or, in their place, of the manifest. -/
theorem deviceInfo_iff :
    ((∃ d, (h.attempt deviceInfo).1 = .ok d) ↔
      h.fault 0 = none ∧ h.fault 1 = none ∧ ∃ mac, h.identity? "mac" = some mac) ∧
    ∀ d, (h.attempt deviceInfo).1 = .ok d ↔ h.fault 0 = none ∧ h.fault 1 = none ∧ h.Identity d := by
  by_cases hs : h.fault 0 = none ∧ h.fault 1 = none ∧ (h.identity? "mac").isSome
  · obtain ⟨h0, h1, hsome⟩ := hs
    obtain ⟨mac, hmac⟩ := Option.isSome_iff_exists.mp hsome
    obtain ⟨asked, hr⟩ := h.runs_deviceInfo h0 h1 hmac
    have hok : (h.attempt deviceInfo).1 = .ok (h.report mac) := congrArg Prod.fst hr.run_eq
    refine ⟨iff_of_true ⟨_, hok⟩ ⟨h0, h1, mac, hmac⟩, fun d => ?_⟩
    rw [hok, eq_report_iff, hmac]
    constructor
    · intro he
      cases he
      exact ⟨h0, h1, rfl, rfl⟩
    · rintro ⟨-, -, he, hd⟩
      rw [hd, Option.some.inj he]
  · obtain ⟨e, he⟩ := h.deviceInfo_fails hs
    rw [he]
    refine ⟨iff_of_false nofun ?_, fun d => iff_of_false nofun ?_⟩
    · rintro ⟨h0, h1, mac, hmac⟩
      exact hs ⟨h0, h1, Option.isSome_of_eq_some hmac⟩
    · rintro ⟨h0, h1, hd⟩
      exact hs ⟨h0, h1, Option.isSome_of_eq_some hd.macAddress⟩

end SwitchFleet.Host

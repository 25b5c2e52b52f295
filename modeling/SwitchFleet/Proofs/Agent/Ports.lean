import Mathlib.Data.List.Sort
import SwitchFleet.Proofs.Agent.Names
import SwitchFleet.Proofs.Agent.Steady
import SwitchFleet.Proofs.Text.ByteOrder

/-!
# The list of physical ports

What the list of ports says about a device at rest, whatever its table of ports holds.

* `Steady.HasPort`: a physical port of the device. Its entry can be read and names it as its own parent.
* `attempt_ports`: the list is what the keys lead to, in the order of the names.
* **`ports_exact`**: every physical port is listed once, in the order of the bytes of the names, and
  nothing else is. Entries that are the same on two devices are listed alike, whatever becomes of the
  other ones.
-/

namespace SwitchFleet.Steady

open Agent

/-- The database of ports. -/
abbrev application : Option Database := some .application

/-- The key of the entry of a port. -/
def portKey (name : String) : String := portStart ++ name

variable (s s' : Steady)

/-- A field of the entry of a port. -/
def portField? (name field : String) : Option String :=
  s.content.field application (portKey name) field

/-- A port is labelled with its alias, or with its name if it has none. -/
def Labelled (label? : Option String) (p : Port) : Prop :=
  label? = some p.label ∧ p.label ≠ "" ∨ (label? = none ∨ label? = some "") ∧ p.label = p.name

/-- A physical port of the device. -/
structure HasPort (p : Port) : Prop where
  named : p.name ≠ ""
  stored : s.content.has application (portKey p.name) = true
  readable : s.unread .application (portKey p.name) = none
  parent : s.portField? p.name "parent_port" = some p.name
  label : Labelled (s.portField? p.name "alias") p

/-- The entry of a port is the same on two devices: it exists, it can be read, and it has a field on both
of them or on none. -/
structure SameEntry (name : String) : Prop where
  stored : s'.content.has application (portKey name) = s.content.has application (portKey name)
  readable : s'.unread .application (portKey name) = none ↔ s.unread .application (portKey name) = none
  fields : ∀ field, s'.portField? name field = s.portField? name field

variable {s s'} in
theorem HasPort.of_sameEntry {p : Port} (h : s.HasPort p) (he : s.SameEntry s' p.name) :
    s'.HasPort p := by
  refine ⟨h.named, he.stored.trans h.stored, he.readable.mpr h.readable, ?_, ?_⟩
  · rw [he.fields]
    exact h.parent
  · rw [he.fields]
    exact h.label

variable {s s'} in
theorem SameEntry.symm {name : String} (h : s.SameEntry s' name) : s'.SameEntry s name :=
  ⟨h.stored.symm, h.readable.symm, fun field => (h.fields field).symm⟩

/-! ## Entries -/

/-- The port that is listed for a key, if there is one. -/
def portAt? (key : String) : Option Port :=
  match nameAfter? portStart key, s.unread .application key with
  | some name, none => portOf? name (s.content.hash application key)
  | _, _ => none

theorem labelled_iff {label? : Option String} {p : Port} :
    Labelled label? p ↔ p.label = if (label?.getD "").isEmpty then p.name else label?.getD "" := by
  unfold Labelled
  rcases label? with _ | label
  · simp
  · by_cases hl : label = ""
    · subst hl
      simp
    · simpa [hl] using ⟨fun h => h.1.symm, fun h => ⟨h.symm, h ▸ hl⟩⟩

theorem portOf?_eq_some_iff {name : String} {fields : Hash} {p : Port} :
    portOf? name fields = some p ↔ p.name = name ∧ Keyed.get? "parent_port" fields = some name ∧
      Labelled (Keyed.get? "alias" fields) p := by
  obtain ⟨n, l⟩ := p
  rw [labelled_iff]
  unfold portOf? Hash.text
  split
  · rename_i hparent
    simp only [Option.some.injEq, Port.mk.injEq, hparent, true_and]
    constructor
    · rintro ⟨rfl, rfl⟩
      exact ⟨rfl, rfl⟩
    · rintro ⟨rfl, rfl⟩
      exact ⟨rfl, rfl⟩
  · rename_i hparent
    exact iff_of_false nofun fun h => hparent h.2.1

theorem portAt?_eq_some_iff {key : String} {p : Port} :
    s.portAt? key = some p ↔ key = portKey p.name ∧ p.name ≠ "" ∧
      s.unread .application (portKey p.name) = none ∧
      portOf? p.name (s.content.hash application (portKey p.name)) = some p := by
  unfold portAt?
  constructor
  · intro h
    split at h
    · rename_i name hname hread
      obtain ⟨hn, rfl⟩ := nameAfter?_eq_some_iff.mp hname
      obtain ⟨rfl, -⟩ := portOf?_eq_some_iff.mp h
      exact ⟨rfl, hn, hread, h⟩
    · cases h
  · rintro ⟨rfl, hn, hread, hp⟩
    have hname : nameAfter? portStart (portKey p.name) = some p.name :=
      nameAfter?_eq_some_iff.mpr ⟨hn, rfl⟩
    rw [hname, hread]
    exact hp

theorem hasPort_iff {p : Port} : s.HasPort p ↔
    s.content.has application (portKey p.name) = true ∧ s.portAt? (portKey p.name) = some p := by
  rw [portAt?_eq_some_iff, portOf?_eq_some_iff]
  constructor
  · rintro ⟨hn, hs, hr, hp, hl⟩
    exact ⟨hs, rfl, hn, hr, rfl, hp, hl⟩
  · rintro ⟨hs, -, hn, hr, -, hp, hl⟩
    exact ⟨hn, hs, hr, hp, hl⟩

/-! ## The list -/

theorem answer_fields (c : Connection) (key : String) :
    (answer (.command c (.fields key)) s).1 =
      match s.unread c.database key with
      | none => .ok (s.content.hash (some c.database) key)
      | some e => .error e := by
  rcases hf : s.unread c.database key with _ | e
  · exact congrArg Prod.fst ((s.host (.command c (.fields key))).execute_fields c key hf)
  · exact congrArg Prod.fst ((s.host (.command c (.fields key))).execute_fault c (.fields key) hf)

theorem attempt_readPorts {c : Connection} (hc : c.database = .application) (keys : List String) :
    s.attempt (readPorts c keys) = .ok (keys.filterMap s.portAt?) := by
  induction keys with
  | nil => rfl
  | cons key keys ih =>
    unfold readPorts
    rcases hname : nameAfter? portStart key with _ | name
    · have hnone : s.portAt? key = none := by simp [portAt?, hname]
      rw [List.filterMap_cons_none hnone]
      exact ih
    · dsimp only
      rw [attempt_ask_bind s (q := .command c (.fields key)) trivial, answer_fields, hc]
      rcases hread : s.unread .application key with _ | e
      · have hport : s.portAt? key = portOf? name (s.content.hash application key) := by
          simp [portAt?, hname, hread]
        dsimp only
        rw [attempt_bind_ok s (Host.reads_readPorts c keys) ih, attempt_pure, List.filterMap_cons, hport]
        cases portOf? name (s.content.hash application key) <;> rfl
      · have hnone : s.portAt? key = none := by simp [portAt?, hname, hread]
        rw [List.filterMap_cons_none hnone]
        exact ih

/-- The ports that the keys lead to, in the order of the keys. -/
def found : List Port :=
  (s.order (s.content.matching application (portStart ++ "*"))).filterMap s.portAt?

theorem attempt_ports : s.attempt ports = .ok (s.found.mergeSort fun a b => a.name ≤ b.name) := by
  refine (s.attempt_bind_ok (Host.within_database trivial)
    (s.attempt_database _ .application rfl)).trans ?_
  refine (s.attempt_bind_ok (Host.within_command (by trivial) (by decide))
    (s.attempt_keys ..)).trans ?_
  exact s.attempt_bind_ok (Host.reads_readPorts _ _) (s.attempt_readPorts rfl _)

theorem mem_found {p : Port} : p ∈ s.found ↔ s.HasPort p := by
  unfold found
  rw [List.mem_filterMap, hasPort_iff]
  constructor
  · rintro ⟨key, hkey, hp⟩
    obtain ⟨rfl, -⟩ := s.portAt?_eq_some_iff.mp hp
    exact ⟨(Content.mem_matching.mp ((s.order_perm _).mem_iff.mp hkey)).1, hp⟩
  · rintro ⟨hs, hp⟩
    refine ⟨portKey p.name, (s.order_perm _).mem_iff.mpr (Content.mem_matching.mpr ⟨hs, ?_⟩), hp⟩
    exact matchesKey_append_star.mpr ⟨p.name, rfl⟩

theorem found_names : s.found.Pairwise fun p q => p.name ≠ q.name := by
  unfold found
  rw [List.pairwise_filterMap]
  have hnodup := (s.order_perm (s.content.matching application (portStart ++ "*"))).nodup_iff.mpr
    (s.sorted.nodup_matching _ _)
  refine hnodup.imp fun {a b} hab p hp q hq hname => hab ?_
  obtain ⟨rfl, -⟩ := s.portAt?_eq_some_iff.mp hp
  obtain ⟨rfl, -⟩ := s.portAt?_eq_some_iff.mp hq
  rw [hname]

theorem sorted_found :
    (s.found.mergeSort fun a b => a.name ≤ b.name).Pairwise fun p q => p.name < q.name := by
  have : IsTrans Port fun p q => p.name ≤ q.name := ⟨fun p q r hpq hqr => le_trans hpq hqr⟩
  have : Std.Total fun p q : Port => p.name ≤ q.name := ⟨fun p q => le_total p.name q.name⟩
  have hle := List.pairwise_mergeSort' (fun p q : Port => p.name ≤ q.name) s.found
  have hne := (List.mergeSort_perm s.found fun a b => a.name ≤ b.name).symm.pairwise s.found_names
    fun h => h.symm
  exact (hle.and hne).imp fun h => lt_of_le_of_ne h.1 h.2

/-- **The list of ports** is always given. It holds every physical port once, in the strict order of the bytes
of the names, and nothing else. On another device, with any order of the keys and any other entries, the
ports whose entries are the same are listed in the same way. -/
theorem ports_exact : ∃ ps, s.attempt ports = .ok ps ∧
    (ps.map (·.name)).Pairwise (fun a b => Text.bytes a < Text.bytes b) ∧
    (∀ p, p ∈ ps ↔ s.HasPort p) ∧
    ∀ (s' : Steady) (among : String → Bool), (∀ name, among name = true → s.SameEntry s' name) →
      ∃ ps', s'.attempt ports = .ok ps' ∧
        ps'.filter (fun p => among p.name) = ps.filter (fun p => among p.name) := by
  have hmem (s : Steady) (p : Port) :
      p ∈ s.found.mergeSort (fun a b => a.name ≤ b.name) ↔ s.HasPort p := by
    rw [List.mem_mergeSort, mem_found]
  refine ⟨_, s.attempt_ports, ?_, hmem s, fun s' among hsame => ⟨_, s'.attempt_ports, ?_⟩⟩
  · rw [List.pairwise_map]
    exact s.sorted_found.imp Text.lt_iff_bytes.mp
  · have : Std.Irrefl fun p q : Port => p.name < q.name := ⟨fun p => lt_irrefl p.name⟩
    have : Std.Antisymm fun p q : Port => p.name < q.name :=
      ⟨fun p q hpq hqp => absurd hpq (lt_asymm hqp)⟩
    -- Two lists in strict order with the same members are equal, whatever the order of the keys was.
    refine (s'.sorted_found.filter _).eq_of_mem_iff (s.sorted_found.filter _) fun p => ?_
    rw [List.mem_filter, List.mem_filter, hmem, hmem]
    refine and_congr_left fun hp => ?_
    exact ⟨fun h => h.of_sameEntry (hsame _ hp).symm, fun h => h.of_sameEntry (hsame _ hp)⟩

end SwitchFleet.Steady

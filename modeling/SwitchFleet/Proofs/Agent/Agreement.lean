import Mathlib.Data.List.Forall2
import Mathlib.Data.List.Sort
import Mathlib.Data.Set.List
import SwitchFleet.Proofs.Agent.Listing
import SwitchFleet.Proofs.Agent.Steady
import SwitchFleet.Proofs.Text.ByteOrder

/-!
# The list of interfaces and the interfaces one by one

All interfaces of a device at rest, compared with what is reported about each of them.

* `exists_names`: the keys are listed in the order of the names after them.
* `Steady.entry`: what is reported about the interface of a key. `attempt_interfaces`: the list is made
  of these reports, up to the first one that fails.
* **`interfaces_agree`**: the list succeeds exactly if every single interface does, and consists of them
  in the order of the bytes of their names. Otherwise it fails as the first interface does that fails.
-/

namespace SwitchFleet

open Agent

/-! ## Traversals that may fail -/

section

variable {α β ε : Type} {f : α → Except ε β} {l : List α}

theorem mapM_eq_ok {r : List β} (h : l.mapM f = .ok r) : l.map f = r.map .ok := by
  induction l generalizing r with
  | nil =>
    cases h
    rfl
  | cons a l ih =>
    rw [List.mapM_cons] at h
    rcases ha : f a with e | b
    · rw [ha] at h
      cases h
    rcases hl : l.mapM f with e | bs
    · rw [ha, hl] at h
      cases h
    · rw [ha, hl] at h
      cases h
      rw [List.map_cons, List.map_cons, ha, ih hl]

theorem mapM_eq_error {e : ε} (h : l.mapM f = .error e) :
    ∃ before a after, l = before ++ a :: after ∧ f a = .error e ∧ ∀ b ∈ before, ∃ r, f b = .ok r := by
  induction l with
  | nil => cases h
  | cons a l ih =>
    rw [List.mapM_cons] at h
    rcases ha : f a with e' | b
    · rw [ha] at h
      cases h
      exact ⟨[], a, l, rfl, ha, by simp⟩
    rcases hl : l.mapM f with e' | bs
    · rw [ha, hl] at h
      cases h
      obtain ⟨before, a', after, rfl, ha', hbefore⟩ := ih hl
      exact ⟨a :: before, a', after, rfl, ha', List.forall_mem_cons.mpr ⟨⟨b, ha⟩, hbefore⟩⟩
    · rw [ha, hl] at h
      cases h

end

/-! ## Keys and names -/

theorem empty_lt {name : String} (hn : name ≠ "") : "" < name := by
  rw [String.lt_iff_toList_lt]
  rcases hl : name.toList with _ | ⟨c, cs⟩
  · exact absurd (String.toList_eq_nil_iff.mp hl) hn
  · exact List.nil_lt_cons ..

namespace Steady

variable (s : Steady)

/-- There is a key for an interface. -/
def Configures (name : String) : Prop :=
  s.content.has Host.configuration (configuredKey name) = true

/-- The keys are listed in the order of the names after them, each of them once. -/
theorem exists_names : ∃ names : List String,
    ((s.order (s.content.matching Host.configuration (configuredStart ++ "*"))).mergeSort
      fun a b => a ≤ b) = names.map configuredKey ∧
    names.Pairwise (· < ·) ∧ ∀ name, name ∈ names ↔ s.Configures name := by
  set found := s.content.matching Host.configuration (configuredStart ++ "*") with hfound
  set keys := (s.order found).mergeSort fun a b => a ≤ b with hkeys
  have hperm : keys.Perm found := (List.mergeSort_perm ..).trans (s.order_perm found)
  have hsorted : keys.Pairwise (· < ·) := by
    refine ((List.pairwise_mergeSort' (· ≤ ·) (s.order found)).and
      (hperm.nodup_iff.mpr (s.sorted.nodup_matching _ _))).imp fun h => ?_
    exact lt_of_le_of_ne h.1 h.2
  have hrange : keys ∈ Set.range (List.map configuredKey) := by
    rw [Set.range_list_map]
    intro key hkey
    exact matchesKey_append_star.mp (Content.mem_matching.mp (hperm.mem_iff.mp hkey)).2
  obtain ⟨names, hnames⟩ := hrange
  refine ⟨names, hnames.symm, ?_, fun name => ?_⟩
  · rw [← hnames, List.pairwise_map] at hsorted
    exact hsorted.imp append_lt_append_iff.mp
  · have hinj : Function.Injective configuredKey := fun a b h => (String.append_right_inj _).mp h
    rw [← List.mem_map_of_injective hinj, hnames, hperm.mem_iff, hfound, Content.mem_matching,
      and_iff_left (Host.matches_configuredKey name)]
    rfl

/-! ## Reports -/

/-- What is reported about the interface of a key. -/
def entry (c : Connection) (key : String) : Except Status Interface :=
  match nameAfter? configuredStart key with
  | none => .error (.badRequest ("failed to parse interface name from key " ++ key))
  | some name => s.attempt (readInterface c name)

theorem attempt_readInterfaces (c : Connection) (keys : List String) :
    s.attempt (readInterfaces c keys) = keys.mapM (s.entry c) := by
  induction keys with
  | nil => rfl
  | cons key keys ih =>
    rw [List.mapM_cons]
    unfold readInterfaces entry
    rcases nameAfter? configuredStart key with _ | name
    · rfl
    · dsimp only
      rw [attempt_bind s (Host.reads_readInterface c name)]
      simp only [attempt_bind s (Host.reads_readInterfaces c keys), ih, attempt_pure]
      rfl

/-- The connection over which states are read. -/
abbrev stateConnection : Connection := connection Database.stateName .state

theorem attempt_interfaces : s.attempt interfaces =
    ((s.order (s.content.matching Host.configuration (configuredStart ++ "*"))).mergeSort
      fun a b => a ≤ b).mapM (s.entry stateConnection) := by
  refine (s.attempt_bind_ok (Host.within_database trivial)
    (s.attempt_database _ .configuration rfl)).trans ?_
  refine (s.attempt_bind_ok (Host.within_database trivial)
    (s.attempt_database _ .state rfl)).trans ?_
  refine (s.attempt_bind_ok (Host.within_command (by trivial) (by decide))
    (s.attempt_keys ..)).trans ?_
  exact s.attempt_readInterfaces _ _

instance (name : String) : Decidable (s.Configures name) := inferInstanceAs (Decidable (_ = true))

theorem attempt_interface {name : String} (hn : name ≠ "") : s.attempt (interface name) =
    if s.Configures name then s.attempt (readInterface stateConnection name)
    else .error (interfaceNotFound name) := by
  have hname : s.attempt (requireName name) = .ok () := by
    rw [requireName, if_neg (by simpa using hn)]
    rfl
  refine (s.attempt_bind_ok (Host.within_requireName name) hname).trans ?_
  refine (s.attempt_bind_ok (Host.within_database trivial)
    (s.attempt_database _ .configuration rfl)).trans ?_
  refine (s.attempt_bind_ok (Host.within_database trivial)
    (s.attempt_database _ .state rfl)).trans ?_
  refine (s.attempt_bind_ok (Host.within_command (by trivial) (by decide))
    (s.attempt_has ..)).trans ?_
  exact apply_ite s.attempt (s.Configures name) _ _

theorem entry_unnamed : s.entry stateConnection (configuredKey "") =
    .error (.badRequest "failed to parse interface name from key PORT|") := rfl

theorem entry_named {name : String} (hn : name ≠ "") :
    s.entry stateConnection (configuredKey name) = s.attempt (readInterface stateConnection name) := by
  rw [entry, Host.nameAfter_configuredKey hn]

theorem entry_configured {name : String} (hn : name ≠ "") (hc : s.Configures name) :
    s.entry stateConnection (configuredKey name) = s.attempt (interface name) := by
  rw [attempt_interface s hn, if_pos hc, entry_named s hn]

theorem name_of_entry {name : String} {i : Interface}
    (h : s.entry stateConnection (configuredKey name) = .ok i) : i.name = name := by
  by_cases hn : name = ""
  · subst hn
    cases s.entry_unnamed.symm.trans h
  rw [entry_named s hn] at h
  have hobserved : Host.Within Query.Reads (observed stateConnection name) :=
    Host.within_observed trivial
  have hlink : Host.Within Query.Reads (linkAddress name) := Host.within_linkAddress trivial
  rcases hf : s.attempt (observed stateConnection name) with e | fields
  · cases (s.attempt_bind_error hobserved hf).symm.trans h
  have hafter := (s.attempt_bind_ok hobserved hf).symm.trans h
  rcases hm : s.attempt (linkAddress name) with e | mac
  · cases (s.attempt_bind_error hlink hm).symm.trans hafter
  · cases (s.attempt_bind_ok hlink hm).symm.trans hafter
    rfl

/-! ## Agreement -/

/-- In a list in ascending order, all that is less than an element stands before it. -/
theorem mem_before {before after : List String} {a b : String}
    (h : (before ++ a :: after).Pairwise (· < ·)) (hb : b ∈ before ++ a :: after) (hlt : b < a) :
    b ∈ before := by
  rcases List.mem_append.mp hb with hb | hb
  · exact hb
  · have hle : a ≤ b := by
      rcases List.mem_cons.mp hb with rfl | hb
      · exact le_rfl
      · exact (List.rel_of_pairwise_cons (List.pairwise_append.mp h).2.1 hb).le
    exact absurd hlt (not_lt_of_ge hle)

theorem interfaces_of_ok {is : List Interface} (h : s.attempt interfaces = .ok is) :
    ¬ s.Configures "" ∧ (is.map (·.name)).Pairwise (· < ·) ∧
      (∀ name, name ∈ is.map (·.name) ↔ s.Configures name) ∧
      ∀ i ∈ is, s.attempt (interface i.name) = .ok i := by
  obtain ⟨names, hkeys, hsorted, hmem⟩ := s.exists_names
  rw [attempt_interfaces, hkeys, List.mapM_map] at h
  have hreports := mapM_eq_ok h
  have hunnamed : ¬ s.Configures "" := by
    intro hc
    obtain ⟨i, -, hi⟩ := List.mem_map.mp (hreports ▸ List.mem_map_of_mem ((hmem "").mpr hc))
    cases hi.trans s.entry_unnamed
  have hnames : names = is.map (·.name) := by
    rw [← List.forall₂_eq_eq_eq, List.forall₂_map_left_iff, List.forall₂_map_right_iff] at hreports
    rw [← List.forall₂_eq_eq_eq, List.forall₂_map_right_iff]
    exact hreports.imp fun name i hi => (s.name_of_entry hi).symm
  rw [← hnames]
  refine ⟨hunnamed, hsorted, hmem, fun i hi => ?_⟩
  obtain ⟨name, hm, hentry⟩ := List.mem_map.mp (hreports.symm ▸ List.mem_map_of_mem hi)
  obtain rfl := s.name_of_entry hentry
  have hc := (hmem i.name).mp hm
  exact (s.entry_configured (fun hn => hunnamed (hn ▸ hc)) hc).symm.trans hentry

theorem interfaces_of_error {e : Status} (h : s.attempt interfaces = .error e) :
    s.Configures "" ∧ e = .badRequest "failed to parse interface name from key PORT|" ∨
      ¬ s.Configures "" ∧ ∃ name, s.Configures name ∧ s.attempt (interface name) = .error e ∧
        ∀ name', s.Configures name' → name' < name → ∃ i, s.attempt (interface name') = .ok i := by
  obtain ⟨names, hkeys, hsorted, hmem⟩ := s.exists_names
  rw [attempt_interfaces, hkeys, List.mapM_map] at h
  obtain ⟨before, name, after, rfl, hfail, hbefore⟩ := mapM_eq_error h
  have hname : s.Configures name := (hmem name).mp (List.mem_append_right _ List.mem_cons_self)
  by_cases hn : name = ""
  · subst hn
    exact .inl ⟨hname, Except.error.inj (hfail.symm.trans s.entry_unnamed)⟩
  have hless {name' : String} (hc : s.Configures name') (hlt : name' < name) :
      ∃ i, s.entry stateConnection (configuredKey name') = .ok i :=
    hbefore name' (mem_before hsorted ((hmem name').mpr hc) hlt)
  have hunnamed : ¬ s.Configures "" := by
    intro hc
    obtain ⟨i, hi⟩ := hless hc (empty_lt hn)
    cases s.entry_unnamed.symm.trans hi
  refine .inr ⟨hunnamed, name, hname, (s.entry_configured hn hname).symm.trans hfail, ?_⟩
  intro name' hc hlt
  have hn' : name' ≠ "" := fun h => hunnamed (h ▸ hc)
  rw [← s.entry_configured hn' hc]
  exact hless hc hlt

/-- **The list agrees with the single interfaces.** -/
theorem interfaces_agree :
    ((∃ is, s.attempt interfaces = .ok is) ↔
      ¬ s.Configures "" ∧ ∀ name, s.Configures name → ∃ i, s.attempt (interface name) = .ok i) ∧
    (∀ is, s.attempt interfaces = .ok is →
      (is.map (·.name)).Pairwise (fun a b => Text.bytes a < Text.bytes b) ∧
      (∀ name, name ∈ is.map (·.name) ↔ s.Configures name) ∧
      ∀ i ∈ is, s.attempt (interface i.name) = .ok i) ∧
    ∀ e, s.attempt interfaces = .error e →
      s.Configures "" ∧ e = .badRequest "failed to parse interface name from key PORT|" ∨
      ¬ s.Configures "" ∧ ∃ name, s.Configures name ∧ s.attempt (interface name) = .error e ∧
        ∀ name', s.Configures name' → Text.bytes name' < Text.bytes name →
          ∃ i, s.attempt (interface name') = .ok i := by
  simp only [← Text.lt_iff_bytes]
  refine ⟨⟨?_, ?_⟩, fun is h => (s.interfaces_of_ok h).2, fun e h => s.interfaces_of_error h⟩
  · rintro ⟨is, h⟩
    obtain ⟨hunnamed, -, hmem, hsingle⟩ := s.interfaces_of_ok h
    refine ⟨hunnamed, fun name hc => ?_⟩
    obtain ⟨i, hi, rfl⟩ := List.mem_map.mp ((hmem name).mpr hc)
    exact ⟨i, hsingle i hi⟩
  · rintro ⟨hunnamed, hsingle⟩
    rcases h : s.attempt interfaces with e | is
    · rcases s.interfaces_of_error h with ⟨hc, -⟩ | ⟨-, name, hc, he, -⟩
      · exact absurd hc hunnamed
      · obtain ⟨i, hi⟩ := hsingle name hc
        cases he.symm.trans hi
    · exact ⟨is, rfl⟩

end Steady

end SwitchFleet

import SwitchFleet.Keyed

/-!
# Maps keyed by name, compared

* `Keyed.mem_names`, `Keyed.has_put`, `Keyed.put_put`: names and entries after an entry is set.
* **`Sorted.ext`**: two maps in order that agree on every name are equal.
* `Keyed.get?_ofList`: the map of a list in which no name is repeated. `Keyed.Last`: the last value of a
  name in a list, and **`get?_ofList_iff`**: the map of any list.
-/

namespace SwitchFleet.Keyed

variable {α : Type}

theorem mem_names {name : String} {m : Keyed α} : name ∈ m.names ↔ m.has name = true := by
  induction m with
  | nil => simp [names, has]
  | cons e m ih =>
    obtain ⟨k, v⟩ := e
    by_cases h : name = k
    · simp [names, has, get?, h]
    · simpa [names, has, get?, h] using ih

theorem has_cons (name k : String) (v : α) (m : Keyed α) :
    has name ((k, v) :: m) = (decide (name = k) || m.has name) := by
  by_cases h : name = k <;> simp [has, get?, h]

@[simp] theorem has_put (m : Keyed α) (name k : String) (v : α) :
    (m.put k v).has name = (decide (name = k) || m.has name) := by
  unfold has
  rw [get?_put]
  split <;> simp [*]

theorem put_put (m : Keyed α) (k : String) (v w : α) : (m.put k v).put k w = m.put k w := by
  induction m with
  | nil => simp [put]
  | cons e m ih =>
    obtain ⟨l, u⟩ := e
    by_cases h : k = l
    · simp [put, h]
    · by_cases hlt : k < l <;> simp [put, h, hlt, ih]

/-! ## Entries and look-ups -/

theorem mem_of_get? {m : Keyed α} {name : String} {v : α} (h : m.get? name = some v) :
    (name, v) ∈ m := by
  induction m with
  | nil => cases h
  | cons e m ih =>
    obtain ⟨k, w⟩ := e
    unfold get? at h
    split at h
    · rename_i hk
      cases h
      exact hk ▸ List.mem_cons_self
    · exact List.mem_cons_of_mem _ (ih h)

theorem get?_eq_none {m : Keyed α} {name : String} (h : ∀ e ∈ m, e.1 ≠ name) :
    m.get? name = none := by
  induction m with
  | nil => rfl
  | cons e m ih =>
    obtain ⟨k, v⟩ := e
    have hk : name ≠ k := Ne.symm (h _ List.mem_cons_self)
    rw [get?, if_neg hk]
    exact ih fun e he => h e (List.mem_cons_of_mem _ he)

theorem ne_of_lt {a b : String} (h : a < b) : a ≠ b := fun he => String.lt_irrefl b (he ▸ h)

theorem sorted_pair {a b : String} {v w : α} (h : a < b) : Sorted [(a, v), (b, w)] :=
  ⟨List.forall_mem_singleton.mpr h, fun _ he => absurd he List.not_mem_nil, trivial⟩

theorem Sorted.get?_head {k : String} {v : α} {m : Keyed α} (h : Sorted ((k, v) :: m)) :
    m.get? k = none :=
  get?_eq_none fun e he => Ne.symm (ne_of_lt (h.1 e he))

theorem Sorted.get?_of_mem {m : Keyed α} (h : Sorted m) {e : String × α} (he : e ∈ m) :
    m.get? e.1 = some e.2 := by
  induction m with
  | nil => cases he
  | cons f m ih =>
    obtain ⟨k, v⟩ := f
    rcases List.mem_cons.mp he with rfl | he
    · simp [get?]
    · simpa [get?, Ne.symm (ne_of_lt (h.1 e he))] using ih h.2 he

/-- **Maps that agree.** Two maps in order with the same values are equal. -/
theorem Sorted.ext {m n : Keyed α} (hm : Sorted m) (hn : Sorted n)
    (h : ∀ name, m.get? name = n.get? name) : m = n := by
  induction m generalizing n with
  | nil =>
    cases n with
    | nil => rfl
    | cons e n =>
      have he := h e.1
      simp [get?] at he
  | cons e m ih =>
    obtain ⟨k, v⟩ := e
    cases n with
    | nil =>
      have he := h k
      simp [get?] at he
    | cons e n =>
      obtain ⟨l, w⟩ := e
      have hkl : k = l := by
        refine Decidable.byContradiction fun hne => ?_
        have hk : get? k n = some v := by simpa [get?, hne] using (h k).symm
        have hl : get? l m = some w := by simpa [get?, Ne.symm hne] using h l
        exact String.lt_irrefl k
          (String.lt_trans (hm.1 _ (mem_of_get? hl)) (hn.1 _ (mem_of_get? hk)))
      subst hkl
      have hvw : v = w := by simpa [get?] using h k
      subst hvw
      refine congrArg _ (ih hm.2 hn.2 fun name => ?_)
      by_cases hname : name = k
      · rw [hname, hm.get?_head, hn.get?_head]
      · simpa [get?, hname] using h name

/-! ## Maps of lists -/

theorem sorted_foldl_put (entries : List (String × α)) {m : Keyed α} (h : Sorted m) :
    Sorted (entries.foldl (fun m e => m.put e.1 e.2) m) := by
  induction entries generalizing m with
  | nil => exact h
  | cons e entries ih => exact ih (h.put e.1 e.2)

theorem sorted_ofList (entries : List (String × α)) : Sorted (ofList entries) :=
  sorted_foldl_put entries trivial

theorem mem_foldl_put {entries : List (String × α)} {m : Keyed α} {e : String × α}
    (h : e ∈ entries.foldl (fun m e => m.put e.1 e.2) m) : e ∈ m ∨ e ∈ entries := by
  induction entries generalizing m with
  | nil => exact .inl h
  | cons f entries ih =>
    rcases ih h with h | h
    · rcases mem_put h with rfl | h
      · exact .inr List.mem_cons_self
      · exact .inl h
    · exact .inr (List.mem_cons_of_mem _ h)

theorem mem_of_mem_ofList {entries : List (String × α)} {e : String × α} (h : e ∈ ofList entries) :
    e ∈ entries :=
  (mem_foldl_put h).resolve_left List.not_mem_nil

/-- Entries that are set one after another. Where no name is repeated, each of them counts. -/
theorem get?_foldl_put {entries : List (String × α)} (hn : (entries.map (·.1)).Nodup) (m : Keyed α)
    (name : String) :
    (entries.foldl (fun m e => m.put e.1 e.2) m).get? name =
      (entries.lookup name).or (m.get? name) := by
  induction entries generalizing m with
  | nil => rfl
  | cons e entries ih =>
    obtain ⟨k, v⟩ := e
    obtain ⟨hk, hn⟩ := List.nodup_cons.mp hn
    rw [List.foldl_cons, ih hn, get?_put, List.lookup_cons]
    by_cases hname : name = k
    · subst hname
      have hnone : entries.lookup name = none := by
        rw [List.lookup_eq_none_iff]
        intro e he
        simpa using fun heq => hk (List.mem_map.mpr ⟨e, he, heq.symm⟩)
      simp [hnone]
    · simp [hname, beq_eq_false_iff_ne.mpr hname]

theorem get?_ofList {entries : List (String × α)} (hn : (entries.map (·.1)).Nodup) (name : String) :
    (ofList entries).get? name = entries.lookup name := by
  rw [ofList, get?_foldl_put hn]
  simp

/-- The value of the last entry of a name. -/
def Last (entries : List (String × α)) (name : String) (value : α) : Prop :=
  ∃ before after, entries = before ++ (name, value) :: after ∧ ∀ e ∈ after, e.1 ≠ name

theorem get?_ofList_reverse (entries : List (String × α)) (name : String) :
    (ofList entries.reverse).get? name = entries.lookup name := by
  induction entries with
  | nil => rfl
  | cons e entries ih =>
    have hput : ofList (e :: entries).reverse = (ofList entries.reverse).put e.1 e.2 := by
      unfold ofList
      rw [List.reverse_cons, List.foldl_append]
      rfl
    rw [hput, get?_put, ih, List.lookup_cons]
    by_cases h : name = e.1
    · simp [h]
    · simp [h, beq_eq_false_iff_ne.mpr h]

/-- **The last entry of a name counts.** -/
theorem get?_ofList_iff {entries : List (String × α)} {name : String} {value : α} :
    (ofList entries).get? name = some value ↔ Last entries name value := by
  have hlookup := get?_ofList_reverse entries.reverse name
  rw [List.reverse_reverse] at hlookup
  rw [hlookup, List.lookup_eq_some_iff]
  constructor
  · rintro ⟨after, before, he, hafter⟩
    refine ⟨before.reverse, after.reverse, ?_, fun e he' => ?_⟩
    · rw [← List.reverse_reverse entries, he]
      simp
    · exact Ne.symm (bne_iff_ne.mp (hafter e (List.mem_reverse.mp he')))
  · rintro ⟨before, after, rfl, hafter⟩
    refine ⟨after.reverse, before.reverse, by simp, fun e he => ?_⟩
    exact bne_iff_ne.mpr (hafter e (List.mem_reverse.mp he)).symm

theorem get?_eq_lookup (m : Keyed α) (name : String) : m.get? name = m.lookup name := by
  induction m with
  | nil => rfl
  | cons e m ih =>
    obtain ⟨k, v⟩ := e
    rw [get?, List.lookup_cons]
    by_cases h : name = k
    · simp [h]
    · simp [h, ih, beq_eq_false_iff_ne.mpr h]

theorem Sorted.nodup_names {m : Keyed α} (h : Sorted m) : (m.map (·.1)).Nodup := by
  induction m with
  | nil => exact .nil
  | cons e m ih =>
    refine List.nodup_cons.mpr ⟨fun he => ?_, ih h.2⟩
    obtain ⟨f, hf, hk⟩ := List.mem_map.mp he
    exact ne_of_lt (h.1 f hf) hk.symm

theorem Sorted.ofList_self {m : Keyed α} (h : Sorted m) : ofList m = m :=
  (sorted_ofList m).ext h fun name => (get?_ofList h.nodup_names name).trans (get?_eq_lookup m name).symm

theorem Sorted.map {β : Type} {m : Keyed α} (h : Sorted m) (f : α → β) :
    Sorted (List.map (fun e => (e.1, f e.2)) m) := by
  induction m with
  | nil => trivial
  | cons e m ih =>
    refine ⟨fun e' he' => ?_, ih h.2⟩
    obtain ⟨d, hd, rfl⟩ := List.mem_map.mp he'
    exact h.1 d hd

end SwitchFleet.Keyed

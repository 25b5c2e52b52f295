/-!
# Maps keyed by name

A finite map from names is a list of entries in strictly ascending order of name, so that equal
maps are equal lists.

* `Keyed.get?`, `Keyed.put`, `Keyed.erase`: look an entry up, set it, remove it.
* `Keyed.ofList`: the map of a list of entries, where the last entry of a name counts.
* `get?_put`, `get?_erase`: what each operation does to a look-up.
* `Keyed.Sorted`: the order, kept by every operation (`Sorted.put`, `Sorted.erase`).
-/

namespace SwitchFleet

/-- A map from names, as its entries in ascending order of name. -/
abbrev Keyed (α : Type) : Type := List (String × α)

namespace Keyed

variable {α : Type}

def get? (name : String) : Keyed α → Option α
  | [] => none
  | (k, v) :: m => if name = k then some v else get? name m

/-- The map with the value of a name set. -/
def put (name : String) (value : α) : Keyed α → Keyed α
  | [] => [(name, value)]
  | (k, v) :: m =>
    if name = k then (name, value) :: m
    else if name < k then (name, value) :: (k, v) :: m
    else (k, v) :: put name value m

def erase (name : String) : Keyed α → Keyed α
  | [] => []
  | (k, v) :: m => if name = k then erase name m else (k, v) :: erase name m

def names (m : Keyed α) : List String := m.map (·.1)

def has (name : String) (m : Keyed α) : Bool := (m.get? name).isSome

/-- The map of a list of entries. The last entry of a name counts. -/
def ofList (entries : List (String × α)) : Keyed α :=
  entries.foldl (fun m e => m.put e.1 e.2) []

/-- The order of the entries of a map: every name comes before all later ones. -/
def Sorted : Keyed α → Prop
  | [] => True
  | (k, _) :: m => (∀ e ∈ m, k < e.1) ∧ Sorted m

/-! ## Looking up -/

@[simp] theorem get?_nil (name : String) : get? name ([] : Keyed α) = none := rfl

@[simp] theorem get?_put (m : Keyed α) (name k : String) (v : α) :
    (m.put k v).get? name = if name = k then some v else m.get? name := by
  induction m with
  | nil => simp [put, get?]
  | cons e m ih =>
    obtain ⟨l, w⟩ := e
    by_cases h : k = l
    · subst h
      by_cases hn : name = k <;> simp [put, get?, hn]
    · by_cases hlt : k < l
      · simp [put, get?, h, hlt]
      · by_cases hn : name = l
        · subst hn
          simp [put, get?, h, hlt, Ne.symm h]
        · simp [put, get?, h, hlt, hn, ih]

@[simp] theorem get?_erase (m : Keyed α) (name k : String) :
    (m.erase k).get? name = if name = k then none else m.get? name := by
  induction m with
  | nil => simp [erase, get?]
  | cons e m ih =>
    obtain ⟨l, w⟩ := e
    by_cases h : k = l
    · subst h
      by_cases hn : name = k
      · subst hn
        simpa [erase] using ih
      · simp [erase, get?, ih, hn]
    · by_cases hn : name = l
      · subst hn
        simp [erase, get?, h, Ne.symm h]
      · simp [erase, get?, h, hn, ih]

/-! ## Order -/

theorem mem_put {m : Keyed α} {k : String} {v : α} {e : String × α} (h : e ∈ m.put k v) :
    e = (k, v) ∨ e ∈ m := by
  induction m with
  | nil => simpa [put] using h
  | cons x m ih =>
    obtain ⟨l, w⟩ := x
    unfold put at h
    split at h
    · rcases List.mem_cons.1 h with h | h
      · exact .inl h
      · exact .inr (List.mem_cons_of_mem _ h)
    · split at h
      · simpa using h
      · rcases List.mem_cons.1 h with h | h
        · exact .inr (h ▸ List.mem_cons_self)
        · exact (ih h).imp_right (List.mem_cons_of_mem _)

theorem Sorted.put {m : Keyed α} (h : Sorted m) (k : String) (v : α) : Sorted (m.put k v) := by
  induction m with
  | nil => simp [Keyed.put, Sorted]
  | cons x m ih =>
    obtain ⟨l, w⟩ := x
    unfold Keyed.put
    split
    · rename_i hkl
      exact ⟨hkl ▸ h.1, h.2⟩
    · split
      · rename_i hlt
        refine ⟨fun e he => ?_, h⟩
        rcases List.mem_cons.1 he with he | he
        · exact he ▸ hlt
        · exact String.lt_trans hlt (h.1 e he)
      · rename_i hne hlt
        refine ⟨fun e he => ?_, ih h.2⟩
        rcases mem_put he with he | he
        · subst he
          exact Decidable.byContradiction fun hn =>
            hne (String.le_antisymm hn hlt)
        · exact h.1 e he

theorem mem_of_mem_erase {m : Keyed α} {k : String} {e : String × α} (h : e ∈ m.erase k) :
    e ∈ m := by
  induction m with
  | nil => exact h
  | cons x m ih =>
    obtain ⟨l, w⟩ := x
    unfold erase at h
    split at h
    · exact List.mem_cons_of_mem _ (ih h)
    · rcases List.mem_cons.1 h with h | h
      · exact h ▸ List.mem_cons_self
      · exact List.mem_cons_of_mem _ (ih h)

theorem Sorted.erase {m : Keyed α} (h : Sorted m) (k : String) : Sorted (m.erase k) := by
  induction m with
  | nil => trivial
  | cons x m ih =>
    obtain ⟨l, w⟩ := x
    unfold Keyed.erase
    split
    · exact ih h.2
    · exact ⟨fun e he => h.1 e (mem_of_mem_erase he), ih h.2⟩

end Keyed

end SwitchFleet

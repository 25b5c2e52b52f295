import SwitchFleet.Store.Content
import SwitchFleet.Proofs.Keyed

/-!
# Keys and fields after a change

* `Content.has_setField`, `Content.field_setField`: the keys and the fields that are found after a
  field was set.
* `Content.mem_matching`: the keys that a pattern matches are keys.
* `Content.SameKeys`, `Content.SameFields`: two contents with the same keys, and with the same keys
  and fields in one database. **`sameFields_setField`**: setting a field changes nothing exactly if
  the field had this value.
* `Content.SameApart`: two contents that agree apart from one field.
* `Content.Sorted`: every database is in the order of its keys. Setting a field keeps it so
  (`Sorted.setField`), and no key is found twice (`Sorted.nodup_matching`).
-/

namespace SwitchFleet

namespace Content

variable (c : Content) (db : Option Database) (key field value : String)

@[simp] theorem has_setField (db' : Option Database) (key' : String) :
    (c.setField db key field value).has db' key' =
      (decide (db' = db ∧ key' = key) || c.has db' key') := by
  simp only [has, setField, setHash, table_setTable]
  by_cases hd : db' = db
  · subst hd
    by_cases hk : key' = key <;> simp [hk]
  · simp [hd]

@[simp] theorem field_setField (db' : Option Database) (key' field' : String) :
    (c.setField db key field value).field db' key' field' =
      if db' = db ∧ key' = key ∧ field' = field then some value else c.field db' key' field' := by
  simp only [Content.field, setField, hash_setHash]
  by_cases h : db' = db ∧ key' = key
  · obtain ⟨rfl, rfl⟩ := h
    simp
  · rw [if_neg h, if_neg fun h' => h ⟨h'.1, h'.2.1⟩]

theorem replaceTable_replaceTable (t u : Keyed Hash) (ts : List (Option Database × Keyed Hash)) :
    replaceTable db u (replaceTable db t ts) = replaceTable db u ts := by
  induction ts with
  | nil => simp [replaceTable]
  | cons e ts ih => by_cases h : e.1 = db <;> simp [replaceTable, h, ih]

theorem setField_setField (value' : String) :
    (c.setField db key field value).setField db key field value' =
      c.setField db key field value' := by
  simp only [setField, hash_setHash, and_self, if_true, Keyed.put_put]
  simp only [setHash, table_setTable, if_true, Keyed.put_put]
  simp only [setTable, replaceTable_replaceTable]

variable {c db key field value}

theorem mem_matching {pattern : String} :
    key ∈ c.matching db pattern ↔ c.has db key = true ∧ matchesKey pattern key = true := by
  rw [matching, List.mem_filter, Keyed.mem_names, has]

theorem has_of_field {v : String} (h : c.field db key field = some v) : c.has db key = true := by
  unfold Content.field hash at h
  unfold has Keyed.has
  cases hk : Keyed.get? key (c.table db) with
  | none => simp [hk] at h
  | some f => rfl

/-! ## Contents that agree -/

/-- Every database has the same keys in both contents. -/
def SameKeys (c c' : Content) : Prop := ∀ db key, c'.has db key = c.has db key

/-- A database has the same keys, with the same fields, in both contents. -/
def SameFields (db : Option Database) (c c' : Content) : Prop :=
  ∀ key, c'.has db key = c.has db key ∧ ∀ field, c'.field db key field = c.field db key field

theorem SameFields.refl (db : Option Database) (c : Content) : SameFields db c c :=
  fun _ => ⟨rfl, fun _ => rfl⟩

/-- **A field that is set.** Nothing changes exactly if the field had this value already. -/
theorem sameFields_setField :
    SameFields db c (c.setField db key field value) ↔ c.field db key field = some value := by
  constructor
  · intro h
    have hf := (h key).2 field
    rw [field_setField] at hf
    simpa using hf.symm
  · intro h key'
    refine ⟨?_, fun field' => ?_⟩
    · by_cases hk : key' = key
      · rw [has_setField, hk, has_of_field h]
        simp
      · simp [hk]
    · rw [field_setField]
      split
      · rename_i hk
        rw [hk.2.1, hk.2.2, h]
      · rfl

/-- Two contents agree apart from one field: all other fields are the same, and all keys are save the one
of this field. -/
structure SameApart (db : Option Database) (key field : String) (c c' : Content) : Prop where
  fields : ∀ db' key' field', ¬ (db' = db ∧ key' = key ∧ field' = field) →
    c'.field db' key' field' = c.field db' key' field'
  keys : ∀ db' key', ¬ (db' = db ∧ key' = key) → c'.has db' key' = c.has db' key'

theorem SameApart.refl (db : Option Database) (key field : String) (c : Content) :
    SameApart db key field c c :=
  ⟨fun _ _ _ _ => rfl, fun _ _ _ => rfl⟩

theorem sameApart_setField : SameApart db key field c (c.setField db key field value) := by
  refine ⟨fun db' key' field' hn => ?_, fun db' key' hn => ?_⟩
  · rw [field_setField, if_neg hn]
  · rw [has_setField, decide_eq_false hn, Bool.false_or]

/-! ## Order -/

/-- Every database is in the order of its keys. -/
def Sorted (c : Content) : Prop := ∀ db, Keyed.Sorted (c.table db)

theorem sorted_empty : empty.Sorted := fun _ => trivial

theorem Sorted.setHash (h : c.Sorted) (fields : Hash) : (c.setHash db key fields).Sorted := by
  intro db'
  rw [Content.setHash, table_setTable]
  split
  · exact (h db).put key fields
  · exact h db'

theorem Sorted.setField (h : c.Sorted) : (c.setField db key field value).Sorted := h.setHash _

theorem Sorted.nodup_matching (h : c.Sorted) (db : Option Database) (pattern : String) :
    (c.matching db pattern).Nodup :=
  (h db).nodup_names.filter _

end Content

end SwitchFleet

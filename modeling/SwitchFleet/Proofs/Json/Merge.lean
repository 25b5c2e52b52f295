import SwitchFleet.Json.MergePatch
import SwitchFleet.Proofs.Keyed

/-!
# Members of merge patches

What a merge patch does to the members of an object, and what the patch between two objects says about
them.

* `get?_patchMembers`: a member after a patch.
* **`get?_differences`**: what the patch between two objects says about a member.
-/

namespace SwitchFleet.Json

/-! ## Members after a patch -/

/-- The value of a member after a change of a merge patch. -/
def change (old : Option Json) (v : Json) : Option Json :=
  if v.isNull then none else some ((old.getD .null).patch v)

theorem sorted_patchMembers {fields : Keyed Json} (hf : Keyed.Sorted fields)
    (changes : List (String × Json)) : Keyed.Sorted (patchMembers fields changes) := by
  induction changes generalizing fields with
  | nil => exact hf
  | cons c changes ih =>
    obtain ⟨k, v⟩ := c
    rw [patchMembers]
    split
    · exact ih (hf.erase k)
    · exact ih (hf.put k _)

/-- A member after a merge patch is what the change of its name makes of it. -/
theorem get?_patchMembers {changes : Keyed Json} (hc : Keyed.Sorted changes) (fields : Keyed Json)
    (name : String) :
    (patchMembers fields changes).get? name =
      match changes.get? name with
      | some v => change (fields.get? name) v
      | none => fields.get? name := by
  induction changes generalizing fields with
  | nil => rfl
  | cons c changes ih =>
    obtain ⟨k, v⟩ := c
    rw [patchMembers]
    by_cases hk : name = k
    · subst hk
      have hnone := hc.get?_head
      split
      · rename_i hv
        rw [ih hc.2, hnone]
        simp [Keyed.get?, change, hv]
      · rename_i hv
        rw [ih hc.2, hnone]
        simp [Keyed.get?, change, hv]
    · split <;> · rw [ih hc.2]; simp [Keyed.get?, hk]

/-- The patch of one member. -/
theorem patch_member (fields : Keyed Json) (name : String) (v : Json) :
    (object fields).patch (ofMembers [(name, v)]) = object (patchMembers fields [(name, v)]) := rfl

theorem get?_patchMember (fields : Keyed Json) (k : String) (v : Json) (name : String) :
    (patchMembers fields [(k, v)]).get? name =
      if name = k then change (fields.get? k) v else fields.get? name := by
  have hsorted : Keyed.Sorted [(k, v)] := Keyed.sorted_ofList [(k, v)]
  rw [get?_patchMembers hsorted]
  by_cases hn : name = k <;> simp [Keyed.get?, hn]

/-! ## Members of a patch -/

/-- What a patch says about a member with a new value, if it says anything. -/
def difference (old : Option Json) (v : Json) : Option Json :=
  match old with
  | none => some v
  | some w =>
    if w.same v then none
    else if w.isObject && v.isObject then
      if (w.diff v).isEmptyPatch then none else some (w.diff v)
    else some v

theorem diffMembers_cons (old : Keyed Json) (k : String) (v : Json) (ms : List (String × Json)) :
    diffMembers old ((k, v) :: ms) =
      ((difference (old.get? k) v).map (Prod.mk k)).toList ++ diffMembers old ms := by
  rw [diffMembers]
  unfold difference
  cases old.get? k with
  | none => rfl
  | some w =>
    dsimp only
    split
    · rfl
    · split
      · split <;> rfl
      · rfl

theorem names_diffMembers (old : Keyed Json) (ms : List (String × Json)) :
    ((diffMembers old ms).map (·.1)).Sublist (ms.map (·.1)) := by
  induction ms with
  | nil => exact .slnil
  | cons m ms ih =>
    obtain ⟨k, v⟩ := m
    rw [diffMembers_cons]
    cases difference (old.get? k) v with
    | none => exact ih.cons _
    | some d => exact ih.cons_cons _

theorem lookup_diffMembers (old : Keyed Json) {ms : Keyed Json} (hs : Keyed.Sorted ms)
    (name : String) :
    (diffMembers old ms).lookup name = (ms.get? name).bind (difference (old.get? name)) := by
  induction ms with
  | nil => rfl
  | cons m ms ih =>
    obtain ⟨k, v⟩ := m
    rw [diffMembers_cons, List.lookup_append, ih hs.2]
    by_cases hk : name = k
    · subst hk
      rw [hs.get?_head]
      cases hd : difference (old.get? name) v <;> simp [Keyed.get?, hd]
    · have hne : (name == k) = false := beq_eq_false_iff_ne.mpr hk
      cases difference (old.get? k) v <;> simp [Keyed.get?, hk, List.lookup_cons, hne]

theorem sorted_removals {old : Keyed Json} (ho : Keyed.Sorted old) (new : Keyed Json) :
    Keyed.Sorted (removals old new) := by
  induction old with
  | nil => trivial
  | cons m old ih =>
    unfold removals at ih ⊢
    rw [List.filter_cons]
    split
    · refine ⟨fun e he => ?_, ih ho.2⟩
      obtain ⟨m', hm', rfl⟩ := List.mem_map.mp he
      exact ho.1 m' (List.mem_filter.mp hm').1
    · exact ih ho.2

theorem get?_removals (old new : Keyed Json) (name : String) :
    (removals old new).get? name =
      if old.has name && !new.has name then some .null else none := by
  induction old with
  | nil => rfl
  | cons m old ih =>
    obtain ⟨k, v⟩ := m
    unfold removals at ih ⊢
    rw [List.filter_cons, Keyed.has_cons]
    by_cases hk : name = k
    · subst hk
      rcases hn : new.has name with _ | _
      · simp [Keyed.get?]
      · simpa [hn] using ih
    · rcases new.has k with _ | _ <;> simp [Keyed.get?, hk, ih]

/-- The members of the patch between two objects. -/
def differences (old new : Keyed Json) : Keyed Json :=
  (diffMembers old new).foldl (fun patch m => Keyed.put m.1 m.2 patch) (removals old new)

theorem sorted_differences {old : Keyed Json} (ho : Keyed.Sorted old) (new : Keyed Json) :
    Keyed.Sorted (differences old new) :=
  Keyed.sorted_foldl_put _ (sorted_removals ho new)

/-- **Members of a patch.** A member that stays appears with its difference, and a member that goes
away as `null`. -/
theorem get?_differences (old : Keyed Json) {new : Keyed Json} (hn : Keyed.Sorted new)
    (name : String) :
    (differences old new).get? name =
      match new.get? name with
      | some v => difference (old.get? name) v
      | none => if old.has name then some .null else none := by
  have hnodup := hn.nodup_names.sublist (names_diffMembers old new)
  unfold differences
  rw [Keyed.get?_foldl_put hnodup, lookup_diffMembers old hn, get?_removals]
  rcases hv : new.get? name with _ | v
  · have hnew : new.has name = false := by simp [Keyed.has, hv]
    rw [hnew, Bool.not_false, Bool.and_true]
    rfl
  · have hnew : new.has name = true := by simp [Keyed.has, hv]
    simp [hnew]

theorem patch_of_isEmptyPatch {w d : Json} (hw : w.isObject = true) (hd : d.isEmptyPatch = true) :
    w.patch d = w := by
  cases w with
  | object ms =>
    cases d with
    | object cs =>
      rw [List.isEmpty_iff.mp hd]
      rfl
    | _ => cases hd
  | _ => cases hw

end SwitchFleet.Json

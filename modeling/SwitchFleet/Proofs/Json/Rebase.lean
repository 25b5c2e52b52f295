import SwitchFleet.Proofs.Json.Reproduction

/-!
# Patches of other values

The patch between two objects is sent to a third one, which may have changed since the first of them was
read. Whatever the third one is, it takes over what differs between the two, and nothing else.

* `Json.Changed`: two objects differ in a member.
* `Json.TakesOver`: what becomes of the members of an object that takes over the changes between two others.
* **`takesOver_descend`**: the patch does this to every object within the three values.
* **`patch_comm`**: patches from one object that change different members may be applied in any order.
* **`patch_patch`**: a patch that is applied again changes nothing more.
* **`patch_rebased`**: all of this for any values.
-/

namespace SwitchFleet.Json

/-! ## Members that changed -/

/-- Two objects differ in the member of a name. -/
def Changed (old new : Keyed Json) (name : String) : Prop :=
  ¬ SameMember (old.get? name) (new.get? name)

/-- The object `ts` takes over the changes from `os` to `ms`, and becomes `rs`. -/
structure TakesOver (os ms ts rs : Keyed Json) : Prop where
  /-- A member that did not change is as it was, whether or not it was there. -/
  kept : ∀ name, ¬ Changed os ms name → rs.get? name = ts.get? name
  removed : ∀ name, os.has name = true → ms.get? name = none → rs.get? name = none
  /-- A new value that is no object takes the place of any other. Only `null` removes the member. -/
  written : ∀ name v, ms.get? name = some v → Changed os ms name → v.isObject = false →
    rs.get? name = if v.isNull then none else some v

section

variable {os ms ts : Keyed Json} {name : String}

theorem get?_differences_of_not_changed (hm : Keyed.Sorted ms) (h : ¬ Changed os ms name) :
    (differences os ms).get? name = none := by
  rw [get?_differences os hm]
  have hsame := Classical.not_not.mp h
  cases hv : ms.get? name with
  | none =>
    rw [hv] at hsame
    simp [Keyed.has, sameMember_none.mp hsame]
  | some v =>
    rw [hv] at hsame
    obtain ⟨w, hw, hwv⟩ := sameMember_some.mp hsame
    simp only [hw, difference, if_pos hwv]

theorem get?_differences_of_changed (hm : Keyed.Sorted ms) {v : Json} (hv : ms.get? name = some v)
    (h : Changed os ms name) (hobj : v.isObject = false) :
    (differences os ms).get? name = some v := by
  rw [get?_differences os hm, hv]
  unfold Changed at h
  rw [hv] at h
  rcases hw : os.get? name with _ | w
  · rfl
  · have hwv : ¬ w.same v = true := by rwa [hw, sameMember_some_some] at h
    simp only [difference, if_neg hwv, hobj, Bool.and_false, Bool.false_eq_true, if_false]

/-- **Changes are taken over** by the members of any object. -/
theorem takesOver_patchMembers (ho : Keyed.Sorted os) (hm : Keyed.Sorted ms) (ts : Keyed Json) :
    TakesOver os ms ts (patchMembers ts (differences os ms)) where
  kept name h := by
    rw [get?_patchMembers (sorted_differences ho ms), get?_differences_of_not_changed hm h]
  removed name hold hnew := by
    rw [get?_patchMembers (sorted_differences ho ms), get?_differences os hm, hnew]
    simp [hold, change, isNull]
  written name v hv h hobj := by
    rw [get?_patchMembers (sorted_differences ho ms), get?_differences_of_changed hm hv h hobj]
    have hpatch (w : Json) : w.patch v = v := by cases v <;> first | rfl | cases hobj
    simp [change, hpatch]

end

/-! ## Changes at any depth -/

theorem same_descend {path : List String} {v w a b : Json} (hv : v.Canonical) (hw : w.Canonical)
    (h : v.same w = true) (ha : v.descend? path = some a) (hb : w.descend? path = some b) :
    a.same b = true := by
  induction path generalizing v w with
  | nil =>
    cases ha
    cases hb
    exact h
  | cons name path ih =>
    cases v with
    | object vs =>
      cases w with
      | object ws =>
        obtain ⟨v', hv', ha⟩ := descend?_object.mp ha
        obtain ⟨w', hw', hb⟩ := descend?_object.mp hb
        have hname := (sameMembers_iff hv.1 hw.1).mp h name
        rw [hv', hw', sameMember_some_some] at hname
        exact ih (canonical_of_get? hv.2 hv') (canonical_of_get? hw.2 hw') hname ha hb
      | _ => cases hb
    | _ => cases ha

theorem canonical_descend {path : List String} {v a : Json} (hv : v.Canonical)
    (ha : v.descend? path = some a) : a.Canonical := by
  induction path generalizing v with
  | nil =>
    cases ha
    exact hv
  | cons name path ih =>
    cases v with
    | object vs =>
      obtain ⟨w, hw, ha⟩ := descend?_object.mp ha
      exact ih (canonical_of_get? hv.2 hw) ha
    | _ => cases ha

theorem takesOver_self {os ms : Keyed Json} (ho : Keyed.Sorted os) (hm : Keyed.Sorted ms)
    (h : (object os).same (object ms) = true) (ts : Keyed Json) : TakesOver os ms ts ts := by
  have hsame := (sameMembers_iff ho hm).mp h
  refine ⟨fun _ _ => rfl, fun name hold hnew => ?_, fun name v _ hchanged _ => ?_⟩
  · have hname := hsame name
    rw [hnew] at hname
    simp [Keyed.has, sameMember_none.mp hname] at hold
  · exact absurd (hsame name) hchanged

theorem isObject_of_descend {path : List String} {v : Json} {ms : Keyed Json}
    (h : v.descend? path = some (object ms)) : v.isObject = true := by
  cases path with
  | nil =>
    cases h
    rfl
  | cons name path =>
    cases v with
    | object vs => rfl
    | _ => cases h

theorem get?_patchMembers_nested {os ms : Keyed Json} (ho : Keyed.Sorted os) (hm : Keyed.Sorted ms)
    (ts : Keyed Json) {name : String} {u v w : Json} (hu : ts.get? name = some u)
    (hv : ms.get? name = some v) (hw : os.get? name = some w) (hobj : (w.isObject && v.isObject) = true)
    (huobj : u.isObject = true) (hne : ¬ w.same v = true) :
    (patchMembers ts (differences os ms)).get? name = some (u.patch (w.diff v)) := by
  rw [get?_patchMembers (sorted_differences ho ms), get?_differences os hm, hv, hw]
  simp only [difference, if_neg hne, if_pos hobj]
  by_cases he : (w.diff v).isEmptyPatch = true
  · rw [if_pos he, hu, patch_of_isEmptyPatch huobj he]
  · rw [if_neg he]
    have hnull : (w.diff v).isNull = false := by
      cases v with
      | object vs => cases w <;> rfl
      | _ => simp [isObject, members?] at hobj
    simp [change, hnull, hu]

/-- **Changes are taken over at any depth**: by every object at a path where the other two values have
objects as well. -/
theorem takesOver_descend {path : List String} {o m t : Json} {os ms ts : Keyed Json}
    (ho : o.Canonical) (hm : m.Canonical) (hos : o.descend? path = some (object os))
    (hms : m.descend? path = some (object ms)) (hts : t.descend? path = some (object ts)) :
    ∃ rs, (t.patch (o.diff m)).descend? path = some (object rs) ∧ TakesOver os ms ts rs := by
  induction path generalizing o m t with
  | nil =>
    cases hos
    cases hms
    cases hts
    exact ⟨_, rfl, takesOver_patchMembers ho.1 hm.1 ts⟩
  | cons name path ih =>
    obtain ⟨os', rfl⟩ : ∃ os', o = object os' := by
      cases o with
      | object os' => exact ⟨os', rfl⟩
      | _ => cases hos
    obtain ⟨ms', rfl⟩ : ∃ ms', m = object ms' := by
      cases m with
      | object ms' => exact ⟨ms', rfl⟩
      | _ => cases hms
    obtain ⟨ts', rfl⟩ : ∃ ts', t = object ts' := by
      cases t with
      | object ts' => exact ⟨ts', rfl⟩
      | _ => cases hts
    obtain ⟨w, hw, hos⟩ := descend?_object.mp hos
    obtain ⟨v, hv, hms⟩ := descend?_object.mp hms
    obtain ⟨u, hu, hts⟩ := descend?_object.mp hts
    have hwc : w.Canonical := canonical_of_get? ho.2 hw
    have hvc : v.Canonical := canonical_of_get? hm.2 hv
    change ∃ rs, (object (patchMembers ts' (differences os' ms'))).descend? (name :: path) = _ ∧ _
    by_cases hsame : w.same v = true
    · -- the patch does not mention the member
      have hchanged : ¬ Changed os' ms' name := by
        unfold Changed
        rw [hw, hv]
        exact fun h => h (sameMember_some_some.mpr hsame)
      have hkept := (takesOver_patchMembers ho.1 hm.1 ts').kept name hchanged
      refine ⟨ts, descend?_object.mpr ⟨u, hkept.trans hu, hts⟩, ?_⟩
      have hobjects := same_descend hwc hvc hsame hos hms
      exact takesOver_self (canonical_descend hwc hos).1 (canonical_descend hvc hms).1 hobjects ts
    · have hobj : (w.isObject && v.isObject) = true := by
        rw [isObject_of_descend hos, isObject_of_descend hms, Bool.and_self]
      have hpatched := get?_patchMembers_nested ho.1 hm.1 ts' hu hv hw hobj (isObject_of_descend hts) hsame
      obtain ⟨rs, hrs, htakes⟩ := ih hwc hvc hos hms hts
      exact ⟨rs, descend?_object.mpr ⟨_, hpatched, hrs⟩, htakes⟩

/-! ## Patches in a sequence -/

theorem sorted_members? {t : Json} (ht : t.Canonical) : Keyed.Sorted (t.members?.getD []) := by
  cases t with
  | object ts => exact ht.1
  | _ => trivial

theorem canonical_getD {t : Json} (ht : t.Canonical) (name : String) :
    (((t.members?.getD []).get? name).getD null).Canonical := by
  rcases hv : Keyed.get? name (t.members?.getD []) with _ | v
  · trivial
  · cases t with
    | object ts => exact canonical_of_get? ht.2 hv
    | _ => cases hv

theorem patchMembers_comm {ts cs ds : Keyed Json} (ht : Keyed.Sorted ts) (hc : Keyed.Sorted cs)
    (hd : Keyed.Sorted ds) (h : ∀ name, cs.get? name = none ∨ ds.get? name = none) :
    patchMembers (patchMembers ts cs) ds = patchMembers (patchMembers ts ds) cs := by
  refine (sorted_patchMembers (sorted_patchMembers ht cs) ds).ext
    (sorted_patchMembers (sorted_patchMembers ht ds) cs) fun name => ?_
  rw [get?_patchMembers hd, get?_patchMembers hc, get?_patchMembers hc, get?_patchMembers hd]
  rcases h name with hnone | hnone <;> rw [hnone]

/-- **Patches from one object** that change different members may be applied in any order, to any
value. -/
theorem patch_comm {os ms ns : Keyed Json} (ho : Keyed.Sorted os) (hm : Keyed.Sorted ms)
    (hn : Keyed.Sorted ns) (h : ∀ name, Changed os ms name → ¬ Changed os ns name) {t : Json}
    (ht : t.Canonical) :
    (t.patch ((object os).diff (object ms))).patch ((object os).diff (object ns)) =
      (t.patch ((object os).diff (object ns))).patch ((object os).diff (object ms)) := by
  refine congrArg object (patchMembers_comm (sorted_members? ht) (sorted_differences ho ms)
    (sorted_differences ho ns) fun name => ?_)
  by_cases hchanged : Changed os ms name
  · exact .inr (get?_differences_of_not_changed hn (h name hchanged))
  · exact .inl (get?_differences_of_not_changed hm hchanged)

mutual

/-- **A patch that is applied again** changes nothing more. -/
theorem patch_patch {t : Json} (ht : t.Canonical) (p : Json) (hp : p.Canonical) :
    (t.patch p).patch p = t.patch p := by
  cases p with
  | object cs =>
    have hsorted := sorted_patchMembers (sorted_members? ht) cs
    refine congrArg object ((sorted_patchMembers hsorted cs).ext hsorted fun name => ?_)
    rw [get?_patchMembers hp.1, get?_patchMembers hp.1]
    cases hv : Keyed.get? name cs with
    | none => rfl
    | some v =>
      have hagain := patchMember_patch cs hp.2 _ (Keyed.mem_of_get? hv) _ (canonical_getD ht name)
      dsimp only [change]
      split
      · rfl
      · rw [Option.getD_some, hagain]
  | _ => rfl

theorem patchMember_patch (cs : List (String × Json)) (hcs : CanonicalMembers cs) :
    ∀ c ∈ cs, ∀ t : Json, t.Canonical → (t.patch c.2).patch c.2 = t.patch c.2 := by
  match cs, hcs with
  | [], _ => exact fun _ hc => absurd hc List.not_mem_nil
  | (_, v) :: cs, hcs =>
    exact List.forall_mem_cons.mpr
      ⟨fun t ht => patch_patch ht v hcs.1, patchMember_patch cs hcs.2⟩

end

/-! ## All values -/

/-- **Patches from an object that is out of date.** The patch between two objects is applied to any value.
Every object in the value, at a path where the other two have objects as well, takes over what changed
between these two, and nothing else. Patches from one object that change different members may be applied
in any order, and a patch may be applied again. -/
theorem patch_rebased {os ms : Keyed Json} (ho : (object os).Canonical) (hm : (object ms).Canonical) :
    (∀ (t : Json) path os' ms' ts', (object os).descend? path = some (object os') →
      (object ms).descend? path = some (object ms') → t.descend? path = some (object ts') →
        ∃ rs, (t.patch ((object os).diff (object ms))).descend? path = some (object rs) ∧
          TakesOver os' ms' ts' rs) ∧
    (∀ (ns : Keyed Json) (t : Json), (object ns).Canonical → t.Canonical →
      (∀ name, Changed os ms name → ¬ Changed os ns name) →
        (t.patch ((object os).diff (object ms))).patch ((object os).diff (object ns)) =
          (t.patch ((object os).diff (object ns))).patch ((object os).diff (object ms))) ∧
    ∀ t p : Json, t.Canonical → p.Canonical → (t.patch p).patch p = t.patch p :=
  ⟨fun _ _ _ _ _ hos hms hts => takesOver_descend ho hm hos hms hts,
    fun _ _ hn ht h => patch_comm ho.1 hm.1 hn.1 h ht, fun _ p ht hp => patch_patch ht p hp⟩

/-- The members of a status with a neighbor. -/
def neighboring (neighbor : Keyed Json) (state : String) : Keyed Json :=
  [("neighbor", .object neighbor), ("state", .string state)]

/-- The neighbor at a port, with its address. -/
def atPort (mac : String) : Keyed Json := [("mac", .string mac), ("port", .string "1")]

/-- A status as it is stored by now: the neighbor has a name, and is at no port. -/
def latest : Keyed Json := neighboring [("mac", .string "cc"), ("system", .string "spine")] "Ready"

/-- The general theorem at a status in which the address of the neighbor changed. The neighbor that is stored
gets the address, and is as it was otherwise. -/
theorem rebased_neighbor :
    (object (neighboring (atPort "aa") "Pending")).Canonical ∧
      (object (neighboring (atPort "bb") "Pending")).Canonical ∧
      ∃ rs : Keyed Json,
        ((object latest).patch ((object (neighboring (atPort "aa") "Pending")).diff
          (object (neighboring (atPort "bb") "Pending")))).descend? ["neighbor"] = some (object rs) ∧
        rs.get? "mac" = some (.string "bb") ∧ rs.get? "system" = some (.string "spine") ∧
        rs.get? "port" = none := by
  have hc (mac : String) : (object (neighboring (atPort mac) "Pending")).Canonical :=
    ⟨Keyed.sorted_pair (by decide), ⟨Keyed.sorted_pair (by decide), trivial, trivial, trivial⟩, trivial,
      trivial⟩
  obtain ⟨hdeep, -, -⟩ := patch_rebased (hc "aa") (hc "bb")
  obtain ⟨rs, hrs, htakes⟩ := hdeep (object latest) ["neighbor"] _ _ _ rfl rfl rfl
  have hmac : Changed (atPort "aa") (atPort "bb") "mac" :=
    fun h => absurd (sameMember_some_some.mp h) (by decide)
  refine ⟨hc "aa", hc "bb", rs, hrs, htakes.written "mac" _ rfl hmac rfl, ?_, ?_⟩
  · exact htakes.kept "system" fun h => h .none
  · exact htakes.kept "port" fun h => h (.some rfl)

end SwitchFleet.Json

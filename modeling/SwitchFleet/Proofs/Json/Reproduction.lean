import SwitchFleet.Proofs.Json.Merge
import SwitchFleet.Proofs.Json.Plain

/-!
# What merge patches reproduce

A merge patch cannot say that a member is to be `null`, since there `null` removes it. So the patch
between two values leads to the new one only where every `null` of the new one stands in a part that
need not be mentioned, because the old value has it already.

* `Json.descend?`: the part of a value at a path of member names.
* `Json.Full`: no member is `null`. `Json.Keeps`: every member that is `null` in the new value lies in
  a part that the old value has as well.
* `keeps_object`: the members of an object are kept one by one.
* `patch_diff_same`: the patch leads to the new value exactly if the old one keeps it.
* `isEmptyPatch_diff`: the patch between two objects is empty exactly if they are the same.
* `patch_diff`, `eq_of_isEmptyPatch`: what follows for plain values, none of whose members is `null`.
* **`merge_reproduces`**: what merge patches between any two values reproduce.
-/

namespace SwitchFleet.Json

/-! ## Paths -/

/-- The part of a value at a path of member names. -/
def descend? : List String → Json → Option Json
  | [], v => some v
  | name :: path, v => (v.get? name).bind (descend? path)

/-- No member of a value is `null`, at any depth of nested objects. -/
def Full (v : Json) : Prop := ∀ path ≠ [], v.descend? path ≠ some .null

/-- Every member of the new value that is `null`, at any depth of nested objects, lies in a part of it
that the old value has as well, at the same path. -/
def Keeps (old new : Json) : Prop :=
  ∀ path ≠ [], new.descend? path = some .null →
    ∃ start, start <+: path ∧ ∃ v w, old.descend? start = some v ∧ new.descend? start = some w ∧
      v.same w = true

theorem Full.keeps {old new : Json} (h : new.Full) : old.Keeps new :=
  fun path hp hnull => absurd hnull (h path hp)

theorem Keeps.of_same {old new : Json} (h : old.same new = true) : old.Keeps new :=
  fun _ _ _ => ⟨[], List.nil_prefix, old, new, rfl, rfl, h⟩

theorem descend?_object {ms : Keyed Json} {name : String} {path : List String} {w : Json} :
    (object ms).descend? (name :: path) = some w ↔
      ∃ v, ms.get? name = some v ∧ v.descend? path = some w :=
  Option.bind_eq_some_iff

theorem get?_of_not_object {v : Json} (hv : v.members? = none) (name : String) :
    v.get? name = none := by
  rw [get?, hv]
  rfl

theorem full_of_not_object {v : Json} (hv : v.members? = none) : v.Full := by
  intro path hp h
  cases path with
  | nil => exact hp rfl
  | cons name path =>
    rw [descend?, get?_of_not_object hv] at h
    cases h

theorem isNull_iff {v : Json} : v.isNull = true ↔ v = null := by
  cases v <;> simp [isNull]

theorem full_object {ms : Keyed Json} :
    (object ms).Full ↔ ∀ name v, ms.get? name = some v → v.isNull = false ∧ v.Full := by
  constructor
  · intro h name v hv
    refine ⟨Bool.eq_false_iff.mpr fun hnull => ?_, fun path _ hpath => ?_⟩
    · exact h [name] (List.cons_ne_nil _ _)
        (descend?_object.mpr ⟨v, hv, congrArg some (isNull_iff.mp hnull)⟩)
    · exact h (name :: path) (List.cons_ne_nil _ _) (descend?_object.mpr ⟨v, hv, hpath⟩)
  · intro h path hp hnull
    cases path with
    | nil => exact hp rfl
    | cons name path =>
      obtain ⟨v, hv, hpath⟩ := descend?_object.mp hnull
      obtain ⟨hne, hfull⟩ := h name v hv
      cases path with
      | nil =>
        cases hpath
        cases hne
      | cons _ _ => exact hfull _ (List.cons_ne_nil _ _) hpath

/-- Whether the old value of a member, if there is one, keeps the new one: it is the same, or the new
one is not `null` itself and its members are kept. -/
def KeepsMember : Option Json → Json → Prop
  | none, v => v.isNull = false ∧ v.Full
  | some w, v => w.same v = true ∨ v.isNull = false ∧ w.Keeps v

theorem keeps_of_not_object {old new : Json} (ho : old.members? = none) :
    old.Keeps new ↔ old.same new = true ∨ new.Full := by
  constructor
  · intro h
    by_cases hfull : new.Full
    · exact .inr hfull
    obtain ⟨path, hpath⟩ := Classical.not_forall.mp hfull
    obtain ⟨hp, hnull⟩ := Classical.not_imp.mp hpath
    obtain ⟨start, -, v, w, hv, hw, hvw⟩ := h path hp (Classical.not_not.mp hnull)
    cases start with
    | nil =>
      cases hv
      cases hw
      exact .inl hvw
    | cons name start =>
      rw [descend?, get?_of_not_object ho] at hv
      cases hv
  · rintro (h | h)
    · exact .of_same h
    · exact h.keeps

/-- **Members are kept one by one.** -/
theorem keeps_object {os ms : Keyed Json} (ho : Keyed.Sorted os) (hm : Keyed.Sorted ms) :
    (object os).Keeps (object ms) ↔
      ∀ name v, ms.get? name = some v → KeepsMember (os.get? name) v := by
  constructor
  · intro h name v hv
    by_cases hsame : ∃ w, os.get? name = some w ∧ w.same v = true
    · obtain ⟨w, hw, hwv⟩ := hsame
      rw [hw]
      exact .inl hwv
    -- where a path goes through `name`, the objects as a whole are no part that is the same
    have step {path : List String} (hnull : v.descend? path = some .null) :
        ∃ start, start <+: path ∧ ∃ w, os.get? name = some w ∧ ∃ v' w',
          w.descend? start = some v' ∧ v.descend? start = some w' ∧ v'.same w' = true := by
      obtain ⟨start, hstart, v', w', hv', hw', hsame'⟩ := h (name :: path) (List.cons_ne_nil _ _)
        (descend?_object.mpr ⟨v, hv, hnull⟩)
      cases start with
      | nil =>
        cases hv'
        cases hw'
        have hname := (sameMembers_iff ho hm).mp hsame' name
        rw [hv] at hname
        exact absurd (sameMember_some.mp hname) hsame
      | cons k start =>
        obtain ⟨rfl, hprefix⟩ := List.cons_prefix_cons.mp hstart
        obtain ⟨w, hw, hv'⟩ := descend?_object.mp hv'
        obtain ⟨u, hu, hw'⟩ := descend?_object.mp hw'
        cases hv.symm.trans hu
        exact ⟨start, hprefix, w, hw, v', w', hv', hw', hsame'⟩
    have hne : v.isNull = false := by
      refine Bool.eq_false_iff.mpr fun hnull => ?_
      obtain ⟨start, hstart, w, hw, v', w', hv', hw', hsame'⟩ :=
        @step [] (congrArg some (isNull_iff.mp hnull))
      obtain rfl := List.prefix_nil.mp hstart
      cases hv'
      cases hw'
      exact hsame ⟨w, hw, hsame'⟩
    cases hw : os.get? name with
    | none =>
      refine ⟨hne, fun path _ hnull => ?_⟩
      obtain ⟨-, -, w, hw', -⟩ := step hnull
      cases hw.symm.trans hw'
    | some w =>
      refine .inr ⟨hne, fun path _ hnull => ?_⟩
      obtain ⟨start, hstart, w', hw', hsame'⟩ := step hnull
      cases hw.symm.trans hw'
      exact ⟨start, hstart, hsame'⟩
  · intro h path hp hnull
    cases path with
    | nil => exact absurd rfl hp
    | cons name path =>
      obtain ⟨v, hv, hpath⟩ := descend?_object.mp hnull
      have hkeeps := h name v hv
      have hempty (hne : v.isNull = false) : path ≠ [] := by
        rintro rfl
        cases hpath
        cases hne
      cases hw : os.get? name with
      | none =>
        rw [hw] at hkeeps
        exact absurd hpath (hkeeps.2 path (hempty hkeeps.1))
      | some w =>
        rw [hw] at hkeeps
        rcases hkeeps with hsame | ⟨hne, hkeeps⟩
        · exact ⟨[name], ⟨path, rfl⟩, w, v, descend?_object.mpr ⟨w, hw, rfl⟩,
            descend?_object.mpr ⟨v, hv, rfl⟩, hsame⟩
        · obtain ⟨start, hstart, v', w', hv', hw', hsame⟩ := hkeeps path (hempty hne) hpath
          exact ⟨name :: start, List.cons_prefix_cons.mpr ⟨rfl, hstart⟩, v', w',
            descend?_object.mpr ⟨w, hw, hv'⟩, descend?_object.mpr ⟨v, hv, hw'⟩, hsame⟩

/-! ## Patches of what is no object -/

/-- A change leads to a value exactly if it does not remove the member, and its patch leads there. -/
theorem sameMember_change {old : Option Json} {v w : Json} :
    SameMember (change old v) (some w) ↔
      v.isNull = false ∧ ((old.getD null).patch v).same w = true := by
  rw [change]
  split
  · rename_i hnull
    exact iff_of_false (fun h => by cases h) fun h => by rw [hnull] at h; cases h.1
  · rename_i hnull
    rw [sameMember_some_some, and_iff_right (Bool.eq_false_iff.mpr hnull)]

theorem canonical_of_get? {ms : Keyed Json} (hms : CanonicalMembers ms) {name : String} {v : Json}
    (hv : ms.get? name = some v) : v.Canonical := by
  induction ms with
  | nil => cases hv
  | cons m ms ih =>
    rw [Keyed.get?] at hv
    split at hv
    · cases hv
      exact hms.1
    · exact ih hms.2 hv

mutual

theorem patch_same_of_not_object {target : Json} (ht : target.members? = none) (v : Json)
    (hv : v.Canonical) : (target.patch v).same v = true ↔ v.Full := by
  cases v with
  | object ms =>
    rw [patch, ht, Option.getD_none, same,
      sameMembers_iff (@sorted_patchMembers [] trivial ms) hv.1, full_object]
    refine forall_congr' fun name => ?_
    rw [get?_patchMembers hv.1]
    cases hn : Keyed.get? name ms with
    | none => exact iff_of_true .none fun _ h => nomatch h
    | some w =>
      have hw := patchMember_same ms hv.2 _ (Keyed.mem_of_get? hn) (canonical_of_get? hv.2 hn)
      simp only [Keyed.get?_nil, Option.some.injEq, forall_eq']
      rw [sameMember_change, Option.getD_none, hw]
  | _ => exact iff_of_true (same_self _) (full_of_not_object rfl)

theorem patchMember_same (ms : List (String × Json)) (hms : CanonicalMembers ms) :
    ∀ m ∈ ms, m.2.Canonical → ((null.patch m.2).same m.2 = true ↔ m.2.Full) := by
  match ms, hms with
  | [], _ => exact fun _ hm => absurd hm List.not_mem_nil
  | (_, v) :: ms, hms =>
    exact List.forall_mem_cons.mpr
      ⟨fun hv => patch_same_of_not_object rfl v hv, patchMember_same ms hms.2⟩

end

/-! ## Patches between values -/

/-- What a patch says about a member makes its old value the new one exactly if the old one keeps
it. -/
theorem change_same {old : Option Json} {v : Json} (hv : v.Canonical)
    (hd : ∀ w ∈ old, ((w.patch (w.diff v)).same v = true ↔ w.Keeps v)) :
    SameMember (match difference old v with
      | some d => change old d
      | none => old) (some v) ↔ KeepsMember old v := by
  rcases old with _ | w
  · change SameMember (change none v) (some v) ↔ v.isNull = false ∧ v.Full
    rw [sameMember_change, Option.getD_none, patch_same_of_not_object rfl v hv]
  have hpatch := hd w rfl
  by_cases hs : w.same v = true
  · rw [show difference (some w) v = none by simp only [difference, if_pos hs]]
    exact iff_of_true (.some hs) (.inl hs)
  rw [KeepsMember, or_iff_right hs]
  rcases hobj : w.isObject && v.isObject
  · -- the new value takes the place of the old one
    rw [show difference (some w) v = some v by
      simp only [difference, if_neg hs, hobj, Bool.false_eq_true, if_false]]
    dsimp only
    rw [sameMember_change, Option.getD_some]
    refine and_congr_right fun _ => ?_
    cases hvo : v.members? with
    | none =>
      have hpv : w.patch v = v := by cases v <;> first | rfl | cases hvo
      rw [hpv]
      exact iff_of_true (same_self v) (full_of_not_object hvo).keeps
    | some ms =>
      have hwo : w.members? = none := by
        rw [isObject, isObject, hvo, Option.isSome_some, Bool.and_true] at hobj
        exact Option.not_isSome_iff_eq_none.mp (Bool.eq_false_iff.mp hobj)
      rw [patch_same_of_not_object hwo v hv, keeps_of_not_object hwo, or_iff_right hs]
  · obtain ⟨hw, hvo⟩ := Bool.and_eq_true_iff.mp hobj
    have hnull : v.isNull = false := by cases v <;> first | rfl | cases hvo
    rw [and_iff_right hnull]
    by_cases he : (w.diff v).isEmptyPatch = true
    · rw [show difference (some w) v = none by
        simp only [difference, if_neg hs, if_pos hobj, if_pos he]]
      rw [patch_of_isEmptyPatch hw he] at hpatch
      exact sameMember_some_some.trans hpatch
    · rw [show difference (some w) v = some (w.diff v) by
        simp only [difference, if_neg hs, if_pos hobj, if_neg he]]
      have hdiff : (w.diff v).isNull = false := by
        cases v <;> first | (cases w <;> rfl) | cases hvo
      dsimp only
      rw [sameMember_change, and_iff_right hdiff]
      exact hpatch

mutual

/-- **The patch between two values** leads to the new one exactly if the old one keeps it. -/
theorem patch_diff_same {old : Json} (ho : old.Canonical) (new : Json) (hn : new.Canonical) :
    (old.patch (old.diff new)).same new = true ↔ old.Keeps new := by
  cases new with
  | object ms =>
    cases old with
    | object os =>
      change (Json.object (patchMembers os (differences os ms))).same _ = true ↔ _
      rw [same, sameMembers_iff (sorted_patchMembers ho.1 _) hn.1, keeps_object ho.1 hn.1]
      refine forall_congr' fun name => ?_
      rw [get?_patchMembers (sorted_differences ho.1 ms), get?_differences os hn.1]
      cases hm : Keyed.get? name ms with
      | none =>
        refine iff_of_true (sameMember_none.mpr ?_) fun _ h => nomatch h
        cases hos : Keyed.get? name os <;> simp [Keyed.has, hos, change, isNull]
      | some v =>
        simp only [Option.some.injEq, forall_eq']
        exact change_same (canonical_of_get? hn.2 hm) fun w hw =>
          patch_diff_same_members ms hn.2 _ (Keyed.mem_of_get? hm) w (canonical_of_get? ho.2 hw)
    | _ =>
      refine (patch_same_of_not_object rfl _ hn).trans ((keeps_of_not_object rfl).trans ?_).symm
      exact or_iff_right Bool.false_ne_true
  | _ => exact iff_of_true (same_self _) (full_of_not_object rfl).keeps

theorem patch_diff_same_members (ms : List (String × Json)) (hms : CanonicalMembers ms) :
    ∀ m ∈ ms, ∀ w : Json, w.Canonical → ((w.patch (w.diff m.2)).same m.2 = true ↔ w.Keeps m.2) := by
  match ms, hms with
  | [], _ => exact fun _ hm => absurd hm List.not_mem_nil
  | (_, v) :: ms, hms =>
    exact List.forall_mem_cons.mpr
      ⟨fun w hw => patch_diff_same hw v hms.1, patch_diff_same_members ms hms.2⟩

end

/-! ## Empty patches -/

theorem isEmpty_iff_get? {ms : Keyed Json} : ms.isEmpty = true ↔ ∀ name, ms.get? name = none := by
  cases ms with
  | nil => exact iff_of_true rfl fun _ => rfl
  | cons m ms =>
    refine iff_of_false Bool.false_ne_true fun h => ?_
    have hm := h m.1
    simp [Keyed.get?] at hm

theorem difference_eq_none {old : Option Json} {v : Json}
    (hd : ∀ w ∈ old, w.isObject = true → v.isObject = true →
      ((w.diff v).isEmptyPatch = true ↔ w.same v = true)) :
    difference old v = none ↔ SameMember old (some v) := by
  rcases old with _ | w
  · exact iff_of_false (fun h => nomatch h) fun h => nomatch h
  rw [sameMember_some_some, difference]
  by_cases hs : w.same v = true
  · exact iff_of_true (if_pos hs) hs
  rw [if_neg hs]
  split
  · rename_i hobj
    obtain ⟨hw, hv⟩ := Bool.and_eq_true_iff.mp hobj
    have he : ¬ (w.diff v).isEmptyPatch = true := fun h => hs ((hd w rfl hw hv).mp h)
    rw [if_neg he]
    exact iff_of_false (fun h => nomatch h) hs
  · exact iff_of_false (fun h => nomatch h) hs

mutual

/-- **The patch between two objects** is empty exactly if they are the same. -/
theorem isEmptyPatch_diff {old : Json} (ho : old.Canonical) (new : Json) (hn : new.Canonical)
    (hoo : old.isObject = true) (hno : new.isObject = true) :
    (old.diff new).isEmptyPatch = true ↔ old.same new = true := by
  cases new with
  | object ms =>
    cases old with
    | object os =>
      change (differences os ms).isEmpty = true ↔ _
      rw [isEmpty_iff_get?, same, sameMembers_iff ho.1 hn.1]
      refine forall_congr' fun name => ?_
      rw [get?_differences os hn.1]
      cases hm : Keyed.get? name ms with
      | none => cases hos : Keyed.get? name os <;> simp [Keyed.has, hos]
      | some v =>
        exact difference_eq_none fun w hw =>
          isEmptyPatch_diff_members ms hn.2 _ (Keyed.mem_of_get? hm) w (canonical_of_get? ho.2 hw)
    | _ => cases hoo
  | _ => cases hno

theorem isEmptyPatch_diff_members (ms : List (String × Json)) (hms : CanonicalMembers ms) :
    ∀ m ∈ ms, ∀ w : Json, w.Canonical → w.isObject = true → m.2.isObject = true →
      ((w.diff m.2).isEmptyPatch = true ↔ w.same m.2 = true) := by
  match ms, hms with
  | [], _ => exact fun _ hm => absurd hm List.not_mem_nil
  | (_, v) :: ms, hms =>
    exact List.forall_mem_cons.mpr
      ⟨fun w hw => isEmptyPatch_diff hw v hms.1, isEmptyPatch_diff_members ms hms.2⟩

end

/-! ## Plain values -/

theorem plain_of_get? {ms : Keyed Json} (hms : PlainMembers ms) {name : String} {v : Json}
    (hv : ms.get? name = some v) : v.Plain :=
  plainMembers_iff.mp hms _ (Keyed.mem_of_get? hv)

theorem Plain.descend? {v w : Json} (hv : v.Plain) {path : List String}
    (h : v.descend? path = some w) : w.Plain := by
  induction path generalizing v with
  | nil =>
    cases h
    exact hv
  | cons name path ih =>
    cases v with
    | object ms =>
      obtain ⟨u, hu, h⟩ := descend?_object.mp h
      exact ih (plain_of_get? hv.2 hu) h
    | _ => cases h

theorem Plain.full {v : Json} (hv : v.Plain) : v.Full := fun _ _ h => hv.descend? h

mutual

theorem Plain.canonical {v : Json} (hv : v.Plain) : v.Canonical := by
  cases v with
  | array xs => exact PlainItems.canonical xs hv
  | object ms => exact ⟨hv.1, PlainMembers.canonical ms hv.2⟩
  | _ => trivial

theorem PlainItems.canonical (xs : List Json) (hxs : PlainItems xs) : CanonicalItems xs := by
  match xs, hxs with
  | [], _ => trivial
  | _ :: xs, hxs => exact ⟨hxs.1.canonical, PlainItems.canonical xs hxs.2⟩

theorem PlainMembers.canonical (ms : List (String × Json)) (hms : PlainMembers ms) :
    CanonicalMembers ms := by
  match ms, hms with
  | [], _ => trivial
  | _ :: ms, hms => exact ⟨hms.1.canonical, PlainMembers.canonical ms hms.2⟩

end

theorem patch_diff {old : Json} (ho : old.Plain) (new : Json) (hn : new.Plain) :
    old.patch (old.diff new) = new :=
  (same_iff hn).mp ((patch_diff_same ho.canonical new hn.canonical).mpr hn.full.keeps)

theorem eq_of_isEmptyPatch {old new : Json} (ho : old.Plain) (hn : new.Plain)
    (hobj : old.isObject = true) (he : (old.diff new).isEmptyPatch = true) : old = new :=
  (patch_of_isEmptyPatch hobj he).symm.trans (patch_diff ho new hn)

/-! ## All values -/

/-- **What merge patches reproduce.** The patch between two values leads from the old one to the new
one exactly if every member that is `null` in the new one lies in a part that the old one has as well;
in particular wherever no member of the new one is `null`. The patch between two objects is empty
exactly if they are the same. -/
theorem merge_reproduces {old new : Json} (ho : old.Canonical) (hn : new.Canonical) :
    ((old.patch (old.diff new)).same new = true ↔ old.Keeps new) ∧
      (new.Full → (old.patch (old.diff new)).same new = true) ∧
      (old.isObject = true → new.isObject = true →
        ((old.diff new).isEmptyPatch = true ↔ old.same new = true)) :=
  ⟨patch_diff_same ho new hn, fun hfull => (patch_diff_same ho new hn).mpr hfull.keeps,
    isEmptyPatch_diff ho new hn⟩

/-- A status with a neighbor, the port of which is not known. -/
def sighting (mac : Json) : Json :=
  .object [("neighbor", .object [("mac", mac), ("port", .null)]), ("state", .null)]

/-- A port that is not known before stays so, while a patch cannot say that a neighbor loses its
address. -/
theorem keeps_sighting :
    (sighting (.string "aa")).Canonical ∧ (sighting (.string "bb")).Canonical ∧
      (sighting .null).Canonical ∧ (sighting (.string "aa")).Keeps (sighting (.string "bb")) ∧
      ¬ (sighting (.string "aa")).Keeps (sighting .null) := by
  have hc (mac : Json) (hm : mac.Canonical) : (sighting mac).Canonical := by
    refine ⟨Keyed.sorted_pair (by decide), ⟨Keyed.sorted_pair (by decide), hm, trivial, trivial⟩, ?_⟩
    exact ⟨trivial, trivial⟩
  have haa := hc (.string "aa") trivial
  have hbb := hc (.string "bb") trivial
  have hnull := hc .null trivial
  refine ⟨haa, hbb, hnull, (merge_reproduces haa hbb).1.mp (by rfl), fun h => ?_⟩
  exact absurd ((merge_reproduces haa hnull).1.mpr h) (by decide)

end SwitchFleet.Json

import SwitchFleet.Json.Basic
import SwitchFleet.Proofs.Keyed

/-!
# Equality of values

* `Json.same_self`: every value is the same as itself.
* `Json.SameMember`: two members are the same, or both are missing.
* **`sameMembers_iff`**: two objects in order are the same exactly if they agree on every name.
-/

namespace SwitchFleet.Json

theorem same_number (n : Number) : n.same n = true := by
  cases n with
  | int n => exact beq_self_eq_true n
  | float x => simp [Number.same, Binary64.same]

mutual

theorem same_self (v : Json) : v.same v = true := by
  cases v with
  | null => rfl
  | bool b => exact beq_self_eq_true b
  | number n => exact same_number n
  | string s => exact beq_self_eq_true s
  | array xs => exact sameItems_self xs
  | object ms => exact sameMembers_self ms

theorem sameItems_self (xs : List Json) : sameItems xs xs = true := by
  match xs with
  | [] => rfl
  | x :: xs => rw [sameItems, same_self x, sameItems_self xs, Bool.and_self]

theorem sameMembers_self (ms : List (String × Json)) : sameMembers ms ms = true := by
  match ms with
  | [] => rfl
  | (k, x) :: ms =>
    rw [sameMembers, same_self x, sameMembers_self ms, beq_self_eq_true, Bool.and_self, Bool.and_self]

end

/-! ## Members -/

/-- Two members are the same, or both are missing. -/
abbrev SameMember : Option Json → Option Json → Prop := Option.Rel fun v w => v.same w = true

theorem sameMember_none {v : Option Json} : SameMember v none ↔ v = none :=
  ⟨fun h => by cases h; rfl, by rintro rfl; exact .none⟩

theorem sameMember_some {v : Option Json} {w : Json} :
    SameMember v (some w) ↔ ∃ u, v = some u ∧ u.same w = true :=
  ⟨fun h => by cases h with | some h => exact ⟨_, rfl, h⟩, fun ⟨_, hv, h⟩ => hv ▸ .some h⟩

theorem sameMember_some_some {v w : Json} :
    SameMember (some v) (some w) ↔ v.same w = true := Option.rel_some_some

theorem sameMembers_iff {ms ns : Keyed Json} (hm : Keyed.Sorted ms) (hn : Keyed.Sorted ns) :
    sameMembers ms ns = true ↔ ∀ name, SameMember (ms.get? name) (ns.get? name) := by
  induction ms generalizing ns with
  | nil =>
    cases ns with
    | nil => exact iff_of_true rfl fun _ => .none
    | cons n ns =>
      refine iff_of_false Bool.false_ne_true fun h => ?_
      have hk := h n.1
      simp [Keyed.get?] at hk
  | cons m ms ih =>
    obtain ⟨k, v⟩ := m
    cases ns with
    | nil =>
      refine iff_of_false Bool.false_ne_true fun h => ?_
      have hk := h k
      simp [Keyed.get?] at hk
    | cons n ns =>
      obtain ⟨l, w⟩ := n
      rw [sameMembers, Bool.and_eq_true, Bool.and_eq_true, beq_iff_eq, ih hm.2 hn.2]
      constructor
      · rintro ⟨⟨rfl, hvw⟩, hrest⟩ name
        by_cases hname : name = k
        · simpa [Keyed.get?, hname] using hvw
        · simpa [Keyed.get?, hname] using hrest name
      · intro h
        have hkl : k = l := by
          refine Decidable.byContradiction fun hne => ?_
          have hk := h k
          have hl := h l
          simp only [Keyed.get?, if_true, if_neg hne, if_neg (Ne.symm hne)] at hk hl
          obtain ⟨w', hw'⟩ : ∃ w', Keyed.get? k ns = some w' := by
            cases hg : Keyed.get? k ns with
            | none => rw [hg] at hk; cases hk
            | some w' => exact ⟨w', rfl⟩
          obtain ⟨v', hv', -⟩ := sameMember_some.mp hl
          exact String.lt_irrefl k
            (String.lt_trans (hm.1 _ (Keyed.mem_of_get? hv')) (hn.1 _ (Keyed.mem_of_get? hw')))
        subst hkl
        refine ⟨⟨rfl, ?_⟩, fun name => ?_⟩
        · simpa [Keyed.get?] using h k
        · by_cases hname : name = k
          · rw [hname, hm.get?_head, hn.get?_head]
            exact .none
          · simpa [Keyed.get?, hname] using h name

end SwitchFleet.Json

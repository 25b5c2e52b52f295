import SwitchFleet.Proofs.Json.Same
import SwitchFleet.Proofs.Json.Tokens

/-!
# Plain values

A value is plain if it holds neither `null` nor a binary64 number nor an integer of more than 64 bits,
and all of its objects are in order. Plain values are read back from their texts, compared by equality,
and reached by merge patches.

* `Json.Plain`: the plain values.
* `Plain.printable`: they are printable.
* **`same_iff`**: they are the same exactly if they are equal.
-/

namespace SwitchFleet.Json

mutual

/-- The plain values. -/
def Plain : Json → Prop
  | .null => False
  | .bool _ => True
  | .number (.int n) => -(UInt64.size : Int) ≤ 2 * n ∧ n < UInt64.size
  | .number (.float _) => False
  | .string _ => True
  | .array xs => PlainItems xs
  | .object ms => Keyed.Sorted ms ∧ PlainMembers ms

/-- The lists of plain values. -/
def PlainItems : List Json → Prop
  | [] => True
  | x :: xs => x.Plain ∧ PlainItems xs

/-- The lists of members with plain values. -/
def PlainMembers : List (String × Json) → Prop
  | [] => True
  | (_, x) :: ms => x.Plain ∧ PlainMembers ms

end

theorem plainItems_iff {xs : List Json} : PlainItems xs ↔ ∀ x ∈ xs, x.Plain := by
  induction xs with
  | nil => simp [PlainItems]
  | cons x xs ih => rw [PlainItems, ih, List.forall_mem_cons]

theorem plainMembers_iff {ms : List (String × Json)} :
    PlainMembers ms ↔ ∀ m ∈ ms, m.2.Plain := by
  induction ms with
  | nil => simp [PlainMembers]
  | cons m ms ih => rw [PlainMembers, ih, List.forall_mem_cons]

theorem Plain.not_null {v : Json} (hv : v.Plain) : v.isNull = false := by
  cases v with
  | null => exact hv.elim
  | _ => rfl

theorem plain_ofMembers {ms : List (String × Json)} (hms : ∀ m ∈ ms, m.2.Plain) :
    (ofMembers ms).Plain :=
  ⟨Keyed.sorted_ofList ms, plainMembers_iff.mpr fun m hm => hms m (Keyed.mem_of_mem_ofList hm)⟩

/-! ## Printing -/

mutual

/-- Plain values are printable. -/
theorem Plain.printable {v : Json} (hv : v.Plain) : v.Printable := by
  cases v with
  | null => exact hv.elim
  | bool | string => trivial
  | number n =>
    cases n with
    | int n => exact hv
    | float x => exact hv.elim
  | array xs => exact PlainItems.printable xs hv
  | object ms => exact PlainMembers.printable ms hv.2

theorem PlainItems.printable (xs : List Json) (hxs : PlainItems xs) : PrintableItems xs := by
  match xs, hxs with
  | [], _ => trivial
  | x :: xs, hxs => exact ⟨Plain.printable hxs.1, PlainItems.printable xs hxs.2⟩

theorem PlainMembers.printable (ms : List (String × Json)) (hms : PlainMembers ms) :
    PrintableMembers ms := by
  match ms, hms with
  | [], _ => trivial
  | (_, x) :: ms, hms => exact ⟨Plain.printable hms.1, PlainMembers.printable ms hms.2⟩

end

/-! ## Equality -/

mutual

theorem eq_of_same {v w : Json} (hw : w.Plain) (h : v.same w = true) : v = w := by
  cases w with
  | null => exact hw.elim
  | bool b =>
    cases v <;> simp_all [same]
  | string s =>
    cases v <;> simp_all [same]
  | number n =>
    cases n with
    | int n =>
      cases v with
      | number m => cases m <;> simp_all [same, Number.same]
      | _ => simp [same] at h
    | float x => exact hw.elim
  | array xs =>
    cases v with
    | array ys => exact congrArg _ (eq_of_sameItems xs hw h)
    | _ => simp [same] at h
  | object ms =>
    cases v with
    | object ns => exact congrArg _ (eq_of_sameMembers ms hw.2 h)
    | _ => simp [same] at h

theorem eq_of_sameItems {ys : List Json} (xs : List Json) (hxs : PlainItems xs)
    (h : sameItems ys xs = true) : ys = xs := by
  match xs, ys, hxs, h with
  | [], [], _, _ => rfl
  | x :: xs, y :: ys, hxs, h =>
    obtain ⟨h₁, h₂⟩ := Bool.and_eq_true_iff.mp h
    rw [eq_of_same hxs.1 h₁, eq_of_sameItems xs hxs.2 h₂]

theorem eq_of_sameMembers {ns : List (String × Json)} (ms : List (String × Json))
    (hms : PlainMembers ms) (h : sameMembers ns ms = true) : ns = ms := by
  match ms, ns, hms, h with
  | [], [], _, _ => rfl
  | (k, x) :: ms, (l, y) :: ns, hms, h =>
    obtain ⟨h₁, h₂⟩ := Bool.and_eq_true_iff.mp h
    obtain ⟨h₀, h₁⟩ := Bool.and_eq_true_iff.mp h₁
    rw [eq_of_beq h₀, eq_of_same hms.1 h₁, eq_of_sameMembers ms hms.2 h₂]

end

/-- **Plain values** are the same exactly if they are equal. -/
theorem same_iff {v w : Json} (hw : w.Plain) : v.same w = true ↔ v = w :=
  ⟨eq_of_same hw, by rintro rfl; exact same_self _⟩

end SwitchFleet.Json

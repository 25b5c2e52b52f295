import Mathlib.Data.String.Basic
import SwitchFleet.Agent.Operations

/-!
# Keys and the names after their beginnings

* **`nameAfter?_eq_some_iff`**: a key leads to a name if it is its beginning and this name, and the name
  is not empty.
* **`matchesKey_append_star`**: a beginning and a star match the keys with this beginning.
* `append_lt_append_iff`: keys with the same beginning are in the order of their names.
-/

namespace SwitchFleet.Agent

variable {start key name : String}

theorem afterStart?_append (start name : String) :
    Text.afterStart? start (start ++ name) = some name := by
  unfold Text.afterStart?
  rw [String.toList_append, if_pos (List.isPrefixOf_iff_prefix.mpr (List.prefix_append _ _)),
    List.drop_left, String.ofList_toList]

theorem eq_append_of_afterStart? (h : Text.afterStart? start key = some name) :
    key = start ++ name := by
  unfold Text.afterStart? at h
  split at h
  · rename_i hstart
    obtain ⟨rest, hrest⟩ := List.isPrefixOf_iff_prefix.mp hstart
    rw [← hrest, List.drop_left] at h
    cases h
    apply String.toList_injective
    rw [← hrest, String.toList_append, String.toList_ofList]
  · cases h

/-- **The name of a key.** -/
theorem nameAfter?_eq_some_iff :
    nameAfter? start key = some name ↔ name ≠ "" ∧ key = start ++ name := by
  unfold nameAfter?
  rw [Option.filter_eq_some_iff]
  constructor
  · rintro ⟨hafter, hn⟩
    exact ⟨by simpa using hn, eq_append_of_afterStart? hafter⟩
  · rintro ⟨hn, rfl⟩
    exact ⟨afterStart?_append start name, by simpa using hn⟩

/-- **Keys with a beginning.** -/
theorem matchesKey_append_star :
    Content.matchesKey (start ++ "*") key = true ↔ ∃ name, start ++ name = key := by
  have hstar : (start ++ "*").toList.reverse = '*' :: start.toList.reverse := by
    rw [String.toList_append, List.reverse_append]
    rfl
  unfold Content.matchesKey
  rw [hstar]
  show start.toList.reverse.reverse.isPrefixOf key.toList = true ↔ _
  rw [List.reverse_reverse, List.isPrefixOf_iff_prefix]
  constructor
  · rintro ⟨rest, hrest⟩
    refine ⟨String.ofList rest, String.toList_injective ?_⟩
    rw [String.toList_append, String.toList_ofList, hrest]
  · rintro ⟨name, rfl⟩
    exact ⟨name.toList, String.toList_append.symm⟩

theorem append_lt_append_iff {a b : String} : start ++ a < start ++ b ↔ a < b := by
  have hmono {a b : String} (hab : a < b) : start ++ a < start ++ b := by
    rw [String.lt_iff_toList_lt, String.toList_append, String.toList_append]
    exact List.append_left_lt (String.lt_iff_toList_lt.mp hab)
  refine ⟨fun h => ?_, hmono⟩
  rcases lt_trichotomy a b with hlt | rfl | hgt
  · exact hlt
  · exact absurd h (lt_irrefl _)
  · exact absurd h (lt_asymm (hmono hgt))

end SwitchFleet.Agent

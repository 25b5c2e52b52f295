import SwitchFleet.Agent.Manifest
import SwitchFleet.Proofs.Keyed
import SwitchFleet.Proofs.Text.Cutting
import SwitchFleet.Proofs.Text.Trimming

/-!
# What a manifest says

* `Manifest.Says`: a line gives a key a value. **`entry?_eq_some_iff`**: the entry of a line.
* `Manifest.SaysLast`: the last line that gives a key a value. **`get?_parse_iff`**: this line counts.
-/

namespace SwitchFleet.Manifest

open Text

/-! ## Lines -/

/-- A line without blanks at its ends is neither a comment nor a separator. -/
structure Counts (core : List Char) : Prop where
  no_comment : ¬ ['#'] <+: core
  no_separator : ¬ ['-', '-', '-'] <+: core

/-- A line gives a key a value. -/
inductive Says (line : List Char) (key value : String) : Prop
  | intro {core before after inner : List Char} (trimmed : Trims isBlank line core)
    (counts : Counts core) (cut : core = before ++ ':' :: after) (first : ':' ∉ before)
    (key_trimmed : Trims isBlank before key.toList) (value_trimmed : Trims isBlank after inner)
    (value_bare : Trims isQuote inner value.toList)

theorem isSkipped_eq_false_iff {core : List Char} :
    isSkipped core = false ↔ core ≠ [] ∧ Counts core := by
  unfold isSkipped
  split
  · simp
  · exact iff_of_false nofun fun h => h.2.no_comment ⟨_, rfl⟩
  · exact iff_of_false nofun fun h => h.2.no_separator ⟨_, rfl⟩
  · rename_i hnil hcomment hseparator
    refine iff_of_true rfl ⟨hnil, ?_, ?_⟩
    · rintro ⟨rest, rfl⟩
      exact hcomment rest rfl
    · rintro ⟨rest, rfl⟩
      exact hseparator rest rfl

theorem entry?_eq (line : List Char) : entry? line =
    if isSkipped (trim line) then none
    else (cutAt ':' (trim line)).map fun e =>
      (String.ofList (trim e.1), String.ofList (trimMatches isQuote (trim e.2))) := rfl

/-- **The entry of a line.** -/
theorem entry?_eq_some_iff {line : List Char} {key value : String} :
    entry? line = some (key, value) ↔ Says line key value := by
  rw [entry?_eq]
  constructor
  · intro h
    split_ifs at h with hskipped
    obtain ⟨⟨before, after⟩, hcut, he⟩ := Option.map_eq_some_iff.mp h
    obtain ⟨hcore, hfirst⟩ := cutAt_eq_some_iff.mp hcut
    obtain ⟨rfl, rfl⟩ := Prod.mk.inj he
    refine .intro (trimMatches_eq_iff.mp rfl) (isSkipped_eq_false_iff.mp (Bool.eq_false_iff.mpr hskipped)).2
      hcore hfirst ?_ (trimMatches_eq_iff.mp rfl) ?_
    · rw [String.toList_ofList]
      exact trimMatches_eq_iff.mp rfl
    · rw [String.toList_ofList]
      exact trimMatches_eq_iff.mp rfl
  · rintro @⟨core, before, after, inner, htrimmed, hcounts, hcut, hfirst, hkey, hvalue, hbare⟩
    have hcore : trim line = core := trimMatches_eq_iff.mpr htrimmed
    have hskipped : isSkipped core = false :=
      isSkipped_eq_false_iff.mpr ⟨by simp [hcut], hcounts⟩
    have hk : trim before = key.toList := trimMatches_eq_iff.mpr hkey
    have hv : trim after = inner := trimMatches_eq_iff.mpr hvalue
    rw [hcore, hskipped, cutAt_eq_some_iff.mpr ⟨hcut, hfirst⟩]
    simp [hk, hv, trimMatches_eq_iff.mpr hbare]

/-- The last line of a manifest that gives a key a value, and this value. -/
def SaysLast (text key value : String) : Prop :=
  ∃ before line after, lines text.toList = before ++ line :: after ∧ Says line key value ∧
    ∀ later ∈ after, ∀ other, ¬ Says later key other

/-- **The last line counts.** -/
theorem get?_parse_iff {text key value : String} :
    (parse text).get? key = some value ↔ SaysLast text key value := by
  unfold parse
  rw [Keyed.get?_ofList_iff]
  constructor
  · rintro ⟨before, after, hentries, hafter⟩
    obtain ⟨l₁, l₂, hlines, -, hrest⟩ := List.filterMap_eq_append_iff.mp hentries
    obtain ⟨l₃, line, l₄, rfl, -, hline, rfl⟩ := List.filterMap_eq_cons_iff.mp hrest
    refine ⟨l₁ ++ l₃, line, l₄, by simp [hlines], entry?_eq_some_iff.mp hline, ?_⟩
    intro later hl other hs
    exact hafter _ (List.mem_filterMap.mpr ⟨later, hl, entry?_eq_some_iff.mpr hs⟩) rfl
  · rintro ⟨before, line, after, hlines, hline, hafter⟩
    refine ⟨before.filterMap entry?, after.filterMap entry?, ?_, fun e he hk => ?_⟩
    · rw [hlines, List.filterMap_append, List.filterMap_cons_some (entry?_eq_some_iff.mpr hline)]
    · obtain ⟨later, hl, hentry⟩ := List.mem_filterMap.mp he
      obtain ⟨k, v⟩ := e
      exact hafter later hl v (hk ▸ entry?_eq_some_iff.mp hentry)

end SwitchFleet.Manifest

import SwitchFleet.Text.Cut

/-!
# Texts that are cut

* **`cutAt_eq_some_iff`**: a text is cut at the first occurrence of a character.
* `linesAfter_feed`, `linesAfter_cons`: a line ends at the next line feed. `lines_append`: a line feed
  separates the lines before it from those after it. `lines_concat`: a text without line feeds is one line.
-/

namespace SwitchFleet.Text

variable {sep c : Char} {s before after : List Char}

/-- **The first occurrence of a character.** -/
theorem cutAt_eq_some_iff :
    cutAt sep s = some (before, after) ↔ s = before ++ sep :: after ∧ sep ∉ before := by
  induction s generalizing before with
  | nil => simp [cutAt]
  | cons c s ih =>
    unfold cutAt
    by_cases hc : c = sep
    · subst hc
      rw [if_pos (beq_self_eq_true c)]
      cases before with
      | nil => simp
      | cons b before =>
        refine iff_of_false (by simp) fun ⟨he, hb⟩ => hb ?_
        exact (List.cons.inj he).1 ▸ List.mem_cons_self
    · rw [if_neg (by simpa using hc), Option.map_eq_some_iff]
      constructor
      · rintro ⟨⟨b, a⟩, hcut, he⟩
        cases he
        obtain ⟨rfl, hb⟩ := ih.mp hcut
        exact ⟨rfl, by simpa using ⟨Ne.symm hc, hb⟩⟩
      · rintro ⟨he, hb⟩
        cases before with
        | nil => exact absurd (List.cons.inj he).1 hc
        | cons b before =>
          obtain ⟨rfl, rfl⟩ := List.cons.inj he
          exact ⟨(before, after), ih.mpr ⟨rfl, fun h => hb (List.mem_cons_of_mem _ h)⟩, rfl⟩

theorem cutAt_eq_none (h : sep ∉ s) : cutAt sep s = none := by
  rcases hs : cutAt sep s with _ | ⟨before, after⟩
  · rfl
  · obtain ⟨rfl, -⟩ := cutAt_eq_some_iff.mp hs
    exact absurd (List.mem_append_right before List.mem_cons_self) h

/-! ## Lines -/

theorem linesAfter_feed (before s : List Char) :
    linesAfter before ('\n' :: s) = withoutReturn before.reverse :: lines s := rfl

theorem linesAfter_cons (before s : List Char) (hc : c ≠ '\n') :
    linesAfter before (c :: s) = linesAfter (c :: before) s := by
  rw [linesAfter, if_neg (by simpa using hc)]

theorem linesAfter_append (start before after : List Char) :
    linesAfter start (before ++ '\n' :: after) = linesAfter start (before ++ ['\n']) ++ lines after := by
  induction before generalizing start with
  | nil => rfl
  | cons c before ih =>
    rw [List.cons_append, List.cons_append]
    by_cases hc : c = '\n'
    · subst hc
      rw [linesAfter_feed, linesAfter_feed, List.cons_append, lines, ih]
      rfl
    · rw [linesAfter_cons _ _ hc, linesAfter_cons _ _ hc, ih]

theorem lines_append (before after : List Char) :
    lines (before ++ '\n' :: after) = lines (before ++ ['\n']) ++ lines after :=
  linesAfter_append [] before after

theorem linesAfter_concat {s : List Char} (hs : '\n' ∉ s) (start : List Char) :
    linesAfter start (s ++ ['\n']) = [withoutReturn (start.reverse ++ s)] := by
  induction s generalizing start with
  | nil =>
    rw [List.append_nil]
    rfl
  | cons c s ih =>
    obtain ⟨hc, hs⟩ := List.ne_and_not_mem_of_not_mem_cons hs
    rw [List.cons_append, linesAfter_cons _ _ (Ne.symm hc), ih hs, List.reverse_cons,
      List.append_assoc, List.singleton_append]

/-- A text without line feeds is one line, up to a carriage return at its end. -/
theorem lines_concat (hs : '\n' ∉ s) (hr : s.getLast? ≠ some '\r') :
    lines (s ++ ['\n']) = [s] := by
  rw [lines, linesAfter_concat hs, List.reverse_nil, List.nil_append, withoutReturn,
    if_neg (by simpa using hr)]

end SwitchFleet.Text

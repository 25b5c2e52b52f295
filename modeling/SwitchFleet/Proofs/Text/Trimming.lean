import Mathlib.Data.List.DropRight
import SwitchFleet.Text.Blank

/-!
# Texts without the characters of a class at their ends

* `Text.Bounded`: a text that neither starts nor ends with a character of a class.
* `Text.Trims`: a text that is such a text between characters of the class. There is one such text,
  **`trimMatches_eq_iff`**.
* `trimMatches_append`: characters of the class around a text make no difference.
* `dropEndWhile_slice`: a part of a text, trimmed at its end, is found in the text that is trimmed at its end.
-/

namespace SwitchFleet.Text

variable {p : Char → Bool} {a b s t : List Char} {c : Char}

/-- A text neither starts nor ends with a character of a class. -/
structure Bounded (p : Char → Bool) (t : List Char) : Prop where
  head : ∀ c ∈ t.head?, p c = false
  last : ∀ c ∈ t.getLast?, p c = false

/-- A text is `t` between characters of a class, and `t` neither starts nor ends with one. -/
structure Trims (p : Char → Bool) (s t : List Char) : Prop where
  between : ∃ a b, s = a ++ (t ++ b) ∧ (∀ c ∈ a, p c = true) ∧ ∀ c ∈ b, p c = true
  bounded : Bounded p t

theorem bounded_of_ends (ha : Bounded p a) (hne : a ≠ []) (hc : p c = false) :
    Bounded p (a ++ (s ++ [c])) := by
  refine ⟨fun d hd => ?_, fun d hd => ?_⟩
  · rw [List.head?_append_of_ne_nil a hne] at hd
    exact ha.head d hd
  · rw [← List.append_assoc, List.getLast?_concat] at hd
    cases hd
    exact hc

theorem trims_self (h : Bounded p t) : Trims p t t :=
  ⟨⟨[], [], by simp, by simp, by simp⟩, h⟩

theorem dropEndWhile_eq (p : Char → Bool) (s : List Char) : dropEndWhile p s = s.rdropWhile p := rfl

theorem dropEndWhile_append (hb : ∀ c ∈ b, p c = true) :
    dropEndWhile p (s ++ b) = dropEndWhile p s := by
  unfold dropEndWhile
  rw [List.reverse_append, List.dropWhile_append_of_pos]
  exact fun c hc => hb c (List.mem_reverse.mp hc)

theorem dropEndWhile_slice (p : Char → Bool) (s : List Char) (m n : Nat) :
    dropEndWhile p (((dropEndWhile p s).drop m).take n) = dropEndWhile p ((s.drop m).take n) := by
  have hs : dropEndWhile p s ++ s.rtakeWhile p = s := List.rdropWhile_append_rtakeWhile
  conv_rhs => rw [← hs, List.drop_append, List.take_append]
  refine (dropEndWhile_append fun c hc => ?_).symm
  exact List.mem_rtakeWhile_imp (List.mem_of_mem_drop (List.mem_of_mem_take hc))

theorem dropEndWhile_prefix (p : Char → Bool) (s : List Char) : dropEndWhile p s <+: s :=
  List.rdropWhile_prefix p s

theorem last_dropEndWhile (p : Char → Bool) (s : List Char) :
    ∀ c ∈ (dropEndWhile p s).getLast?, p c = false := by
  intro c hc
  obtain ⟨hne, rfl⟩ := List.mem_getLast?_eq_getLast hc
  exact Bool.eq_false_iff.mpr (List.rdropWhile_last_not p s hne)

theorem dropEndWhile_eq_self (h : ∀ c ∈ t.getLast?, p c = false) : dropEndWhile p t = t := by
  rw [dropEndWhile_eq, List.rdropWhile_eq_self_iff]
  intro ht
  simpa using h _ (List.getLast?_eq_some_getLast ht)

theorem Trims.trimMatches_eq (h : Trims p s t) : trimMatches p s = t := by
  obtain ⟨⟨a, b, rfl, ha, hb⟩, ht⟩ := h
  unfold trimMatches
  rw [List.dropWhile_append_of_pos ha]
  rcases t with _ | ⟨c, t⟩
  · rw [List.nil_append, List.dropWhile_eq_nil_iff.mpr hb]
    rfl
  · have hc : ¬ p c = true := by simpa using ht.head c rfl
    rw [List.cons_append, List.dropWhile_cons_of_neg hc, ← List.cons_append, dropEndWhile_append hb,
      dropEndWhile_eq_self ht.last]

theorem trims_trimMatches (p : Char → Bool) (s : List Char) : Trims p s (trimMatches p s) := by
  have hend : trimMatches p s ++ (s.dropWhile p).rtakeWhile p = s.dropWhile p :=
    List.rdropWhile_append_rtakeWhile
  refine ⟨⟨s.takeWhile p, (s.dropWhile p).rtakeWhile p, ?_, ?_, ?_⟩, ?_,
    last_dropEndWhile p (s.dropWhile p)⟩
  · rw [hend, List.takeWhile_append_dropWhile]
  · exact fun c hc => List.mem_takeWhile_imp hc
  · exact fun c hc => List.mem_rtakeWhile_imp hc
  · intro c hc
    have hfirst : (s.dropWhile p).head? = some c := by
      rw [← hend, List.head?_append, Option.mem_def.mp hc]
      rfl
    have hnot := List.head?_dropWhile_not p s
    rw [hfirst] at hnot
    simpa using hnot

/-- **The text between the characters of a class.** -/
theorem trimMatches_eq_iff : trimMatches p s = t ↔ Trims p s t :=
  ⟨fun h => h ▸ trims_trimMatches p s, Trims.trimMatches_eq⟩

theorem trimMatches_append (ha : ∀ c ∈ a, p c = true) (hb : ∀ c ∈ b, p c = true) :
    trimMatches p (a ++ (s ++ b)) = trimMatches p s := by
  obtain ⟨⟨a', b', hs, ha', hb'⟩, ht⟩ := trims_trimMatches p s
  refine Trims.trimMatches_eq ⟨⟨a ++ a', b' ++ b, ?_, ?_, ?_⟩, ht⟩
  · conv_lhs => rw [hs]
    simp only [List.append_assoc]
  · exact List.forall_mem_append.mpr ⟨ha, ha'⟩
  · exact List.forall_mem_append.mpr ⟨hb', hb⟩

theorem prefix_trimMatches (ha : ∀ c ∈ a, p c = false) : a <+: trimMatches p (a ++ s) := by
  rcases a with _ | ⟨d, a⟩
  · exact List.nil_prefix
  have hd : ¬ p d = true := by simpa using ha d List.mem_cons_self
  unfold trimMatches
  rw [List.cons_append, List.dropWhile_cons_of_neg hd, ← List.cons_append, dropEndWhile_eq]
  induction s using List.reverseRecOn with
  | nil =>
    have hself : (d :: a).rdropWhile p = d :: a := List.rdropWhile_eq_self_iff.mpr fun hne =>
      Bool.eq_false_iff.mp (ha _ (List.getLast_mem hne))
    exact ⟨[], by rw [List.append_nil, hself]⟩
  | append_singleton s c ih =>
    rw [← List.append_assoc, List.rdropWhile_concat]
    split
    · exact ih
    · exact (List.prefix_append _ s).trans (List.prefix_append _ [c])

theorem mem_of_mem_trimMatches (h : c ∈ trimMatches p s) : c ∈ s := by
  obtain ⟨⟨a, b, hs, -, -⟩, -⟩ := trims_trimMatches p s
  rw [hs]
  exact List.mem_append_right a (List.mem_append_left b h)

end SwitchFleet.Text

import SwitchFleet.Proofs.Agent.Manifest

/-!
# Manifests as they are written

A manifest holds pairs of a key and a value, each on a line of its own with quotes around the value.
There may be blanks around every line, and any lines that hold no pair between them.

* `Manifest.Pair`: a key and a value that can be written in this way.
* `Manifest.Row`, `Manifest.Line`, `Manifest.Layout`: what a line holds, a line with the blanks around
  it, and a whole manifest.
* `entry?_row`: a line is read as what it holds. `entriesAfter_append`, `entriesAfter_blanks`: line feeds
  separate what is read, and other blanks make no difference.
* **`parse_text`**: a manifest is read as its pairs, where the last pair of a key counts.
* `twoPairs`: a manifest with two pairs of one key.
-/

namespace SwitchFleet.Manifest

open Text

/-! ## Layouts -/

/-- A key and a value that can be written on one line. -/
structure Pair where
  key : String
  value : String
  key_ne : key ≠ ""
  key_bounded : Bounded isBlank key.toList
  key_counts : Counts key.toList
  key_colon : ':' ∉ key.toList
  key_feed : '\n' ∉ key.toList
  value_bounded : Bounded isQuote value.toList
  value_feed : '\n' ∉ value.toList

/-- What a line holds: a pair, a comment, a separator with a text after it, or a text without a colon.
The empty text is one of these. -/
inductive Row where
  | pair (p : Pair)
  | comment (rest : List Char) (feed : '\n' ∉ rest)
  | separator (rest : List Char) (feed : '\n' ∉ rest)
  | plain (text : List Char) (feed : '\n' ∉ text) (colon : ':' ∉ text)

namespace Row

/-- What is written on the line. -/
def chars : Row → List Char
  | pair p => p.key.toList ++ ':' :: ' ' :: '"' :: (p.value.toList ++ ['"'])
  | comment rest _ => '#' :: rest
  | separator rest _ => '-' :: '-' :: '-' :: rest
  | plain text _ _ => text

def pair? : Row → Option (String × String)
  | pair p => some (p.key, p.value)
  | _ => none

end Row

/-- A line with the blanks around it. -/
structure Line where
  left : List Char
  row : Row
  right : List Char
  left_blank : ∀ c ∈ left, isBlank c = true
  right_blank : ∀ c ∈ right, isBlank c = true

def Line.chars (l : Line) : List Char := l.left ++ (l.row.chars ++ l.right)

/-- A line break. -/
inductive Break where
  | feed
  | returnFeed

def Break.chars : Break → List Char
  | feed => ['\n']
  | returnFeed => ['\r', '\n']

/-- A manifest: lines with their line breaks, and possibly one line without. -/
structure Layout where
  lines : List (Line × Break)
  last : Option Line

namespace Layout

def text (m : Layout) : String :=
  String.ofList (m.lines.flatMap (fun l => l.1.chars ++ l.2.chars) ++ (m.last.map Line.chars).getD [])

/-- The pairs of a manifest, first one first. -/
def pairs (m : Layout) : List (String × String) :=
  (m.lines.map (·.1) ++ m.last.toList).filterMap fun l => l.row.pair?

end Layout

/-! ## One line -/

theorem entry?_blanks {a b : List Char} (ha : ∀ c ∈ a, isBlank c = true)
    (hb : ∀ c ∈ b, isBlank c = true) (line : List Char) : entry? (a ++ (line ++ b)) = entry? line := by
  have htrim : trim (a ++ (line ++ b)) = trim line := trimMatches_append ha hb
  rw [entry?_eq, entry?_eq, htrim]

theorem entry?_eq_none_of_skipped {line : List Char} (h : isSkipped (trim line) = true) :
    entry? line = none := by
  rw [entry?_eq, if_pos h]

theorem entry?_eq_none_of_colon {line : List Char} (h : ':' ∉ line) : entry? line = none := by
  have hcut : cutAt ':' (trim line) = none := cutAt_eq_none fun hm => h (mem_of_mem_trimMatches hm)
  rw [entry?_eq, hcut]
  exact ite_self none

/-- A mark without a colon that a key does not start with is no beginning of a line with this key. -/
theorem not_prefix_append_colon {mark key rest : List Char} (hm : ':' ∉ mark) (hk : ¬ mark <+: key) :
    ¬ mark <+: key ++ ':' :: rest := by
  intro h
  rcases List.prefix_or_prefix_of_prefix h (List.prefix_append key (':' :: rest)) with hp | ⟨t, rfl⟩
  · exact hk hp
  · rcases t with _ | ⟨c, t⟩
    · exact hk (by simp)
    · rw [List.prefix_append_right_inj, List.cons_prefix_cons] at h
      exact hm (by simp [h.1])

theorem Pair.counts (p : Pair) (rest : List Char) : Counts (p.key.toList ++ ':' :: rest) :=
  ⟨not_prefix_append_colon (by decide) p.key_counts.no_comment,
    not_prefix_append_colon (by decide) p.key_counts.no_separator⟩

theorem says_pair (p : Pair) : Says (Row.pair p).chars p.key p.value := by
  have hquote : Bounded isBlank ('"' :: (p.value.toList ++ ['"'])) :=
    bounded_of_ends (a := ['"']) ⟨by simp; rfl, by simp; rfl⟩ (by simp) rfl
  have hkey : p.key.toList ≠ [] := fun h => p.key_ne (String.toList_eq_nil_iff.mp h)
  have hline : Bounded isBlank (Row.pair p).chars :=
    bounded_of_ends (s := ':' :: ' ' :: '"' :: p.value.toList) p.key_bounded hkey rfl
  refine .intro (trims_self hline) (p.counts _) rfl p.key_colon (trims_self p.key_bounded)
    ⟨⟨[' '], [], ?_, ?_, ?_⟩, hquote⟩ ⟨⟨['"'], ['"'], rfl, ?_, ?_⟩, p.value_bounded⟩
  · simp
  all_goals simp <;> rfl

/-- **A line is read as what it holds.** -/
theorem entry?_row (r : Row) : entry? r.chars = r.pair? := by
  cases r with
  | pair p => exact entry?_eq_some_iff.mpr (says_pair p)
  | comment rest _ =>
    have hmark : ['#'] <+: trim (Row.comment rest ‹_›).chars :=
      prefix_trimMatches (List.forall_mem_singleton.mpr rfl)
    refine entry?_eq_none_of_skipped (Bool.of_not_eq_false fun h => ?_)
    exact (isSkipped_eq_false_iff.mp h).2.no_comment hmark
  | separator rest _ =>
    have hmark : ['-', '-', '-'] <+: trim (Row.separator rest ‹_›).chars :=
      prefix_trimMatches fun _ hc => List.eq_of_mem_replicate (n := 3) hc ▸ rfl
    refine entry?_eq_none_of_skipped (Bool.of_not_eq_false fun h => ?_)
    exact (isSkipped_eq_false_iff.mp h).2.no_separator hmark
  | plain text _ colon => exact entry?_eq_none_of_colon colon

theorem feed_row (r : Row) : '\n' ∉ r.chars := by
  cases r with
  | pair p => simp [Row.chars, p.key_feed, p.value_feed]
  | comment _ feed => simp [Row.chars, feed]
  | separator _ feed => simp [Row.chars, feed]
  | plain _ feed _ => exact feed

/-! ## Lines one after another -/

/-- The entries of a text whose first line starts with `before`, read backwards. -/
def entriesAfter (before s : List Char) : List (String × String) :=
  (linesAfter before s).filterMap entry?

theorem entry?_withoutReturn (line : List Char) : entry? (withoutReturn line) = entry? line := by
  unfold withoutReturn
  split
  · rename_i h
    obtain ⟨rest, rfl⟩ := List.getLast?_eq_some_iff.mp (beq_iff_eq.mp h)
    rw [List.dropLast_concat]
    exact (entry?_blanks (a := []) (by simp) (List.forall_mem_singleton.mpr rfl) rest).symm
  · rfl

theorem entriesAfter_nil (before : List Char) :
    entriesAfter before [] = ( entry? before.reverse).toList := by
  unfold entriesAfter linesAfter
  rcases before with _ | ⟨c, before⟩
  · rfl
  · simp [List.filterMap_cons]
    cases entry? (before.reverse ++ [c]) <;> rfl

theorem entriesAfter_feed (before s : List Char) :
    entriesAfter before ('\n' :: s) = ( entry? before.reverse).toList ++ entriesAfter [] s := by
  unfold entriesAfter
  rw [linesAfter_feed, List.filterMap_cons, entry?_withoutReturn]
  cases entry? before.reverse <;> rfl

theorem entriesAfter_cons {c : Char} (hc : c ≠ '\n') (before s : List Char) :
    entriesAfter before (c :: s) = entriesAfter (c :: before) s := by
  unfold entriesAfter
  rw [linesAfter_cons before s hc]

theorem entriesAfter_of_not_mem {s : List Char} (h : '\n' ∉ s) (before : List Char) :
    entriesAfter before s = ( entry? (before.reverse ++ s)).toList := by
  induction s generalizing before with
  | nil => rw [entriesAfter_nil, List.append_nil]
  | cons c s ih =>
    obtain ⟨hc, hs⟩ := not_or.mp (List.mem_cons.not.mp h)
    rw [entriesAfter_cons (Ne.symm hc), ih hs, List.reverse_cons, List.append_assoc]
    rfl

theorem entriesAfter_append (before a b : List Char) :
    entriesAfter before (a ++ '\n' :: b) = entriesAfter before a ++ entriesAfter [] b := by
  induction a generalizing before with
  | nil => rw [List.nil_append, entriesAfter_feed, entriesAfter_nil]
  | cons c a ih =>
    rw [List.cons_append]
    by_cases hc : c = '\n'
    · subst hc
      rw [entriesAfter_feed, entriesAfter_feed, ih, List.append_assoc]
    · rw [entriesAfter_cons hc, entriesAfter_cons hc, ih]

theorem entriesAfter_concat {c : Char} (hc : isBlank c = true) (before s : List Char) :
    entriesAfter (before ++ [c]) s = entriesAfter before s := by
  -- The line is read backwards, so its first character is the last one of `before ++ [c]`.
  have hentry (line : List Char) : entry? (line ++ [c]).reverse = entry? line.reverse := by
    have h := entry?_blanks (a := [c]) (b := []) (by simpa using hc) (by simp) line.reverse
    rw [List.append_nil] at h
    rw [List.reverse_concat]
    exact h
  induction s generalizing before with
  | nil => rw [entriesAfter_nil, entriesAfter_nil, hentry]
  | cons d s ih =>
    by_cases hd : d = '\n'
    · subst hd
      rw [entriesAfter_feed, entriesAfter_feed, hentry]
    · rw [entriesAfter_cons hd, entriesAfter_cons hd, ← List.cons_append, ih]

theorem entriesAfter_blanks {a : List Char} (ha : ∀ c ∈ a, isBlank c = true) (s : List Char) :
    entriesAfter [] (a ++ s) = entriesAfter [] s := by
  induction a with
  | nil => rfl
  | cons c a ih =>
    obtain ⟨hc, ha⟩ := List.forall_mem_cons.mp ha
    rw [List.cons_append]
    by_cases hfeed : c = '\n'
    · rw [hfeed, entriesAfter_feed, ih ha]
      rfl
    · have h := entriesAfter_concat hc [] (a ++ s)
      rw [entriesAfter_cons hfeed, ← ih ha]
      exact h

theorem entriesAfter_append_blanks {b : List Char} (hb : ∀ c ∈ b, isBlank c = true)
    (before s : List Char) : entriesAfter before (s ++ b) = entriesAfter before s := by
  induction s generalizing before with
  | nil =>
    -- The blanks may hold line feeds: the last line goes on, or it ends and others without an entry follow.
    rw [List.nil_append]
    induction b generalizing before with
    | nil => rfl
    | cons c b ih =>
      obtain ⟨hc, hb⟩ := List.forall_mem_cons.mp hb
      by_cases hfeed : c = '\n'
      · have hrest := entriesAfter_blanks hb []
        rw [List.append_nil] at hrest
        subst hfeed
        rw [entriesAfter_feed, hrest, entriesAfter_nil, entriesAfter_nil]
        exact List.append_nil _
      · have hentry := entry?_blanks (a := []) (b := [c]) (by simp) (by simpa using hc) before.reverse
        rw [entriesAfter_cons hfeed, ih hb, entriesAfter_nil, entriesAfter_nil, List.reverse_cons,
          ← hentry]
        rfl
  | cons c s ih =>
    rw [List.cons_append]
    by_cases hc : c = '\n'
    · subst hc
      rw [entriesAfter_feed, entriesAfter_feed, ih]
    · rw [entriesAfter_cons hc, entriesAfter_cons hc, ih]

/-! ## Whole manifests -/

theorem entriesAfter_line (l : Line) : entriesAfter [] l.chars = l.row.pair?.toList := by
  unfold Line.chars
  rw [entriesAfter_blanks l.left_blank, entriesAfter_append_blanks l.right_blank,
    entriesAfter_of_not_mem (feed_row l.row), List.reverse_nil, List.nil_append, entry?_row]

theorem entriesAfter_break (l : Line) (b : Break) (rest : List Char) :
    entriesAfter [] (l.chars ++ b.chars ++ rest) = l.row.pair?.toList ++ entriesAfter [] rest := by
  cases b with
  | feed =>
    have h := entriesAfter_append [] l.chars rest
    rw [entriesAfter_line] at h
    rw [← h, List.append_assoc]
    rfl
  | returnFeed =>
    have hreturn : entriesAfter [] (l.chars ++ ['\r']) = l.row.pair?.toList :=
      (entriesAfter_append_blanks (List.forall_mem_singleton.mpr rfl) [] l.chars).trans
        (entriesAfter_line l)
    have h := entriesAfter_append [] (l.chars ++ ['\r']) rest
    rw [hreturn] at h
    rw [← h, List.append_assoc, List.append_assoc]
    rfl

theorem entriesAfter_layout (lines : List (Line × Break)) (rest : List Char) :
    entriesAfter [] (lines.flatMap (fun l => l.1.chars ++ l.2.chars) ++ rest) =
      (lines.map (·.1)).filterMap (fun l => l.row.pair?) ++ entriesAfter [] rest := by
  induction lines with
  | nil => rfl
  | cons l lines ih =>
    rw [List.flatMap_cons, List.append_assoc, entriesAfter_break, ih, List.map_cons,
      List.filterMap_cons]
    cases l.1.row.pair? <;> rfl

theorem parse_layout (m : Layout) : parse m.text = Keyed.ofList m.pairs := by
  have hparse : parse m.text = Keyed.ofList (entriesAfter [] m.text.toList) := rfl
  have hlast : entriesAfter [] ((m.last.map Line.chars).getD []) =
      m.last.toList.filterMap fun l => l.row.pair? := by
    rcases m.last with _ | l
    · rfl
    · rw [Option.toList_some, List.filterMap_cons]
      refine (entriesAfter_line l).trans ?_
      cases l.row.pair? <;> rfl
  rw [hparse]
  unfold Layout.text Layout.pairs
  rw [String.toList_ofList, entriesAfter_layout, List.filterMap_append, hlast]

/-- **Manifests are read as they are written.** Every key has the value of its last pair, and there is
nothing else. -/
theorem parse_text (m : Layout) :
    Keyed.Sorted (parse m.text) ∧
      ∀ key value, (parse m.text).get? key = some value ↔ Keyed.Last m.pairs key value := by
  rw [parse_layout]
  exact ⟨Keyed.sorted_ofList m.pairs, fun key value => Keyed.get?_ofList_iff⟩

/-- A pair that a later one replaces. -/
def formerPair : Pair where
  key := "sku"
  value := "former"
  key_ne := by decide
  key_bounded := ⟨by rintro c ⟨⟩; rfl, by rintro c ⟨⟩; rfl⟩
  key_counts := ⟨by decide, by decide⟩
  key_colon := by decide
  key_feed := by decide
  value_bounded := ⟨by rintro c ⟨⟩; rfl, by rintro c ⟨⟩; rfl⟩
  value_feed := by decide

/-- A pair whose value has colons, quotes and blanks. -/
def laterPair : Pair :=
  { formerPair with
    value := " a:'b':c "
    value_bounded := ⟨by rintro c ⟨⟩; rfl, by rintro c ⟨⟩; rfl⟩
    value_feed := by decide }

/-- A line without blanks around it. -/
def Row.line (r : Row) : Line := ⟨[], r, [], by simp, by simp⟩

/-- A manifest with the two pairs. There are a comment, a separator and an empty line between them. -/
def twoPairs : Layout where
  lines :=
    [(⟨['\t'], .pair formerPair, [' '], List.forall_mem_singleton.mpr rfl,
        List.forall_mem_singleton.mpr rfl⟩, .returnFeed),
      ((Row.comment " sku: none".toList (by decide)).line, .feed),
      ((Row.separator [] (by decide)).line, .returnFeed),
      ((Row.plain [] (by decide) (by decide)).line, .feed)]
  last := some (Row.pair laterPair).line

/-- The later pair counts. Its value keeps its colons, the quotes within it and the blanks at its ends. -/
theorem parse_twoPairs :
    twoPairs.text = "\tsku: \"former\" \r\n# sku: none\n---\r\n\nsku: \" a:'b':c \"" ∧
      (parse twoPairs.text).get? "sku" = some " a:'b':c " :=
  ⟨by decide, ((parse_text twoPairs).2 _ _).mpr ⟨[("sku", "former")], [], rfl, by simp⟩⟩

end SwitchFleet.Manifest

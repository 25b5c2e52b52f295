import SwitchFleet.Client.Call
import SwitchFleet.CommandLine.Terminal
import SwitchFleet.Proofs.CommandLine.Columns
import SwitchFleet.Proofs.Text.Cutting

/-!
# Tables as they are written

A table is written line by line. It is written whole, or none of it if a column is too wide for its cells to be
filled up.

* `feed_not_mem_upper`: a text in upper case has no line feed if the text has none.
* `Table.Shown`: a line that shows a row. `shown_rowLine`: the line of a row does. `lines_text`: rows without
  line feeds are shown on one line each.
* `run_writeAll`: lines that are written on a terminal. `run_lines_wide`: a table with a column that is too
  wide.
* **`written_in_columns`**: what is written of a table.
-/

namespace SwitchFleet

/-! ## Upper case -/

namespace Text

theorem eq_of_ofNat_eq_feed {n : Nat} (h : Char.ofNat n = '\n') : n = 10 := by
  by_cases hn : n.isValidChar
  · rw [Char.ofNat, dif_pos hn] at h
    exact congrArg Char.toNat h
  · rw [Char.ofNat, dif_neg hn] at h
    cases congrArg Char.toNat h

theorem feed_not_mem_upperChar {c : Char} (h : c ≠ '\n') : '\n' ∉ upperChar c := by
  have hascii : ∀ n < 0x80, n ≠ 10 → '\n' ≠ (Char.ofNat n).toUpper := by decide
  have hexpansions : ∀ e ∈ upperExpansions, ∀ n ∈ e.2, n ≠ 10 := by decide +kernel
  have hruns : ∀ r ∈ upperRuns, 10 < r.1 + r.2.2.2 := by decide +kernel
  have hcode : c.toNat ≠ 10 := fun hn => h (by rw [← Char.ofNat_toNat c, hn])
  unfold upperChar
  split
  · rename_i hc
    have hupper := hascii c.toNat hc hcode
    rw [Char.ofNat_toNat] at hupper
    exact fun hfeed => hupper (List.mem_singleton.mp hfeed)
  split
  · rename_i codes hlookup
    obtain ⟨before, after, he, -⟩ := List.lookup_eq_some_iff.mp hlookup
    rw [List.mem_map]
    rintro ⟨n, hn, hfeed⟩
    exact hexpansions (c.toNat, codes) (by simp [he]) n hn (eq_of_ofNat_eq_feed hfeed)
  · rw [List.mem_singleton]
    intro hfeed
    have hmoved := eq_of_ofNat_eq_feed hfeed.symm
    unfold movedCode at hmoved
    split at hmoved
    · rename_i r hr
      have hfirst := List.find?_some hr
      have hrun := hruns r (List.mem_of_find?_eq_some hr)
      simp only [Bool.and_eq_true, decide_eq_true_eq] at hfirst
      omega
    · exact hcode hmoved

theorem feed_not_mem_upper {s : String} (h : '\n' ∉ s.toList) : '\n' ∉ (upper s).toList := by
  rw [upper, String.toList_ofList, List.mem_flatMap]
  rintro ⟨c, hc, hfeed⟩
  exact feed_not_mem_upperChar (fun he => h (he ▸ hc)) hfeed

end Text

/-! ## Lines -/

namespace Table

variable {ws : List Nat} {row : List String}

/-- A line shows a row: it is a line with every cell in its column, without the blanks at its end. Every cell
that does not end with a blank can be read from its column. -/
structure Shown (ws : List Nat) (row : List String) (line : String) : Prop where
  exists_full : ∃ full, fullLine? ws row = some full ∧ Aligned ws row full.toList ∧
    line = Text.trimEndString full
  readable : ∀ {j w : Nat} {cell : String}, (ws.zip row)[j]? = some (w, cell) →
    (∀ c ∈ cell.toList.getLast?, Text.isBlank c = false) →
    Text.trimEnd (column ws j line.toList) = cell.toList ∧
      ∃ k, column ws j line.toList = cell.toList ++ List.replicate k ' '

/-- The line of a row in columns that are not too wide. -/
def rowLine (ws : List Nat) (row : List String) : String :=
  Text.trimEndString (gap.intercalate (List.zipWith padded ws row))

theorem toList_rowLine (ws : List Nat) (row : List String) :
    (rowLine ws row).toList = Text.trimEnd (gap.toList.intercalate (parts ws row)) := by
  rw [rowLine, Text.trimEndString, String.toList_ofList, String.toList_intercalate]
  rfl

theorem line?_eq_some (h : ws.length = row.length) (hw : ∀ w ∈ ws, w ≤ widthLimit) :
    line? ws row = some (rowLine ws row) := by
  rw [line?, fullLine?_eq h, if_pos hw]
  rfl

/-- **The line of a row** shows it. -/
theorem shown_rowLine (h : Fits ws row) (hw : ∀ w ∈ ws, w ≤ widthLimit) :
    Shown ws row (rowLine ws row) where
  exists_full := by
    refine ⟨_, (fullLine?_eq h.length_eq).trans (if_pos hw), ?_, rfl⟩
    rw [String.toList_intercalate]
    exact aligned_fullLine h
  readable hj hcell := by
    rw [toList_rowLine]
    exact (aligned_fullLine h).column_trimEnd hj hcell

theorem feed_not_mem_parts : ∀ {ws : List Nat} {row : List String},
    (∀ cell ∈ row, '\n' ∉ cell.toList) → ∀ part ∈ parts ws row, '\n' ∉ part
  | [], _, _ => by simp [parts]
  | _ :: _, [], _ => by simp [parts]
  | w :: ws, cell :: cells, h => by
    obtain ⟨hcell, hcells⟩ := List.forall_mem_cons.mp h
    refine List.forall_mem_cons.mpr ⟨?_, feed_not_mem_parts hcells⟩
    rw [toList_padded, List.mem_append, not_or]
    exact ⟨hcell, fun hfeed => absurd (List.eq_of_mem_replicate hfeed) (by decide)⟩

theorem not_mem_intercalate {α : Type} {sep : List α} {x : α} (hsep : x ∉ sep)
    {l : List (List α)} (h : ∀ part ∈ l, x ∉ part) : x ∉ sep.intercalate l := by
  cases l with
  | nil => simp
  | cons part l =>
    obtain ⟨hpart, hl⟩ := List.forall_mem_cons.mp h
    rw [intercalate_cons_eq_append, List.mem_append, not_or, List.mem_flatMap]
    refine ⟨hpart, ?_⟩
    rintro ⟨other, hother, hx⟩
    exact (List.mem_append.mp hx).elim hsep (hl other hother)

/-- The text of lines, each with its line break. -/
def text (ls : List String) : String := String.join (ls.map fun line => line ++ "\n")

theorem toList_text_cons (line : String) (ls : List String) :
    (text (line :: ls)).toList = line.toList ++ '\n' :: (text ls).toList := by
  rw [text, List.map_cons, String.join_cons, String.toList_append, String.toList_append,
    List.append_assoc]
  rfl

theorem lines_rowLine (hrow : ∀ cell ∈ row, '\n' ∉ cell.toList) :
    Text.lines ((rowLine ws row).toList ++ ['\n']) = [(rowLine ws row).toList] := by
  have hfeed : '\n' ∉ gap.toList.intercalate (parts ws row) :=
    not_mem_intercalate (by decide) (feed_not_mem_parts hrow)
  rw [toList_rowLine]
  refine Text.lines_concat (fun hm => hfeed ((Text.dropEndWhile_prefix _ _).subset hm)) fun hlast => ?_
  -- A carriage return would be a blank at the end of the line.
  cases Text.last_dropEndWhile _ _ _ hlast

theorem lines_text {rows : List (List String)} (h : ∀ row ∈ rows, ∀ cell ∈ row, '\n' ∉ cell.toList) :
    Text.lines (text (rows.map (rowLine ws))).toList =
      (rows.map (rowLine ws)).map String.toList := by
  induction rows with
  | nil => rfl
  | cons row rows ih =>
    obtain ⟨hrow, hrows⟩ := List.forall_mem_cons.mp h
    rw [List.map_cons, toList_text_cons, Text.lines_append, lines_rowLine hrow, ih hrows]
    rfl

end Table

/-! ## Writing -/

namespace CommandLine

open Table

variable {σ : Type} (call : (op : Operation) → σ → Except ClientError op.Report × σ) (t : Terminal σ)

/-- A terminal after lines were written on it. -/
def Terminal.after (ls : List String) : Terminal σ :=
  { t with lines := ls.reverse ++ t.lines, room := t.room.map (· - ls.length) }

theorem Terminal.text_after (ls : List String) : (t.after ls).text = t.text ++ Table.text ls := by
  unfold Terminal.text Terminal.after
  rw [List.reverse_append, List.reverse_reverse, List.map_append, String.join_append]
  rfl

theorem run_write {t : Terminal σ} (ht : t.room ≠ some 0) (line : String) :
    (write line).run.run (Terminal.answer call) t = (.ok (), t.after [line]) := by
  have hwrite : t.write line = (true, t.after [line]) := if_neg ht
  have hstep : (write line).run.run (Terminal.answer call) t =
      (if (t.write line).1 then return () else throw .outputClosed : Task Unit).run.run
        (Terminal.answer call) (t.write line).2 := rfl
  rw [hstep, hwrite]
  rfl

theorem run_writeAll {ls : List String} {t : Terminal σ} (ht : ∀ n ∈ t.room, ls.length ≤ n) :
    (writeAll (ls.map some)).run.run (Terminal.answer call) t = (.ok (), t.after ls) := by
  induction ls generalizing t with
  | nil => simp [writeAll, Terminal.after]
  | cons line ls ih =>
    have hroom : t.room ≠ some 0 := fun h0 => absurd (ht 0 h0) (by simp)
    have hrest : ∀ n ∈ (t.after [line]).room, ls.length ≤ n := by
      intro n hn
      obtain ⟨m, hm, rfl⟩ := Option.map_eq_some_iff.mp hn
      have hlength : (line :: ls).length ≤ m := ht m hm
      exact Nat.le_sub_of_add_le hlength
    have hstep : (t.after [line]).after ls = t.after (line :: ls) := by
      have hcount (n : Nat) : n - 1 - ls.length = n - (ls.length + 1) := by omega
      simp [Terminal.after, Function.comp_def, hcount]
    rw [List.map_cons, writeAll, ExceptT.run_bind, Program.bind_eq, Program.run_bind,
      run_write call hroom]
    exact (ih hrest).trans (by rw [hstep])

/-- What is written of a table: a line for the headers in upper case and one for each row, all of them with
the same columns. If no cell has a line feed, then these are the lines of the text. -/
structure Written (headers : List String) (rows : List (List String)) (first : String)
    (ls : List String) : Prop where
  first_shown : Shown (columnWidths headers rows) (headers.map Text.upper) first
  rows_shown : List.Forall₂ (Shown (columnWidths headers rows)) rows ls
  lines_first : (∀ header ∈ headers, '\n' ∉ header.toList) →
    Text.lines (Table.text [first]).toList = [first.toList]
  lines_text : (∀ row ∈ rows, ∀ cell ∈ row, '\n' ∉ cell.toList) →
    Text.lines (Table.text (first :: ls)).toList =
      Text.lines (Table.text [first]).toList ++ ls.map String.toList

theorem written_rowLine {headers : List String} {rows : List (List String)}
    (hshape : ∀ row ∈ rows, row.length = headers.length)
    (hw : ∀ w ∈ columnWidths headers rows, w ≤ widthLimit) :
    Written headers rows (rowLine (columnWidths headers rows) (headers.map Text.upper))
      (rows.map (rowLine (columnWidths headers rows))) where
  first_shown := shown_rowLine (fits_grid hshape List.mem_cons_self) hw
  rows_shown := by
    rw [List.forall₂_map_right_iff, List.forall₂_same]
    exact fun row hr => shown_rowLine (fits_grid hshape (List.mem_cons_of_mem _ hr)) hw
  lines_first hfeed := by
    rw [toList_text_cons]
    refine lines_rowLine fun cell hc => ?_
    obtain ⟨header, hh, rfl⟩ := List.mem_map.mp hc
    exact Text.feed_not_mem_upper (hfeed header hh)
  lines_text hfeed := by
    rw [toList_text_cons, toList_text_cons, Text.lines_append, Table.lines_text hfeed]
    rfl

/-- Nothing is written of a table with a column that is too wide. -/
theorem run_lines_wide {headers : List String} {rows : List (List String)}
    (hshape : ∀ row ∈ rows, row.length = headers.length)
    (hwide : ∃ row ∈ grid headers rows, ∃ cell ∈ row, widthLimit < cell.utf8ByteSize) :
    (writeAll (Table.lines headers rows)).run.run (Terminal.answer call) t = (.error .tooWide, t) := by
  obtain ⟨row, hr, cell, hc, hlong⟩ := hwide
  have hw : ¬ ∀ w ∈ columnWidths headers rows, w ≤ widthLimit := fun hw =>
    absurd ((forall_columnWidths hshape).mp hw row hr cell hc) (Nat.not_le.mpr hlong)
  -- The line of the headers is made first and has all columns.
  rw [lines_eq, grid, List.map_cons, line?_eq_none (fits_grid hshape List.mem_cons_self).length_eq hw]
  rfl

/-- **What is written of a table.** If a cell has more bytes than the limit of widths, then no line is written.
Otherwise all lines are written, with every cell in its column. -/
theorem written_in_columns {headers : List String} {rows : List (List String)}
    (hshape : ∀ row ∈ rows, row.length = headers.length) :
    ((∃ row ∈ grid headers rows, ∃ cell ∈ row, widthLimit < cell.utf8ByteSize) →
      (writeAll (Table.lines headers rows)).run.run (Terminal.answer call) t = (.error .tooWide, t)) ∧
    ((∀ row ∈ grid headers rows, ∀ cell ∈ row, cell.utf8ByteSize ≤ widthLimit) →
      ∃ first ls, Written headers rows first ls ∧
        ((∀ n ∈ t.room, rows.length < n) →
          (writeAll (Table.lines headers rows)).run.run (Terminal.answer call) t =
            (.ok (), t.after (first :: ls)) ∧
          (t.after (first :: ls)).text = t.text ++ Table.text (first :: ls))) := by
  refine ⟨run_lines_wide call t hshape, fun hshort => ?_⟩
  have hw := (forall_columnWidths hshape).mpr hshort
  have hlines : Table.lines headers rows =
      ((grid headers rows).map (rowLine (columnWidths headers rows))).map some := by
    rw [lines_eq, List.map_map]
    exact List.map_congr_left fun row hr => line?_eq_some (fits_grid hshape hr).length_eq hw
  refine ⟨_, _, written_rowLine hshape hw, fun hroom => ⟨?_, t.text_after _⟩⟩
  rw [hlines]
  refine run_writeAll call fun n hn => ?_
  rw [List.length_map]
  exact hroom n hn

/-- No agent can be reached. -/
def noAgent : (op : Operation) → Unit → Except ClientError op.Report × Unit :=
  Client.perform Client.noExchange ""

/-- Two ports, one with a name of six characters that take up eighteen bytes, and one without an alias. -/
def twoPorts : List (List String) := [["日本語日本語", "etp1"], ["Ethernet0", ""]]

theorem ports_in_columns : (∀ row ∈ twoPorts, row.length = 2) ∧
    (∀ row ∈ grid ["Name", "Alias"] twoPorts, ∀ cell ∈ row, cell.utf8ByteSize ≤ widthLimit) ∧
    ∃ first l₁ l₂, (writeAll (Table.lines ["Name", "Alias"] twoPorts)).run.run
      (Terminal.answer noAgent) (Terminal.start none ()) =
        (.ok (), (Terminal.start none ()).after [first, l₁, l₂]) ∧
      Text.trimEnd (column [18, 5] 0 l₁.toList) = "日本語日本語".toList ∧
      Text.trimEnd (column [18, 5] 1 l₁.toList) = "etp1".toList ∧
      Text.lines (Table.text [first, l₁, l₂]).toList = [first.toList, l₁.toList, l₂.toList] := by
  have hshape : ∀ row ∈ twoPorts, row.length = ["Name", "Alias"].length := by decide
  have hshort : ∀ row ∈ grid ["Name", "Alias"] twoPorts, ∀ cell ∈ row,
      cell.utf8ByteSize ≤ widthLimit := by decide +kernel
  have hwidths : columnWidths ["Name", "Alias"] twoPorts = [18, 5] := by decide +kernel
  obtain ⟨first, ls, hwritten, hrun⟩ :=
    (written_in_columns noAgent (Terminal.start none ()) hshape).2 hshort
  have hrows := hwritten.rows_shown
  rw [hwidths] at hrows
  rcases hrows with _ | ⟨h₁, _ | ⟨h₂, _ | _⟩⟩
  refine ⟨hshape, hshort, first, _, _, (hrun nofun).1, (h₁.readable rfl ?_).1, (h₁.readable rfl ?_).1, ?_⟩
  · rintro c ⟨⟩
    rfl
  · rintro c ⟨⟩
    rfl
  · have hlines := hwritten.lines_text (by decide +kernel)
    rw [hwritten.lines_first (by decide +kernel)] at hlines
    exact hlines

/-- A port with an alias of many characters. -/
def longAlias (n : Nat) : List (List String) := [["Ethernet0", String.ofList (List.replicate n 'a')]]

theorem length_longAlias {n : Nat} : ∀ row ∈ longAlias n, row.length = 2 :=
  List.forall_mem_singleton.mpr rfl

theorem feed_not_mem_longAlias {n : Nat} : ∀ row ∈ longAlias n, ∀ cell ∈ row, '\n' ∉ cell.toList := by
  rw [longAlias, List.forall_mem_singleton, List.forall_mem_cons, List.forall_mem_singleton]
  refine ⟨by decide, ?_⟩
  rw [String.toList_ofList]
  exact fun hfeed => absurd (List.eq_of_mem_replicate hfeed) (by decide)

theorem run_longAlias {n : Nat} (hn : widthLimit < n) :
    (writeAll (Table.lines ["Name", "Alias"] (longAlias n))).run.run (Terminal.answer call) t =
      (.error .tooWide, t) := by
  refine run_lines_wide call t length_longAlias ⟨_, List.mem_cons_of_mem _ List.mem_cons_self, _,
    List.mem_cons_of_mem _ List.mem_cons_self, ?_⟩
  refine lt_of_lt_of_le ?_ (length_le_utf8ByteSize _)
  rwa [String.length_ofList, List.length_replicate]

/-- **A table that is not written.** Nothing is wrong with its rows but the length of a cell. -/
theorem wide_unwritten : (∀ row ∈ longAlias 65536, row.length = 2) ∧
    (∀ row ∈ longAlias 65536, ∀ cell ∈ row, '\n' ∉ cell.toList) ∧
    (writeAll (Table.lines ["Name", "Alias"] (longAlias 65536))).run.run (Terminal.answer noAgent)
      (Terminal.start none ()) = (.error .tooWide, Terminal.start none ()) :=
  ⟨length_longAlias, feed_not_mem_longAlias, run_longAlias _ _ (by decide)⟩

end CommandLine

end SwitchFleet

import Mathlib.Algebra.GroupWithZero.Nat
import Mathlib.Data.List.Forall2
import Mathlib.Data.List.Infix
import SwitchFleet.CommandLine.Table
import SwitchFleet.Proofs.Text.Trimming

/-!
# The columns of a table

The widths of the columns are counted in bytes and the cells are filled up in characters. A text has at most
as many characters as bytes, so that every cell fits into its column and every line of a table is cut into the
same columns.

* `Table.Fits`: a row that fits into columns. `fits_widths`: every row of a table fits into its columns.
  `forall_widths`: the widths are within a bound exactly if the sizes of all cells are.
* `Table.grid`, `Table.columnWidths`: the rows of a table with its headers, and the widths of its columns.
* `fullLine?_eq`, `line?_eq_none`: a line can be made exactly if no column is too wide.
* `Table.offset`, `Table.column`: where a column starts, and the part of a line from there to the start of the
  next column.
* `Table.Aligned`: a line with every cell in its column. **`aligned_fullLine`**: the line of a row is one.
* **`Aligned.column_trimEnd`**: a cell can be read from its column after the line was trimmed.
-/

namespace SwitchFleet.Table

variable {ws : List Nat} {row : List String} {w j n : Nat} {cell : String}

/-! ## Widths -/

theorem length_le_utf8ByteSize (s : String) : s.length ≤ s.utf8ByteSize := by
  obtain ⟨cs, rfl⟩ : ∃ cs, s = String.ofList cs := ⟨s.toList, String.ofList_toList.symm⟩
  induction cs with
  | nil => exact Nat.zero_le _
  | cons c cs ih =>
    have hc : 0 < c.utf8Size := c.utf8Size_pos
    rw [← List.singleton_append, String.ofList_append, String.length_append,
      String.utf8ByteSize_append, ← String.singleton_eq_ofList, String.utf8ByteSize_singleton,
      String.length_singleton]
    omega

/-- Every column has a cell, and is as wide as this cell has bytes. -/
def Fits (ws : List Nat) (row : List String) : Prop :=
  List.Forall₂ (fun w cell => cell.utf8ByteSize ≤ w) ws row

theorem Fits.length_eq (h : Fits ws row) : ws.length = row.length := List.Forall₂.length_eq h

theorem Fits.length_le (h : Fits ws row) (hj : (ws.zip row)[j]? = some (w, cell)) :
    cell.length ≤ w :=
  (length_le_utf8ByteSize cell).trans
    ((List.forall₂_iff_zip.mp h).2 (List.mem_of_getElem? hj))

@[simp]
theorem length_widen : ∀ (ws : List Nat) (row : List String), (widen ws row).length = ws.length
  | [], _ => rfl
  | _ :: _, [] => rfl
  | _ :: ws, _ :: cells => congrArg Nat.succ (length_widen ws cells)

theorem fits_widen : ∀ {ws : List Nat} {row : List String}, ws.length = row.length →
    Fits (widen ws row) row
  | [], [], _ => .nil
  | _ :: _, _ :: _, h => .cons (Nat.le_max_right ..) (fits_widen (Nat.succ.inj h))

theorem Fits.widen (h : Fits ws row) (other : List String) : Fits (widen ws other) row := by
  induction h generalizing other with
  | nil => exact .nil
  | cons hw hrest ih =>
    cases other with
    | nil => exact .cons hw hrest
    | cons c other => exact .cons (hw.trans (Nat.le_max_left ..)) (ih other)

theorem Fits.foldl (h : Fits ws row) (rows : List (List String)) :
    Fits (rows.foldl Table.widen ws) row := by
  induction rows generalizing ws with
  | nil => exact h
  | cons r rows ih => exact ih (h.widen r)

theorem length_foldl_widen (ws : List Nat) (rows : List (List String)) :
    (rows.foldl widen ws).length = ws.length := by
  induction rows generalizing ws with
  | nil => rfl
  | cons r rows ih => rw [List.foldl_cons, ih, length_widen]

variable {headers : List String} {rows : List (List String)}

/-- **Every row of a table fits into its columns.** -/
theorem fits_widths (hshape : ∀ row ∈ rows, row.length = headers.length)
    (h : row ∈ headers :: rows) : Fits (widths headers rows) row := by
  rcases List.mem_cons.mp h with rfl | h
  · have hself : Fits (row.map String.utf8ByteSize) row := by
      rw [Fits, List.forall₂_map_left_iff]
      exact List.forall₂_same.mpr fun _ _ => le_rfl
    exact hself.foldl rows
  · obtain ⟨before, after, rfl⟩ := List.append_of_mem h
    rw [widths, List.foldl_append, List.foldl_cons]
    refine (fits_widen ?_).foldl after
    rw [length_foldl_widen, List.length_map, hshape row h]

theorem forall_widen : ∀ {ws : List Nat} {row : List String}, ws.length = row.length →
    ((∀ w ∈ widen ws row, w ≤ n) ↔ (∀ w ∈ ws, w ≤ n) ∧ ∀ cell ∈ row, cell.utf8ByteSize ≤ n)
  | [], [], _ => by simp [widen]
  | w :: ws, cell :: cells, h => by
    rw [widen, List.forall_mem_cons, List.forall_mem_cons, List.forall_mem_cons,
      forall_widen (Nat.succ.inj h), Nat.max_le]
    tauto

theorem forall_foldl_widen (h : ∀ row ∈ rows, row.length = ws.length) :
    (∀ w ∈ rows.foldl widen ws, w ≤ n) ↔
      (∀ w ∈ ws, w ≤ n) ∧ ∀ row ∈ rows, ∀ cell ∈ row, cell.utf8ByteSize ≤ n := by
  induction rows generalizing ws with
  | nil => simp
  | cons row rows ih =>
    obtain ⟨hrow, hrows⟩ := List.forall_mem_cons.mp h
    rw [List.foldl_cons, ih fun r hr => (hrows r hr).trans (length_widen ws row).symm,
      forall_widen hrow.symm, List.forall_mem_cons, and_assoc]

theorem forall_widths (hshape : ∀ row ∈ rows, row.length = headers.length) :
    (∀ w ∈ widths headers rows, w ≤ n) ↔
      ∀ row ∈ headers :: rows, ∀ cell ∈ row, cell.utf8ByteSize ≤ n := by
  rw [widths, forall_foldl_widen fun row hr => (hshape row hr).trans (List.length_map _).symm,
    List.forall_mem_cons, List.forall_mem_map]

/-! ## Whole tables -/

/-- The rows of a table. The first one holds the headers in upper case. -/
def grid (headers : List String) (rows : List (List String)) : List (List String) :=
  headers.map Text.upper :: rows

/-- The widths of the columns of a table. -/
def columnWidths (headers : List String) (rows : List (List String)) : List Nat :=
  widths (headers.map Text.upper) rows

theorem lines_eq (headers : List String) (rows : List (List String)) :
    lines headers rows = (grid headers rows).map (line? (columnWidths headers rows)) := rfl

theorem length_upper (hshape : ∀ row ∈ rows, row.length = headers.length) :
    ∀ row ∈ rows, row.length = (headers.map Text.upper).length := fun row hr =>
  (hshape row hr).trans (List.length_map _).symm

theorem fits_grid (hshape : ∀ row ∈ rows, row.length = headers.length)
    (h : row ∈ grid headers rows) : Fits (columnWidths headers rows) row :=
  fits_widths (length_upper hshape) h

theorem forall_columnWidths (hshape : ∀ row ∈ rows, row.length = headers.length) :
    (∀ w ∈ columnWidths headers rows, w ≤ n) ↔
      ∀ row ∈ grid headers rows, ∀ cell ∈ row, cell.utf8ByteSize ≤ n :=
  forall_widths (length_upper hshape)

/-! ## Lines -/

theorem mapM_padded? : ∀ {ws : List Nat} {row : List String}, ws.length = row.length →
    ((ws.zip row).mapM fun c => padded? c.1 c.2) =
      if ∀ w ∈ ws, w ≤ widthLimit then some (List.zipWith padded ws row) else none
  | [], [], _ => by simp
  | w :: ws, cell :: cells, h => by
    rw [List.zip_cons_cons, List.mapM_cons, mapM_padded? (Nat.succ.inj h)]
    have hcons : (∀ v ∈ w :: ws, v ≤ widthLimit) ↔ w ≤ widthLimit ∧ ∀ v ∈ ws, v ≤ widthLimit :=
      List.forall_mem_cons
    by_cases hw : w ≤ widthLimit
    · by_cases hws : ∀ v ∈ ws, v ≤ widthLimit
      · rw [if_pos hws, if_pos (hcons.mpr ⟨hw, hws⟩)]
        simp [padded?, hw]
      · rw [if_neg hws, if_neg fun h => hws (hcons.mp h).2]
        simp [padded?, hw]
    · rw [if_neg fun h => hw (hcons.mp h).1]
      simp [padded?, hw]

theorem fullLine?_eq (h : ws.length = row.length) : fullLine? ws row =
    if ∀ w ∈ ws, w ≤ widthLimit then some (gap.intercalate (List.zipWith padded ws row)) else none := by
  rw [fullLine?, mapM_padded? h]
  split <;> rfl

theorem line?_eq_none (h : ws.length = row.length) (hw : ¬ ∀ w ∈ ws, w ≤ widthLimit) :
    line? ws row = none := by
  rw [line?, fullLine?_eq h, if_neg hw]
  rfl

theorem intercalate_cons_eq_append {α : Type} (sep c : List α) (after : List (List α)) :
    sep.intercalate (c :: after) = c ++ after.flatMap (sep ++ ·) := by
  induction after generalizing c with
  | nil => simp
  | cons d after ih => rw [List.intercalate_cons_cons, ih, List.flatMap_cons, List.append_assoc,
      List.append_assoc]

theorem intercalate_append_cons {α : Type} (sep c : List α) (before after : List (List α)) :
    sep.intercalate (before ++ c :: after) =
      before.flatMap (· ++ sep) ++ (c ++ after.flatMap (sep ++ ·)) := by
  induction before with
  | nil => exact intercalate_cons_eq_append sep c after
  | cons b before ih =>
    rw [List.cons_append, List.intercalate_cons_of_ne_nil (by simp), ih, List.flatMap_cons,
      List.append_assoc _ _ (c ++ _)]

theorem length_flatMap_eq {α : Type} {f : List α → List α} (hf : ∀ a, (f a).length = a.length + n)
    (l : List (List α)) : (l.flatMap f).length = (l.map List.length).sum + n * l.length := by
  induction l with
  | nil => simp
  | cons a l ih =>
    rw [List.flatMap_cons, List.length_append, hf, ih, List.map_cons, List.sum_cons, List.length_cons,
      Nat.mul_succ]
    omega

/-! ## Columns -/

/-- The number of characters before a column: the widths of the columns before it and the gaps between
them. -/
def offset (ws : List Nat) (j : Nat) : Nat := (ws.take j).sum + gap.length * j

/-- The part of a line from the start of a column to the start of the next one. -/
def column (ws : List Nat) (j : Nat) (line : List Char) : List Char :=
  (line.drop (offset ws j)).take (offset ws (j + 1) - offset ws j)

/-- A line that is as long as all columns with the gaps between them, and holds every cell at the start of
its column, with nothing but spaces before the next column. -/
structure Aligned (ws : List Nat) (row : List String) (line : List Char) : Prop where
  length_eq : line.length = ws.sum + gap.length * (ws.length - 1)
  length_le : ∀ {j w : Nat} {cell : String}, (ws.zip row)[j]? = some (w, cell) → cell.length ≤ w
  column_eq : ∀ {j w : Nat} {cell : String}, (ws.zip row)[j]? = some (w, cell) →
    column ws j line = cell.toList ++
      List.replicate (w - cell.length + if j + 1 < ws.length then gap.length else 0) ' '

theorem offset_succ (h : ws[j]? = some w) : offset ws (j + 1) = offset ws j + (w + gap.length) := by
  unfold offset
  rw [List.take_add_one, h, List.sum_append, Option.toList_some, List.sum_singleton, Nat.mul_succ]
  omega

theorem toList_padded (w : Nat) (cell : String) :
    (padded w cell).toList = cell.toList ++ List.replicate (w - cell.length) ' ' := by
  rw [padded, String.toList_append, String.toList_ofList]

theorem length_padded (h : cell.length ≤ w) : (padded w cell).toList.length = w := by
  rw [toList_padded, List.length_append, List.length_replicate, String.length_toList]
  omega

/-- The cells, filled up, as lists of characters. -/
def parts (ws : List Nat) (row : List String) : List (List Char) :=
  (List.zipWith padded ws row).map String.toList

/-- **Cells are filled up to the widths of their columns.** -/
theorem Fits.length_parts (h : Fits ws row) : (parts ws row).map List.length = ws := by
  induction h with
  | nil => rfl
  | @cons w cell ws row hw _ ih =>
    have hpart : (padded w cell).toList.length = w :=
      length_padded ((length_le_utf8ByteSize cell).trans hw)
    simpa [parts, hpart] using ih

theorem getElem?_parts (h : (ws.zip row)[j]? = some (w, cell)) :
    (parts ws row)[j]? = some (padded w cell).toList := by
  obtain ⟨hw, hc⟩ := List.getElem?_zip_eq_some.mp h
  rw [parts, List.getElem?_map, List.getElem?_zipWith, hw, hc]
  rfl

theorem gap_eq : gap.toList = List.replicate gap.length ' ' := by decide

/-- **All lines of a table are as long.** -/
theorem Fits.length_intercalate (h : Fits ws row) :
    (gap.toList.intercalate (parts ws row)).length = ws.sum + gap.length * (ws.length - 1) := by
  have hparts := h.length_parts
  rcases hp : parts ws row with _ | ⟨c, cs⟩
  · rw [hp] at hparts
    rw [← hparts]
    rfl
  · rw [hp, List.map_cons] at hparts
    rw [intercalate_cons_eq_append, List.length_append,
      length_flatMap_eq fun _ => (List.length_append).trans (Nat.add_comm ..), ← hparts,
      String.length_toList, List.sum_cons, List.length_cons, List.length_map, Nat.add_sub_cancel,
      Nat.add_assoc]

/-- What stands in a line from a column on: the cell, filled up, and the columns after it. -/
theorem Fits.drop_offset (h : Fits ws row) (hj : (ws.zip row)[j]? = some (w, cell)) :
    (gap.toList.intercalate (parts ws row)).drop (offset ws j) =
      (padded w cell).toList ++ ((parts ws row).drop (j + 1)).flatMap (gap.toList ++ ·) := by
  obtain ⟨hlt, hget⟩ := List.getElem?_eq_some_iff.mp (getElem?_parts hj)
  have hsplit : parts ws row =
      (parts ws row).take j ++ (padded w cell).toList :: (parts ws row).drop (j + 1) := by
    rw [← hget, List.getElem_cons_drop, List.take_append_drop]
  have hbefore : (((parts ws row).take j).flatMap (· ++ gap.toList)).length = offset ws j := by
    rw [length_flatMap_eq fun _ => List.length_append, List.map_take, h.length_parts,
      List.length_take_of_le hlt.le, String.length_toList, offset]
  conv_lhs => rw [hsplit, intercalate_append_cons]
  exact List.drop_left' hbefore

theorem Fits.column_eq (h : Fits ws row) (hj : (ws.zip row)[j]? = some (w, cell)) :
    column ws j (gap.toList.intercalate (parts ws row)) = cell.toList ++
      List.replicate (w - cell.length + if j + 1 < ws.length then gap.length else 0) ' ' := by
  have hw : ws[j]? = some w := (List.getElem?_zip_eq_some.mp hj).1
  have hlength : (parts ws row).length = ws.length := by
    conv_rhs => rw [← h.length_parts, List.length_map]
  have hpart : (padded w cell).toList.length = w := length_padded (h.length_le hj)
  unfold column
  rw [h.drop_offset hj, offset_succ hw, Nat.add_sub_cancel_left, ← List.replicate_append_replicate,
    ← List.append_assoc, ← toList_padded]
  rcases hrest : (parts ws row).drop (j + 1) with _ | ⟨d, ds⟩
  · have hlast : ¬ j + 1 < ws.length := by
      have hle := List.drop_eq_nil_iff.mp hrest
      omega
    rw [if_neg hlast, List.flatMap_nil, List.take_of_length_le]
    · rfl
    · rw [List.append_nil, hpart]
      exact Nat.le_add_right ..
  · have hnext : j + 1 < ws.length := by
      have hpos := congrArg List.length hrest
      rw [List.length_drop, List.length_cons] at hpos
      omega
    rw [if_pos hnext, List.flatMap_cons, List.append_assoc, ← List.append_assoc, List.take_left',
      gap_eq]
    rw [List.length_append, hpart, String.length_toList]

/-- **The line of a row** has every cell in its column. -/
theorem aligned_fullLine (h : Fits ws row) :
    Aligned ws row (gap.toList.intercalate (parts ws row)) where
  length_eq := h.length_intercalate
  length_le := h.length_le
  column_eq := h.column_eq

/-! ## Reading -/

theorem isBlank_of_mem_replicate {c : Char} (h : c ∈ List.replicate n ' ') :
    Text.isBlank c = true := by
  rw [List.eq_of_mem_replicate h]
  rfl

/-- **A cell is read from its column** after the blanks at the end of the line were taken away: whatever is
left of the column is the cell and spaces after it, provided that the cell does not end with a blank. -/
theorem Aligned.column_trimEnd {line : List Char} (h : Aligned ws row line)
    (hj : (ws.zip row)[j]? = some (w, cell))
    (hcell : ∀ c ∈ cell.toList.getLast?, Text.isBlank c = false) :
    Text.trimEnd (column ws j (Text.trimEnd line)) = cell.toList ∧
      ∃ k, column ws j (Text.trimEnd line) = cell.toList ++ List.replicate k ' ' := by
  have hread : Text.trimEnd (column ws j (Text.trimEnd line)) = cell.toList := by
    have hslice : Text.trimEnd (column ws j (Text.trimEnd line)) = Text.trimEnd (column ws j line) :=
      Text.dropEndWhile_slice ..
    rw [hslice, h.column_eq hj]
    exact (Text.dropEndWhile_append fun _ hc => isBlank_of_mem_replicate hc).trans
      (Text.dropEndWhile_eq_self hcell)
  refine ⟨hread, ?_⟩
  -- What is left of the column begins with the cell and is itself a beginning of the whole column.
  have hcolumn : column ws j (Text.trimEnd line) <+: column ws j line :=
    List.IsPrefix.take (List.IsPrefix.drop (Text.dropEndWhile_prefix _ line) _) _
  obtain ⟨rest, hrest⟩ : cell.toList <+: column ws j (Text.trimEnd line) := by
    conv_lhs => rw [← hread]
    exact Text.dropEndWhile_prefix ..
  rw [← hrest, h.column_eq hj, List.prefix_append_right_inj] at hcolumn
  exact ⟨rest.length, by rw [← hrest, ← (List.prefix_replicate_iff.mp hcolumn).2]⟩

end SwitchFleet.Table

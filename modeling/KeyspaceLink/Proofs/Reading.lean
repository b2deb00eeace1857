import KeyspaceLink.Rows.Reader
import Mathlib

/-! What a reader delivers while it is open: the rows of its cursor in order, each batch the
next rows laid out by columns. -/

namespace KeyspaceLink

theorem mapM_eq_ok {ε α β : Type} {f : α → Except ε β} {g : α → β} {l : List α}
    (h : ∀ a ∈ l, f a = .ok (g a)) : l.mapM f = .ok (l.map g) := by
  induction l with
  | nil => rfl
  | cons a l ih =>
    have hrest := ih fun b hb => h b (List.mem_cons_of_mem a hb)
    rw [List.mapM_cons, h a List.mem_cons_self, hrest]
    rfl

/-- A cursor that is open, and whose rows have a value for each of its columns. -/
structure Cursor.Fits (c : Cursor) : Prop where
  isOpen : c.closed = false
  columns_ne_nil : c.columns ≠ []
  width : ∀ row ∈ c.rows, row.length = c.columns.length

namespace Cursor

variable {c : Cursor} {row : List Json}

theorem fits_of_values (shape : RowShape) (column : Column) (values : List Json) :
    Fits ⟨shape, [column], values.map ([·]), none, false⟩ := by
  refine ⟨rfl, by simp, fun row hrow => ?_⟩
  obtain ⟨v, -, rfl⟩ := List.mem_map.mp hrow
  rfl

theorem get_of_current (h : c.current = some row) {i : Nat} (hi : i < row.length) :
    c.get i = .ok row[i] := by
  rw [get, currentRow, h]
  simp [bind, Except.bind, hi]

/-- Reading a row column by column gives the row. -/
theorem row_of_current (h : c.current = some row) (hwidth : row.length = c.columns.length) :
    c.row = .ok row := by
  have hget : ∀ i ∈ List.range row.length, c.get i = .ok (row[i]?.getD .null) := by
    intro i hi
    have hlt : i < row.length := List.mem_range.mp hi
    simp [get_of_current h hlt, hlt]
  have hrow : (List.range row.length).map (fun i => row[i]?.getD .null) = row := by
    apply List.ext_getElem (by simp)
    intro i h1 h2
    simp [h2]
  rw [Cursor.row, ← hwidth, mapM_eq_ok hget, hrow]

/-- Taking rows gives the next of them and leaves the others. -/
theorem take_of_fits (h : c.Fits) (count : Nat) :
    ∃ c', c.take count = (.ok (c.rows.take count), c') ∧ c'.Fits ∧
      c'.rows = c.rows.drop count ∧ c'.columns = c.columns := by
  induction count generalizing c with
  | zero => exact ⟨c, rfl, h, rfl, rfl⟩
  | succ count ih =>
    cases hrows : c.rows with
    | nil =>
      have hnext : c.next = (false, { c with current := none }) := by
        rw [next, if_neg (by simp [h.isOpen]), hrows]
      refine ⟨{ c with current := none }, ?_, ⟨h.isOpen, h.columns_ne_nil, h.width⟩, hrows, rfl⟩
      rw [take, hnext]
      rfl
    | cons row rest =>
      have hnext : c.next = (true, { c with rows := rest, current := some row }) := by
        rw [next, if_neg (by simp [h.isOpen]), hrows]
      have hwidth := h.width
      rw [hrows] at hwidth
      have hrest : Fits { c with rows := rest, current := some row } :=
        ⟨h.isOpen, h.columns_ne_nil, fun r hr => hwidth r (List.mem_cons_of_mem row hr)⟩
      have hrow : Cursor.row { c with rows := rest, current := some row } = .ok row :=
        row_of_current rfl (hwidth row List.mem_cons_self)
      obtain ⟨c', htake, hfits, hdrop, hcolumns⟩ := ih hrest
      refine ⟨c', ?_, hfits, hdrop, hcolumns⟩
      simp only [take, hnext, hrow, htake]
      rfl

end Cursor

section Batches

variable {columns : List Column} {rows : List (List Json)}

theorem length_series (t : ColumnType) (values : List Json) :
    (t.series values).length = values.length := by
  cases t <;> simp [ColumnType.series, Series.length]

theorem length_of_mem_layOut {s : Series} (h : s ∈ layOut columns rows) :
    s.length = rows.length := by
  obtain ⟨p, -, rfl⟩ := List.mem_map.mp h
  rw [length_series, List.length_map]

/-- Rows in columns make a batch if there is a column. -/
theorem batch_layOut (hcolumns : columns ≠ []) :
    Batch.of? (columns.map Column.field) (layOut columns rows) =
      some ⟨columns.map Column.field, layOut columns rows⟩ := by
  have hlength : (layOut columns rows).length = columns.length := by simp [layOut]
  have hall : ∀ s ∈ layOut columns rows, s.length = rows.length := fun s => length_of_mem_layOut
  have hsuits : ((layOut columns rows).zip (columns.map Column.field)).all
      (fun p => p.1.suits p.2) = true := by
    rw [List.all_eq_true]
    rintro ⟨s, f⟩ hmem
    obtain ⟨column, -, rfl⟩ := List.mem_map.mp (List.of_mem_zip hmem).2
    rfl
  cases hlaid : layOut columns rows with
  | nil =>
    rw [hlaid] at hlength
    exact absurd (List.length_eq_zero_iff.mp hlength.symm) hcolumns
  | cons first rest =>
    rw [hlaid] at hlength hall hsuits
    have hfirst : first.length = rows.length := hall first List.mem_cons_self
    have hlengths : (first :: rest).all (fun s => s.length == first.length) = true := by
      rw [List.all_eq_true]
      intro s hs
      rw [hall s hs, hfirst, beq_self_eq_true]
    have hfields : ((columns.map Column.field).length == (first :: rest).length) = true := by
      rw [hlength, List.length_map, beq_self_eq_true]
    simp only [Batch.of?, hfields, hlengths, hsuits, Bool.and_self, if_true]

/-- The rows of one call as a batch; no rows make none. -/
def batch? (columns : List Column) : List (List Json) → Option Batch
  | [] => none
  | row :: rows => some ⟨columns.map Column.field, layOut columns (row :: rows)⟩

end Batches

namespace Reader

/-- What so many calls in a row return while nothing closes the reader. -/
def results : Nat → Reader → List (Except Failure (Option Batch))
  | 0, _ => []
  | count + 1, r => (r.next false).1 :: results count (r.next false).2

variable {cursor : Cursor}

theorem next_of_fits (h : cursor.Fits) (size : Nat) :
    ∃ cursor', (Reader.rows cursor size).next false =
        (.ok (batch? cursor.columns (cursor.rows.take size)), .rows cursor' size) ∧
      cursor'.Fits ∧ cursor'.rows = cursor.rows.drop size ∧ cursor'.columns = cursor.columns := by
  obtain ⟨cursor', htake, hfits, hrows, hcolumns⟩ := cursor.take_of_fits h size
  refine ⟨cursor', ?_, hfits, hrows, hcolumns⟩
  rw [next, if_neg (by simp), htake]
  cases hcase : cursor.rows.take size with
  | nil => rfl
  | cons row more => simp only [batch?, batch_layOut h.columns_ne_nil]

/-- Call by call, an open reader returns the rows of its cursor, `size` at a time. -/
theorem results_of_fits (h : cursor.Fits) (size count : Nat) :
    (Reader.rows cursor size).results count =
      (List.range count).map fun i =>
        .ok (batch? cursor.columns ((cursor.rows.drop (i * size)).take size)) := by
  induction count generalizing cursor with
  | zero => rfl
  | succ count ih =>
    obtain ⟨cursor', hnext, hfits, hrows, hcolumns⟩ := next_of_fits h size
    rw [results, hnext, ih hfits, hrows, hcolumns, List.range_succ_eq_map]
    simp [Function.comp_def, List.drop_drop, Nat.succ_mul, Nat.add_comm]

end Reader

end KeyspaceLink

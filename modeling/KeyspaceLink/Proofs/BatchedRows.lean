import KeyspaceLink.Proofs.Reading
import KeyspaceLink.Proofs.SeriesCells

/-! The rows of batches. Whatever the size of the batches, and whenever the reader is closed,
the batches put together are the rows of the cursor from the first on. -/

namespace KeyspaceLink

/-- Made of rows in one of the ways there are, then moved or closed. -/
inductive Cursor.Built : Cursor → Prop
  | documents (rows : List Json) : Built (.documents rows)
  | singleColumn (column : Column) (values : List Json) : Built (.singleColumn column values)
  | list (values : List Json) : Built (.list values)
  | flattened (columns : List Column) (rows : List (List Json)) : Built (.flattened columns rows)
  | ofObjects (columns : List Column) (objects : List Json) : Built (.ofObjects columns objects)
  | empty (columns : List Column) : Built (.empty columns)
  | next {c : Cursor} (h : Built c) : Built c.next.2
  | close {c : Cursor} (h : Built c) : Built c.close

/-- A value in the type of its column, null if it has no form there. -/
def ColumnType.cell : ColumnType → Json → Cell
  | text, v => (shownText? v).elim .null .text
  | boolean, v => (truth? v).elim .null .boolean
  | int16, v => ((wordValue? v).bind half16?).elim .null .int
  | int64, v => (wordValue? v).elim .null .int
  | double, v => v.float?.elim .null .double

def cellsOf (columns : List Column) (row : List Json) : List Cell :=
  List.zipWith (fun column v => column.type.cell v) columns row

def rowsOfResult : Except Failure (Option Batch) → List (List Cell)
  | .ok (some batch) => batch.rows
  | _ => []

namespace Reader

/-- What calls in a row return, each with what it sees of the flag. -/
def calls : List Bool → Reader → List (Except Failure (Option Batch))
  | [], _ => []
  | closed :: more, r => (r.next closed).1 :: (r.next closed).2.calls more

def delivered (seen : List Bool) (r : Reader) : List (List Cell) :=
  (r.calls seen).flatMap rowsOfResult

end Reader

namespace Cursor

variable {c : Cursor}

theorem length_fit (width : Nat) (row : List Json) : (fit width row).length = width := by
  simp only [fit, List.length_append, List.length_take, List.length_replicate]
  omega

theorem Built.width (h : c.Built) : ∀ row ∈ c.rows, row.length = c.columns.length := by
  induction h with
  | documents rows => simp [Cursor.documents]
  | singleColumn column values => simp [Cursor.singleColumn]
  | list values => simp [Cursor.list]
  | flattened columns rows => simp [Cursor.flattened, length_fit]
  | ofObjects columns objects => simp [Cursor.ofObjects]
  | empty columns => simp [Cursor.empty]
  | @next c _ ih =>
    rw [Cursor.next]
    split
    · exact ih
    · split
      · exact ih
      · next row rest hrows =>
        intro r hr
        exact ih r (hrows ▸ List.mem_cons_of_mem row hr)
  | close => simp [Cursor.close]

theorem Built.rows_of_closed (h : c.Built) (hclosed : c.closed = true) : c.rows = [] := by
  induction h with
  | @next c _ ih =>
    rw [Cursor.next] at hclosed ⊢
    split at hclosed
    · next hc => rw [if_pos hc]; exact ih hc
    · next hc =>
      split at hclosed
      · exact absurd hclosed hc
      · exact absurd hclosed hc
  | close => rfl
  | _ => cases hclosed

theorem Built.fits (h : c.Built) (hopen : c.closed = false) (hcolumns : c.columns ≠ []) : c.Fits :=
  ⟨hopen, hcolumns, h.width⟩

theorem take_of_closed (hclosed : c.closed = true) (count : Nat) : c.take count = (.ok [], c) := by
  cases count with
  | zero => rfl
  | succ count =>
    have hnext : c.next = (false, c) := by rw [Cursor.next, if_pos hclosed]
    rw [take, hnext]

end Cursor

namespace Reader

variable {c : Cursor} {size : Nat}

theorem calls_append (first second : List Bool) (r : Reader) :
    r.calls (first ++ second) =
      r.calls first ++ (first.foldl (fun r closed => (r.next closed).2) r).calls second := by
  induction first generalizing r with
  | nil => rfl
  | cons closed first ih =>
    rw [List.cons_append, calls, ih, calls, List.foldl_cons, List.cons_append]

theorem calls_open (count : Nat) (r : Reader) :
    r.calls (List.replicate count false) = r.results count := by
  induction count generalizing r with
  | zero => rfl
  | succ count ih => rw [List.replicate_succ, calls, ih, results]

theorem calls_closed (count : Nat) (r : Reader) :
    r.calls (List.replicate count true) = List.replicate count (.ok none) := by
  induction count generalizing r with
  | zero => rfl
  | succ count ih =>
    have hnext : (r.next true).1 = .ok none := by cases r <;> rfl
    rw [List.replicate_succ, calls, ih, hnext, List.replicate_succ]

theorem next_of_closed (hclosed : c.closed = true) :
    (Reader.rows c size).next false = (.ok none, .rows c size) := by
  rw [next, if_neg (by simp), c.take_of_closed hclosed]

theorem results_of_closed (hclosed : c.closed = true) (count : Nat) :
    (Reader.rows c size).results count = List.replicate count (.ok none) := by
  induction count with
  | zero => rfl
  | succ count ih => rw [results, next_of_closed hclosed, ih, List.replicate_succ]

theorem results_of_built (h : c.Built) (hcolumns : c.columns ≠ []) (size count : Nat) :
    (Reader.rows c size).results count =
      (List.range count).map fun i =>
        .ok (batch? c.columns ((c.rows.drop (i * size)).take size)) := by
  by_cases hclosed : c.closed = true
  · rw [results_of_closed hclosed, h.rows_of_closed hclosed]
    simp [batch?]
  · exact results_of_fits (h.fits (by simpa using hclosed) hcolumns) size count

end Reader

section Rows

variable {columns : List Column} {rows : List (List Json)}

theorem cells_series (t : ColumnType) (values : List Json) :
    (t.series values).cells = values.map t.cell := by
  cases t <;> simp only [ColumnType.series, Series.cells, List.map_map] <;> rfl

theorem cellsOf_eq {row : List Json} (h : row.length = columns.length) :
    cellsOf columns row = columns.zipIdx.map fun p => p.1.type.cell (row[p.2]?.getD .null) := by
  apply List.ext_getElem
  · simp [cellsOf, h]
  · intro i hi hi'
    have hlt : i < row.length := by
      simp only [cellsOf, List.length_zipWith] at hi
      omega
    simp [cellsOf, hlt]

/-- Rows laid out by columns are read back as rows, every value in the type of its column. -/
theorem rows_layOut (hcolumns : columns ≠ []) (hwidth : ∀ row ∈ rows, row.length = columns.length) :
    (Batch.mk (columns.map Column.field) (layOut columns rows)).rows =
      rows.map (cellsOf columns) := by
  let members : List (List Json → Cell) :=
    columns.zipIdx.map fun p row => p.1.type.cell (row[p.2]?.getD .null)
  have hcells : (layOut columns rows).map Series.cells = members.map fun m => rows.map m := by
    simp only [members, layOut, List.map_map]
    congr 1
    funext p
    simp only [Function.comp_apply, cells_series, List.map_map]
    rfl
  have hlength : (Batch.mk (columns.map Column.field) (layOut columns rows)).length =
      rows.length := by
    cases hlaid : layOut columns rows with
    | nil => simp [layOut, hcolumns] at hlaid
    | cons first rest =>
      have hfirst : first ∈ layOut columns rows := hlaid ▸ List.mem_cons_self
      exact length_of_mem_layOut hfirst
  rw [Batch.rows, hlength, hcells, rowsOf_map]
  refine List.map_congr_left fun row hrow => ?_
  rw [cellsOf_eq (hwidth row hrow), List.map_map]
  rfl

end Rows

namespace Reader

section Batches

variable {c : Cursor} {size : Nat}

/-- How many batches of one size hold so many rows, rounded up. -/
def batchCount (size rows : Nat) : Nat := (rows + size - 1) / size

def nthBatch (c : Cursor) (size i : Nat) : Batch :=
  ⟨c.columns.map Column.field, layOut c.columns ((c.rows.drop (i * size)).take size)⟩

theorem lt_batchCount_iff (hsize : 1 ≤ size) (rows i : Nat) :
    i < batchCount size rows ↔ i * size < rows := by
  rw [batchCount, Nat.lt_iff_add_one_le, Nat.le_div_iff_mul_le (by omega), Nat.add_mul]
  omega

/-- The batch of a call is there while rows are left for it. -/
theorem batch?_eq (hsize : 1 ≤ size) (i : Nat) :
    batch? c.columns ((c.rows.drop (i * size)).take size) =
      if i < batchCount size c.rows.length then some (nthBatch c size i) else none := by
  by_cases hi : i * size < c.rows.length
  · rw [if_pos ((lt_batchCount_iff hsize _ i).mpr hi), nthBatch]
    cases hrows : (c.rows.drop (i * size)).take size with
    | nil =>
      have hlength : ((c.rows.drop (i * size)).take size).length = 0 := by rw [hrows]; rfl
      simp only [List.length_take, List.length_drop] at hlength
      omega
    | cons row more => rfl
  · rw [if_neg (by rwa [lt_batchCount_iff hsize]), List.drop_eq_nil_of_le (by omega), List.take_nil]
    rfl

theorem range_split (count full : Nat) :
    List.range count = List.range (min count full) ++
      (List.range (count - full)).map (min count full + ·) := by
  rw [← List.range_add]
  congr 1
  omega

/-- Calls return batches while rows are left, and then nothing more. -/
theorem results_eq (h : c.Built) (hcolumns : c.columns ≠ []) (hsize : 1 ≤ size) (count : Nat) :
    (Reader.rows c size).results count =
      ((List.range (min count (batchCount size c.rows.length))).map fun i =>
        .ok (some (nthBatch c size i))) ++
      List.replicate (count - batchCount size c.rows.length) (.ok none) := by
  rw [results_of_built h hcolumns, range_split count (batchCount size c.rows.length),
    List.map_append, List.map_map]
  congr 1
  · refine List.map_congr_left fun i hi => ?_
    rw [List.mem_range] at hi
    rw [batch?_eq hsize, if_pos (by omega)]
  · refine List.eq_replicate_iff.mpr ⟨by simp, fun result hresult => ?_⟩
    obtain ⟨j, hj, rfl⟩ := List.mem_map.mp hresult
    rw [List.mem_range] at hj
    rw [Function.comp_apply, batch?_eq hsize, if_neg (by omega)]

theorem calls_of_built (h : c.Built) (hcolumns : c.columns ≠ []) (hsize : 1 ≤ size)
    (before after : Nat) :
    (Reader.ofCursor c size).calls (List.replicate before false ++ List.replicate after true) =
      ((List.range (min before (batchCount size c.rows.length))).map fun i =>
        .ok (some (nthBatch c size i))) ++
      List.replicate (before + after - min before (batchCount size c.rows.length)) (.ok none) := by
  rw [ofCursor, Nat.max_eq_left hsize, calls_append, calls_open, calls_closed,
    results_eq h hcolumns hsize, List.append_assoc, ← List.replicate_add]
  congr 2
  omega

theorem rows_nthBatch (h : c.Built) (hcolumns : c.columns ≠ []) (size i : Nat) :
    (nthBatch c size i).rows = ((c.rows.drop (i * size)).take size).map (cellsOf c.columns) :=
  rows_layOut hcolumns fun row hrow =>
    h.width row (List.mem_of_mem_drop (List.mem_of_mem_take hrow))

theorem flatMap_chunks (rows : List (List Json)) (size count : Nat) :
    (List.range count).flatMap (fun i => (rows.drop (i * size)).take size) =
      rows.take (count * size) := by
  induction count with
  | zero => simp
  | succ count ih =>
    rw [List.range_succ, List.flatMap_append, ih, List.flatMap_singleton, Nat.succ_mul,
      List.take_add]

theorem length_le_batchCount_mul (hsize : 1 ≤ size) (rows : Nat) :
    rows ≤ batchCount size rows * size := by
  have hnot := (lt_batchCount_iff hsize rows (batchCount size rows)).not.mp (by omega)
  omega

/-- Batch after batch, the rows are those of the cursor from the first on. -/
theorem rows_of_batches (h : c.Built) (hcolumns : c.columns ≠ []) (hsize : 1 ≤ size)
    (count : Nat) :
    (List.range (min count (batchCount size c.rows.length))).flatMap
        (fun i => (nthBatch c size i).rows) =
      (c.rows.take (count * size)).map (cellsOf c.columns) := by
  simp only [rows_nthBatch h hcolumns]
  rw [← List.map_flatMap, flatMap_chunks]
  by_cases hcount : count ≤ batchCount size c.rows.length
  · rw [Nat.min_eq_left hcount]
  · have hall := length_le_batchCount_mul hsize c.rows.length
    have hmore : batchCount size c.rows.length * size ≤ count * size :=
      Nat.mul_le_mul_right size (by omega)
    rw [Nat.min_eq_right (by omega), List.take_of_length_le hall, List.take_of_length_le (by omega)]

theorem delivered_of_built (h : c.Built) (hcolumns : c.columns ≠ []) (hsize : 1 ≤ size)
    (before after : Nat) :
    (Reader.ofCursor c size).delivered (List.replicate before false ++ List.replicate after true) =
      (c.rows.take (before * size)).map (cellsOf c.columns) := by
  have hnone : ∀ count, (List.replicate count (.ok none)).flatMap rowsOfResult = [] := by
    intro count
    simp [rowsOfResult]
  rw [delivered, calls_of_built h hcolumns hsize, List.flatMap_append, hnone, List.append_nil,
    List.flatMap_map]
  exact rows_of_batches h hcolumns hsize before

end Batches

end Reader

end KeyspaceLink

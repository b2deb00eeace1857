import KeyspaceLink.Rows.Series
import Mathlib

/-! Columns read back value by value. Lists that stand end to end come apart again at their
offsets, and records are put together again from their members. -/

namespace KeyspaceLink

theorem slices_scanl_cons {α : Type} (items : List α) (start next : Nat) (lengths : List Nat) :
    slices items (start :: lengths.scanl (· + ·) next) =
      (items.drop start).take (next - start) :: slices items (lengths.scanl (· + ·) next) := by
  cases lengths <;> simp [slices, List.scanl_cons]

theorem slices_scanl {α : Type} (before : List α) (lists : List (List α)) :
    slices (before ++ lists.flatten) ((lists.map List.length).scanl (· + ·) before.length) =
      lists := by
  induction lists generalizing before with
  | nil => rfl
  | cons list lists ih =>
    have hrest := ih (before ++ list)
    rw [List.length_append, List.append_assoc] at hrest
    rw [List.map_cons, List.scanl_cons, slices_scanl_cons, List.flatten_cons, hrest,
      List.drop_left, Nat.add_sub_cancel_left, List.take_left]

/-- Lists laid end to end come apart at the offsets of their lengths. -/
theorem slices_offsetsOf {α : Type} (lists : List (List α)) :
    slices lists.flatten (offsetsOf (lists.map List.length)) = lists :=
  slices_scanl [] lists

theorem length_slices {α : Type} (items : List α) (offsets : List Nat) :
    (slices items offsets).length = offsets.length - 1 := by
  induction offsets with
  | nil => rfl
  | cons start offsets ih =>
    cases offsets with
    | nil => rfl
    | cons stop offsets =>
      rw [slices, List.length_cons, ih]
      simp

theorem rising_scanl (lengths : List Nat) (start : Nat) :
    ((lengths.scanl (· + ·) start).zip (lengths.scanl (· + ·) start).tail).all
      (fun p => decide (p.1 ≤ p.2)) = true := by
  induction lengths generalizing start with
  | nil => rfl
  | cons length lengths ih =>
    have hrest := ih (start + length)
    cases lengths with
    | nil => simp
    | cons next lengths =>
      simp only [List.scanl_cons, List.tail_cons, List.zip_cons_cons, List.all_cons,
        Bool.and_eq_true, decide_eq_true_eq] at hrest ⊢
      exact ⟨Nat.le_add_right start length, hrest⟩

theorem rising_offsetsOf (lengths : List Nat) :
    ((offsetsOf lengths).zip (offsetsOf lengths).tail).all (fun p => decide (p.1 ≤ p.2)) = true :=
  rising_scanl lengths 0

theorem getLast?_offsetsOf {α : Type} (lists : List (List α)) :
    (offsetsOf (lists.map List.length)).getLast?.getD 0 = lists.flatten.length := by
  rw [offsetsOf, List.getLast?_scanl, Option.getD_some, ← List.sum_eq_foldl, List.length_flatten]

theorem offsetsOf_replicate_zero (count : Nat) :
    offsetsOf (List.replicate count 0) = List.replicate (count + 1) 0 := by
  rw [offsetsOf]
  induction count with
  | zero => rfl
  | succ count ih => rw [List.replicate_succ, List.scanl_cons, Nat.add_zero, ih]; rfl

theorem length_rowsOf (count : Nat) (columns : List (List Cell)) :
    (rowsOf count columns).length = count := by
  induction count generalizing columns with
  | zero => rfl
  | succ count ih => rw [rowsOf, List.length_cons, ih]

theorem rowsOf_map {α : Type} (items : List α) (members : List (α → Cell)) :
    rowsOf items.length (members.map fun m => items.map m) =
      items.map fun a => members.map fun m => m a := by
  induction items with
  | nil => rfl
  | cons a items ih =>
    have hheads : (members.map fun m => (a :: items).map m).map (·.headD .null) =
        members.map fun m => m a := by simp
    have htails : (members.map fun m => (a :: items).map m).map List.tail =
        members.map fun m => items.map m := by simp
    rw [List.length_cons, rowsOf, hheads, htails, ih, List.map_cons]

namespace Series

theorem length_cells (s : Series) : s.cells.length = s.length := by
  cases s with
  | texts values => simp [cells, length]
  | booleans values => simp [cells, length]
  | ints values => simp [cells, length]
  | doubles values => simp [cells, length]
  | lists offsets items => simp [cells, length, length_slices]
  | records names count members => simp [cells, length, length_rowsOf]

theorem cellsOfAll_eq_map (members : List Series) : cellsOfAll members = members.map cells := by
  induction members with
  | nil => rfl
  | cons s members ih => rw [cellsOfAll, ih, List.map_cons]

theorem suits_of_nullable {f : Field} (h : f.nullable = true) (s : Series) : s.suits f = true := by
  rw [suits, h, Bool.true_or]

theorem suits_of_cells {s : Series} {f : Field} (h : ∀ c ∈ s.cells, c.isNull = false) :
    s.suits f = true := by
  have hall : s.cells.all (fun c => !c.isNull) = true := by
    rw [List.all_eq_true]
    intro c hc
    rw [h c hc, Bool.not_false]
  rw [suits, hall, Bool.or_true]

/-- The column was made, and these are its values. -/
def Holds (s : Option Series) (cells : List Cell) : Prop :=
  ∃ series, s = some series ∧ series.cells = cells

theorem Holds.bind {s : Option Series} {f : Series → Option Series} {cells cells' : List Cell}
    (h : Holds s cells) (hf : ∀ series, series.cells = cells → Holds (f series) cells') :
    Holds (s >>= f) cells' := by
  obtain ⟨series, rfl, hcells⟩ := h
  exact hf series hcells

/-- Every parent gets its own run of items back. -/
theorem lists?_holds {α : Type} {item : Field} {items : Series} (parents : List α)
    (run : α → List Cell) (hitems : items.cells = parents.flatMap run)
    (hbound : (parents.flatMap run).length < offsetBound) (hitem : items.suits item = true) :
    Holds (lists? item (offsetsOf (parents.map fun a => (run a).length)) items)
      (parents.map fun a => .list (run a)) := by
  have hlengths : parents.map (fun a => (run a).length) = (parents.map run).map List.length := by
    rw [List.map_map]
    rfl
  have hflatten : parents.flatMap run = (parents.map run).flatten := rfl
  have hwithin : (parents.flatMap run).length ≤ items.length := by rw [← length_cells, hitems]
  have hrising := rising_offsetsOf ((parents.map run).map List.length)
  have hlast := getLast?_offsetsOf (parents.map run)
  rw [hlengths]
  refine ⟨.lists (offsetsOf ((parents.map run).map List.length)) items, ?_, ?_⟩
  · simp only [lists?, hrising, hlast, ← hflatten, hbound, hwithin, hitem, decide_true,
      Bool.and_self, if_true]
  · rw [cells, hitems, hflatten, slices_offsetsOf, List.map_map]
    rfl

section Columns

variable {α : Type} {fields : List Field} {columns : List Series} {items : List α}
  {members : List (α → Cell)}

/-- Columns that tell something of each item: one thing each, and null only where it may be. -/
structure Tell (columns : List Series) (fields : List Field) (items : List α)
    (members : List (α → Cell)) : Prop where
  cells : columns.map cells = members.map fun m => items.map m
  width : fields.length = columns.length
  given : ∀ p ∈ members.zip fields, p.2.nullable = false → ∀ a, (p.1 a).isNull = false

theorem Tell.member (h : Tell columns fields items members) {i : Nat} {s : Series}
    (hs : columns[i]? = some s) : ∃ m, members[i]? = some m ∧ s.cells = items.map m := by
  have hat : (members.map fun m => items.map m)[i]? = some s.cells := by
    rw [← h.cells, List.getElem?_map, hs, Option.map_some]
  rw [List.getElem?_map, Option.map_eq_some_iff] at hat
  obtain ⟨m, hm, heq⟩ := hat
  exact ⟨m, hm, heq.symm⟩

theorem Tell.length_eq (h : Tell columns fields items members) {s : Series} (hs : s ∈ columns) :
    s.length = items.length := by
  obtain ⟨i, hi⟩ := List.mem_iff_getElem?.mp hs
  obtain ⟨m, -, hm⟩ := h.member hi
  rw [← length_cells, hm, List.length_map]

theorem Tell.all_length (h : Tell columns fields items members) :
    columns.all (fun s => s.length == items.length) = true := by
  rw [List.all_eq_true]
  intro s hs
  rw [h.length_eq hs, beq_self_eq_true]

theorem Tell.all_suits (h : Tell columns fields items members) :
    (columns.zip fields).all (fun p => p.1.suits p.2) = true := by
  rw [List.all_eq_true]
  intro p hp
  obtain ⟨i, hi⟩ := List.mem_iff_getElem?.mp hp
  obtain ⟨hs, hf⟩ := List.getElem?_zip_eq_some.mp hi
  obtain ⟨m, hm, hcells⟩ := h.member hs
  by_cases hnull : p.2.nullable = true
  · exact suits_of_nullable hnull p.1
  · refine suits_of_cells fun c hc => ?_
    obtain ⟨a, -, rfl⟩ := List.mem_map.mp (hcells ▸ hc)
    have hzip : (m, p.2) ∈ members.zip fields :=
      List.mem_iff_getElem?.mpr ⟨i, List.getElem?_zip_eq_some.mpr ⟨hm, hf⟩⟩
    exact h.given (m, p.2) hzip (Bool.eq_false_iff.mpr hnull) a

theorem Tell.rowsOf (h : Tell columns fields items members) :
    rowsOf items.length (columns.map Series.cells) = items.map fun a => members.map fun m => m a := by
  rw [h.cells, rowsOf_map]

variable {first : Series} {rest : List Series}

/-- Every item gets a record with what the columns tell of it. -/
theorem records?_holds (items : List α) (members : List (α → Cell))
    (h : Tell (first :: rest) fields items members) :
    Holds (records? fields (first :: rest))
      (items.map fun a => .record ((fields.map Field.name).zip (members.map fun m => m a))) := by
  have hcount : ((first :: rest).head?.map length).getD 0 = items.length :=
    h.length_eq List.mem_cons_self
  have hwidth : (fields.length == (first :: rest).length) = true := beq_iff_eq.mpr h.width
  refine ⟨.records (fields.map Field.name) items.length (first :: rest), ?_, ?_⟩
  · simp only [records?, hcount, h.all_length, h.all_suits, hwidth, Bool.and_self, if_true]
  · rw [cells, cellsOfAll_eq_map, h.rowsOf, List.map_map]
    rfl

theorem batch_of_tell (h : Tell (first :: rest) fields items members) :
    ∃ b, Batch.of? fields (first :: rest) = some b ∧ b.fields = fields ∧
      b.rows = items.map fun a => members.map fun m => m a := by
  have hfirst : first.length = items.length := h.length_eq List.mem_cons_self
  have hwidth : (fields.length == (first :: rest).length) = true := beq_iff_eq.mpr h.width
  refine ⟨⟨fields, first :: rest⟩, ?_, rfl, ?_⟩
  · simp only [Batch.of?, hfirst, h.all_length, h.all_suits, hwidth, Bool.and_self, if_true]
  · have hlength : Batch.length ⟨fields, first :: rest⟩ = items.length := hfirst
    rw [Batch.rows, hlength, h.rowsOf]

end Columns

end Series

end KeyspaceLink

import KeyspaceLink.Proofs.BatchedRows
import KeyspaceLink.Proofs.JsonRange

/-! Cells of whole numbers. A column declared with whole numbers delivers a number as it is, or as
null where its cells cannot hold it; only from the limit of a word with a sign on, a column as
wide as that delivers another number instead, the greatest it has. -/

namespace KeyspaceLink

/-- The cells of a column declared so hold the whole numbers from `-bound` to `bound - 1`. -/
inductive DeclaresIntegers : String → Nat → Prop
  | short {name : String} (h : lower name = "short") : DeclaresIntegers name 32768
  | long {name : String} (h : lower name ∈ ["numeric", "int", "integer", "long"]) :
      DeclaresIntegers name word63

def HoldsInteger (bound : Nat) (i : Int) : Prop := -(bound : Int) ≤ i ∧ i < bound

/-- The number itself, or null where no cell of the column holds it. -/
def TellsInteger (bound : Nat) (i : Int) (cell : Cell) : Prop :=
  (HoldsInteger bound i ∧ cell = .int i) ∨ (¬ HoldsInteger bound i ∧ cell = .null)

section Cells

variable {name : String} {bound : Nat} {i : Int}

theorem ofName_of_short (h : lower name = "short") : ColumnType.ofName name = .int16 := by
  simp [ColumnType.ofName, h]

theorem ofName_of_long (h : lower name ∈ ["numeric", "int", "integer", "long"]) :
    ColumnType.ofName name = .int64 := by
  simp only [List.mem_cons, List.not_mem_nil, or_false] at h
  rcases h with h | h | h | h <;> simp [ColumnType.ofName, h]

theorem wordValue?_int (i : Int) :
    wordValue? (.int i) = some (if i < (word63 : Int) then i else (word63 : Int) - 1) := rfl

theorem tellsInteger_short (i : Int) : TellsInteger 32768 i (ColumnType.int16.cell (.int i)) := by
  rw [ColumnType.cell, wordValue?_int, Option.bind_some, half16?]
  by_cases hi : i < (word63 : Int)
  · rw [if_pos hi]
    by_cases hholds : -32768 ≤ i ∧ i < 32768
    · exact .inl ⟨hholds, by rw [if_pos hholds]; rfl⟩
    · exact .inr ⟨hholds, by rw [if_neg hholds]; rfl⟩
  · -- what is left of the number is still too great for a short column
    have hcut : ¬ (-32768 ≤ (word63 : Int) - 1 ∧ (word63 : Int) - 1 < 32768) := by decide
    have hholds : ¬ HoldsInteger 32768 i := fun h => hi (h.2.trans (by decide))
    rw [if_neg hi, if_neg hcut]
    exact .inr ⟨hholds, rfl⟩

theorem tellsInteger_long (hlow : -(word63 : Int) ≤ i) (hi : i < (word63 : Int)) :
    TellsInteger word63 i (ColumnType.int64.cell (.int i)) := by
  have hcell : ColumnType.int64.cell (.int i) = .int i := by
    rw [ColumnType.cell, wordValue?_int, if_pos hi]
    rfl
  exact .inl ⟨⟨hlow, hi⟩, hcell⟩

theorem cell_of_unsigned (hi : (word63 : Int) ≤ i) :
    ColumnType.int64.cell (.int i) = .int ((word63 : Int) - 1) := by
  rw [ColumnType.cell, wordValue?_int, if_neg (Int.not_lt.mpr hi)]
  rfl

theorem not_tellsInteger_greatest (hi : (word63 : Int) ≤ i) :
    ¬ TellsInteger word63 i (.int ((word63 : Int) - 1)) := by
  rintro (⟨hholds, -⟩ | ⟨-, hnull⟩)
  · exact absurd hholds.2 (Int.not_lt.mpr hi)
  · cases hnull

/-- All that a cell can be: what the column tells of the number, or the greatest it has. -/
theorem cell_of_integer (h : DeclaresIntegers name bound) (hi : (Json.int i).Bounded) :
    (TellsInteger bound i ((ColumnType.ofName name).cell (.int i)) ↔
        i < (word63 : Int) ∨ bound < word63) ∧
      (bound = word63 → (word63 : Int) ≤ i →
        (ColumnType.ofName name).cell (.int i) = .int ((word63 : Int) - 1)) := by
  cases hi with
  | int hlow hhigh =>
    cases h with
    | short h =>
      have hshort : (32768 : Nat) < word63 := by decide
      rw [ofName_of_short h]
      exact ⟨iff_of_true (tellsInteger_short i) (.inr hshort), fun hbound => absurd hbound hshort.ne⟩
    | long h =>
      rw [ofName_of_long h]
      refine ⟨⟨fun htells => .inl ?_, fun hfits => ?_⟩, fun _ => cell_of_unsigned⟩
      · by_contra hi
        rw [cell_of_unsigned (Int.not_lt.mp hi)] at htells
        exact not_tellsInteger_greatest (Int.not_lt.mp hi) htells
      · exact tellsInteger_long hlow (hfits.resolve_right (Nat.lt_irrefl word63))

end Cells

namespace Reader

variable {c : Cursor} {size i j bound : Nat} {row : List Json} {column : Column} {v : Int}

theorem cell_of_row (hvalue : row[j]? = some (.int v)) (hcolumn : c.columns[j]? = some column) :
    (cellsOf c.columns row)[j]? = some (column.type.cell (.int v)) := by
  rw [cellsOf, List.getElem?_zipWith, hcolumn, hvalue]

theorem row_of_delivered (h : c.Built) (hcolumns : c.columns ≠ []) (hsize : 1 ≤ size)
    (before after : Nat) (hi : i < before * size) (hrow : c.rows[i]? = some row) :
    ((Reader.ofCursor c size).delivered
      (List.replicate before false ++ List.replicate after true))[i]? =
        some (cellsOf c.columns row) := by
  have htaken : (c.rows.take (before * size))[i]? = some row := by
    rw [List.getElem?_take_of_lt hi, hrow]
  rw [delivered_of_built h hcolumns hsize, List.getElem?_map, htaken, Option.map_some]

/-- A whole number in a column declared with whole numbers is delivered as it is, or as null where
the cells of the column do not hold it, exactly unless the column is as wide as a word and the
number past the limit of one with a sign; then the cell is the greatest number of the column. -/
theorem integers_are_delivered (h : c.Built) (hsize : 1 ≤ size) (before after : Nat)
    (hi : i < before * size) (hrow : c.rows[i]? = some row) (hvalue : row[j]? = some (.int v))
    (hv : (Json.int v).Bounded) (hcolumn : c.columns[j]? = some column)
    (hdeclared : DeclaresIntegers column.typeName bound) :
    ∃ cells cell, ((Reader.ofCursor c size).delivered
        (List.replicate before false ++ List.replicate after true))[i]? = some cells ∧
      cells[j]? = some cell ∧
      (TellsInteger bound v cell ↔ v < (word63 : Int) ∨ bound < word63) ∧
      (bound = word63 → (word63 : Int) ≤ v → cell = .int ((word63 : Int) - 1)) := by
  have hcolumns : c.columns ≠ [] := List.ne_nil_of_mem (List.mem_of_getElem? hcolumn)
  exact ⟨_, _, row_of_delivered h hcolumns hsize before after hi hrow, cell_of_row hvalue hcolumn,
    cell_of_integer hdeclared hv⟩

/-- The least number in a wide column and one too great for a short column, in the second row of
a cursor, and the greatest word without a sign in the row after it. -/
theorem integers_at_limits_are_delivered :
    let columns := [Column.mk "n" "Numeric", .mk "s" "short"]
    let rows : List (List Json) :=
      [[.null], [.int (-9223372036854775808), .int 32768], [.null, .int 18446744073709551615]]
    let c := Cursor.flattened columns rows
    c.Built ∧ 1 ≤ 2 ∧ 2 < 2 * 2 ∧
      (∃ cells cell, ((Reader.ofCursor c 2).delivered [false, false])[1]? = some cells ∧
        cells[0]? = some cell ∧ TellsInteger word63 (-9223372036854775808) cell) ∧
      (∃ cells cell, ((Reader.ofCursor c 2).delivered [false, false])[1]? = some cells ∧
        cells[1]? = some cell ∧ TellsInteger 32768 32768 cell) ∧
      ∃ cells cell, ((Reader.ofCursor c 2).delivered [false, false])[2]? = some cells ∧
        cells[1]? = some cell ∧ TellsInteger 32768 18446744073709551615 cell := by
  intro columns rows c
  have hbuilt : c.Built := .flattened columns rows
  have hlong : DeclaresIntegers "Numeric" word63 := .long (by decide +kernel)
  have hshort : DeclaresIntegers "short" 32768 := .short (by decide +kernel)
  have hsigned : (Json.int (-9223372036854775808)).Bounded := .int (by decide) (by decide)
  have hpast : (Json.int 32768).Bounded := .int (by decide) (by decide)
  have hgreatest : (Json.int 18446744073709551615).Bounded := .int (by decide) (by decide)
  obtain ⟨first, n, hfirst, hn, htells, -⟩ := integers_are_delivered (j := 0) hbuilt
    (by decide : 1 ≤ 2) 2 0 (by decide : 1 < 2 * 2) rfl rfl hsigned rfl hlong
  obtain ⟨second, s, hsecond, hs, hstells, -⟩ := integers_are_delivered (j := 1) hbuilt
    (by decide : 1 ≤ 2) 2 0 (by decide : 1 < 2 * 2) rfl rfl hpast rfl hshort
  obtain ⟨third, t, hthird, ht, httells, -⟩ := integers_are_delivered (j := 1) hbuilt
    (by decide : 1 ≤ 2) 2 0 (by decide : 2 < 2 * 2) rfl rfl hgreatest rfl hshort
  exact ⟨hbuilt, by decide, by decide, ⟨first, n, hfirst, hn, htells.mpr (.inl (by decide))⟩,
    ⟨second, s, hsecond, hs, hstells.mpr (.inl (by decide))⟩,
    ⟨third, t, hthird, ht, httells.mpr (.inr (by decide))⟩⟩

/-- The first number past the limit of a word with a sign is delivered as the number before it. -/
theorem unsigned_integer_is_cut :
    let c := Cursor.flattened [⟨"n", "numeric"⟩] [[.int 9223372036854775808]]
    (Json.int 9223372036854775808).Bounded ∧ DeclaresIntegers "numeric" word63 ∧
      (Reader.ofCursor c 1).delivered [false] = [[.int 9223372036854775807]] ∧
      ¬ TellsInteger word63 9223372036854775808 (.int 9223372036854775807) := by
  intro c
  have hlong : DeclaresIntegers "numeric" word63 := .long (by decide +kernel)
  have hbounded : (Json.int 9223372036854775808).Bounded := .int (by decide) (by decide)
  have hcell := (cell_of_integer hlong hbounded).2 rfl (by decide)
  have hdelivered := delivered_of_built (.flattened [⟨"n", "numeric"⟩] [[.int 9223372036854775808]])
    (List.cons_ne_nil _ _) (Nat.le_refl 1) 1 0
  refine ⟨hbounded, hlong, ?_, not_tellsInteger_greatest (by decide)⟩
  exact hdelivered.trans (congrArg (fun cell => [[cell]]) hcell)

end Reader

end KeyspaceLink

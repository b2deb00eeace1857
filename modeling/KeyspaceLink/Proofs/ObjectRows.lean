import KeyspaceLink.Catalog.Tree
import KeyspaceLink.Proofs.SeriesCells

/-! The batch of a tree of objects, read back. Every level is laid out apart from the others,
and together they give the one row there is, nested as the tree is. -/

namespace KeyspaceLink

/-- Of a column only the name, the place in its table and the type are known. -/
def ColumnEntry.cell (c : ColumnEntry) (place : Nat) : Cell :=
  .record [("column_name", .text c.name), ("ordinal_position", .int place), ("remarks", .null),
    ("xdbc_data_type", .int c.typeCode), ("xdbc_type_name", .text c.typeName),
    ("xdbc_column_size", .null), ("xdbc_decimal_digits", .null), ("xdbc_num_prec_radix", .null),
    ("xdbc_nullable", .int nullableCode), ("xdbc_column_def", .null),
    ("xdbc_sql_data_type", .int c.typeCode), ("xdbc_datetime_sub", .null),
    ("xdbc_char_octet_length", .null), ("xdbc_is_nullable", .text "YES"),
    ("xdbc_scope_catalog", .null), ("xdbc_scope_schema", .null), ("xdbc_scope_table", .null),
    ("xdbc_is_autoincrement", .boolean false), ("xdbc_is_generatedcolumn", .boolean false)]

def KeyEntry.cell (k : KeyEntry) : Cell :=
  .record [("constraint_name", k.name.elim .null .text), ("constraint_type", .text "PRIMARY KEY"),
    ("constraint_column_names", .list [.text k.column]), ("constraint_column_usage", .list [])]

/-- Columns are numbered from one. -/
def TableNode.columnCells (t : TableNode) : List Cell :=
  (t.columns.zipIdx 1).map fun p => p.1.cell p.2

def TableNode.keyCells (t : TableNode) : List Cell := t.keys.map KeyEntry.cell

def TableNode.cell (t : TableNode) : Cell :=
  .record [("table_name", .text t.name), ("table_type", .text tableType),
    ("table_columns", .list t.columnCells), ("table_constraints", .list t.keyCells)]

def SchemaNode.cell (s : SchemaNode) : Cell :=
  .record [("db_schema_name", .text s.name), ("db_schema_tables", .list (s.tables.map TableNode.cell))]

namespace ObjectTree

/-- One row for the catalog, which has no name, if it is part of the result. -/
def rows (t : ObjectTree) : List (List Cell) :=
  if t.hasCatalog then [[.null, .list (t.schemas.map SchemaNode.cell)]] else []

def tables (t : ObjectTree) : List TableNode := t.schemas.flatMap SchemaNode.tables

/-- An offset can count the entries of every level. -/
structure Countable (t : ObjectTree) : Prop where
  schemas : t.schemas.length < offsetBound
  tables : t.tables.length < offsetBound
  columns : (t.tables.flatMap TableNode.columns).length < offsetBound
  keys : (t.tables.flatMap TableNode.keys).length < offsetBound

open Series

section Levels

variable {tables : List TableNode} {schemas : List SchemaNode}

theorem length_columnCells (t : TableNode) : t.columnCells.length = t.columns.length := by
  simp [TableNode.columnCells]

theorem length_keyCells (t : TableNode) : t.keyCells.length = t.keys.length := by
  simp [TableNode.keyCells]

theorem columnSeries_holds (hbound : (tables.flatMap TableNode.columns).length < offsetBound) :
    Holds (columnSeries tables) (tables.map fun t => .list t.columnCells) := by
  let columns := tables.flatMap fun t => t.columns.zipIdx 1
  let members : List (ColumnEntry × Nat → Cell) :=
    [fun p => .text p.1.name, fun p => .int p.2, fun _ => .null, fun p => .int p.1.typeCode,
     fun p => .text p.1.typeName, fun _ => .null, fun _ => .null, fun _ => .null,
     fun _ => .int nullableCode, fun _ => .null, fun p => .int p.1.typeCode, fun _ => .null,
     fun _ => .null, fun _ => .text "YES", fun _ => .null, fun _ => .null, fun _ => .null,
     fun _ => .boolean false, fun _ => .boolean false]
  have hcells : columns.map (fun p => p.1.cell p.2) = tables.flatMap TableNode.columnCells :=
    List.map_flatMap
  have hcount : (tables.flatMap TableNode.columnCells).length < offsetBound := by
    simpa only [List.length_flatMap, length_columnCells] using hbound
  rw [columnSeries]
  refine Holds.bind (records?_holds columns members ⟨?_, rfl, ?_⟩)
    fun records hrecords => ?_
  · simp [members, columns, cells]
  · simp [members, ObjectFields.column, ObjectFields.givenText, ObjectFields.text,
      ObjectFields.int16, ObjectFields.int32, ObjectFields.boolean, Field.nullable, Cell.isNull]
  · simp only [← length_columnCells]
    exact lists?_holds _ _ (hrecords.trans hcells) hcount (suits_of_nullable rfl records)

theorem keySeries_holds (hbound : (tables.flatMap TableNode.keys).length < offsetBound) :
    Holds (keySeries tables) (tables.map fun t => .list t.keyCells) := by
  let keys := tables.flatMap TableNode.keys
  let members : List (KeyEntry → Cell) :=
    [fun k => k.name.elim .null .text, fun _ => .text "PRIMARY KEY",
     fun k => .list [.text k.column], fun _ => .list []]
  have hcells : keys.map KeyEntry.cell = tables.flatMap TableNode.keyCells := List.map_flatMap
  have hcount : (tables.flatMap TableNode.keyCells).length < offsetBound := by
    simpa only [List.length_flatMap, length_keyCells] using hbound
  have hnames : keys.flatMap (fun k => [Cell.text k.column]) = keys.map fun k => .text k.column :=
    List.map_eq_flatMap.symm
  have hnone : keys.flatMap (fun _ => ([] : List Cell)) = [] := by simp
  have hoffsets : List.replicate (keys.length + 1) 0 =
      offsetsOf (keys.map fun _ => ([] : List Cell).length) := by
    rw [List.length_nil, List.map_const', offsetsOf_replicate_zero]
  rw [keySeries]
  refine Holds.bind (lists?_holds keys (fun k => [.text k.column]) ?_ ?_ ?_)
    fun names hnamesCells => ?_
  · rw [hnames, cells, List.map_map]
    rfl
  · rw [hnames, List.length_map]
    exact hbound
  · refine suits_of_cells fun c hc => ?_
    simp only [cells, List.map_map, List.mem_map] at hc
    obtain ⟨k, -, rfl⟩ := hc
    rfl
  refine Holds.bind (records?_holds [] (List.replicate 4 Empty.elim)
    ⟨rfl, rfl, fun _ _ _ a => a.elim⟩) fun usage husage => ?_
  have husages : Holds (lists? (ObjectFields.items ObjectFields.usage)
      (List.replicate (keys.length + 1) 0) usage) (keys.map fun _ => .list []) := by
    rw [hoffsets]
    refine lists?_holds keys (fun _ => []) ?_ ?_ (suits_of_nullable rfl usage)
    · rw [husage, hnone]
      rfl
    · rw [hnone]
      decide
  refine husages.bind fun usages husageCells => ?_
  refine Holds.bind (records?_holds keys members ⟨?_, rfl, ?_⟩)
    fun records hrecords => ?_
  · simp [members, cells, hnamesCells, husageCells, keys]
  · simp [members, ObjectFields.constraint, ObjectFields.givenText, ObjectFields.text,
      Field.nullable, Cell.isNull]
  · simp only [← length_keyCells]
    exact lists?_holds _ _ (hrecords.trans hcells) hcount (suits_of_nullable rfl records)

theorem tableSeries_holds
    (hcolumns : ((schemas.flatMap SchemaNode.tables).flatMap TableNode.columns).length < offsetBound)
    (hkeys : ((schemas.flatMap SchemaNode.tables).flatMap TableNode.keys).length < offsetBound)
    (hbound : (schemas.flatMap SchemaNode.tables).length < offsetBound) :
    Holds (tableSeries schemas) (schemas.map fun s => .list (s.tables.map TableNode.cell)) := by
  let tables := schemas.flatMap SchemaNode.tables
  let members : List (TableNode → Cell) :=
    [fun t => .text t.name, fun _ => .text tableType, fun t => .list t.columnCells,
     fun t => .list t.keyCells]
  have hcells : tables.map TableNode.cell = schemas.flatMap fun s => s.tables.map TableNode.cell :=
    List.map_flatMap
  have hcount : (schemas.flatMap fun s => s.tables.map TableNode.cell).length < offsetBound := by
    rw [← hcells, List.length_map]
    exact hbound
  rw [tableSeries]
  refine Holds.bind (columnSeries_holds hcolumns) fun columns hcolumnCells => ?_
  refine Holds.bind (keySeries_holds hkeys) fun keys hkeyCells => ?_
  refine Holds.bind (records?_holds tables members ⟨?_, rfl, ?_⟩)
    fun records hrecords => ?_
  · simp [members, cells, hcolumnCells, hkeyCells, tables]
  · simp [members, ObjectFields.table, ObjectFields.givenText, Field.nullable, Cell.isNull]
  · have hlengths : (fun s : SchemaNode => s.tables.length) =
        fun s => (s.tables.map TableNode.cell).length := by simp
    rw [hlengths]
    exact lists?_holds _ _ (hrecords.trans hcells) hcount (suits_of_nullable rfl records)

end Levels

variable {t : ObjectTree}

theorem schemaSeries_holds (h : t.Countable) :
    Holds t.schemaSeries (if t.hasCatalog then [.list (t.schemas.map SchemaNode.cell)] else []) := by
  let members : List (SchemaNode → Cell) :=
    [fun s => .text s.name, fun s => .list (s.tables.map TableNode.cell)]
  rw [schemaSeries]
  refine Holds.bind (tableSeries_holds h.columns h.keys h.tables) fun tables htables => ?_
  refine Holds.bind (records?_holds t.schemas members ⟨?_, rfl, ?_⟩)
    fun records hrecords => ?_
  · simp [members, cells, htables]
  · simp [members, ObjectFields.schema, ObjectFields.text, Field.nullable]
  · have hcells : records.cells = t.schemas.map SchemaNode.cell := hrecords
    cases hcatalog : t.hasCatalog with
    | true =>
      have hone := lists?_holds [()] (fun _ => t.schemas.map SchemaNode.cell)
        (hcells.trans (by simp)) (by simpa using h.schemas)
        (suits_of_nullable (f := ObjectFields.items ObjectFields.schema) rfl records)
      simpa using hone
    | false =>
      refine ⟨_, rfl, ?_⟩
      simp [cells, slices, offsetsOf]

theorem rows_of_build (h : t.Countable) :
    ∃ b, t.build = .ok b ∧ b.fields = ObjectFields.catalog ∧ b.rows = t.rows := by
  let catalogs : List Unit := if t.hasCatalog then [()] else []
  let members : List (Unit → Cell) :=
    [fun _ => .null, fun _ => .list (t.schemas.map SchemaNode.cell)]
  obtain ⟨schemas, hschemas, hcells⟩ := schemaSeries_holds h
  have htell : Tell [.texts (if t.hasCatalog then [none] else []), schemas] ObjectFields.catalog
      catalogs members := by
    refine ⟨?_, rfl, ?_⟩
    · cases hcatalog : t.hasCatalog <;> simp [members, catalogs, cells, hcells, hcatalog]
    · simp [members, ObjectFields.catalog, ObjectFields.text, Field.nullable]
  obtain ⟨b, hb, hfields, hrows⟩ := batch_of_tell htell
  have hbatch : t.batch? = some b := by
    rw [batch?, hschemas]
    exact hb
  refine ⟨b, ?_, hfields, ?_⟩
  · rw [build, hbatch]
  · rw [hrows, rows]
    cases hcatalog : t.hasCatalog <;> simp [members, catalogs, hcatalog]

section Counts

variable {α β : Type} {item : Field} {items series : Series} {parents : List α} {run : α → List β}

theorem length_of_lists? (h : Series.lists? item (offsetsOf (parents.map fun a => (run a).length))
    items = some series) : (parents.flatMap run).length < offsetBound := by
  have hlengths : parents.map (fun a => (run a).length) = (parents.map run).map List.length := by
    rw [List.map_map]
    rfl
  simp only [hlengths, Series.lists?, getLast?_offsetsOf, Option.ite_none_right_eq_some,
    Bool.and_eq_true, decide_eq_true_eq] at h
  exact h.1.1.1.2

end Counts

/-- Only a tree whose entries can be counted is built. -/
theorem countable_of_build {b : Batch} (hcatalog : t.hasCatalog = true) (h : t.build = .ok b) :
    t.Countable := by
  have hbatch : t.batch? = some b := by
    rw [build] at h
    split at h
    · next b' hb' => rw [hb', Except.ok.inj h]
    · cases h
  have hone : [t.schemas.length] = [()].map fun _ => t.schemas.length := rfl
  simp only [batch?, schemaSeries, tableSeries, columnSeries, keySeries, hcatalog, if_true, hone,
    Option.bind_eq_bind, Option.bind_eq_some_iff] at hbatch
  obtain ⟨_, ⟨_, ⟨_, ⟨_, -, hcolumns⟩, _, ⟨_, -, _, -, _, -, _, -, hkeys⟩, _, -, htables⟩, _, -,
    hschemas⟩, -⟩ := hbatch
  have hlength : ([()].flatMap fun _ => t.schemas).length < offsetBound :=
    length_of_lists? hschemas
  rw [List.flatMap_singleton] at hlength
  exact ⟨hlength, length_of_lists? htables, length_of_lists? hcolumns, length_of_lists? hkeys⟩

theorem countable_empty : ({} : ObjectTree).Countable :=
  ⟨by decide, by decide, by decide, by decide⟩

theorem rows_of_ok {b : Batch} (hcatalog : t.hasCatalog = true) (h : t.build = .ok b) :
    b.rows = t.rows := by
  obtain ⟨b', hb', -, hrows⟩ := rows_of_build (countable_of_build hcatalog h)
  rw [h] at hb'
  cases hb'
  exact hrows

end ObjectTree

section ColumnCells

/-- What a record has under a name. -/
def Cell.member? (name : String) : Cell → Option Cell
  | .record members => members.lookup name
  | _ => none

theorem ColumnEntry.cell_place (c : ColumnEntry) (place : Nat) :
    (c.cell place).member? "ordinal_position" = some (.int place) := rfl

theorem TableNode.names_columnCells (t : TableNode) :
    t.columnCells.map (Cell.member? "column_name") =
      t.columns.map fun c => some (.text c.name) := by
  have hname : Cell.member? "column_name" ∘ (fun p : ColumnEntry × Nat => p.1.cell p.2) =
      (fun c : ColumnEntry => some (.text c.name)) ∘ Prod.fst := rfl
  rw [columnCells, List.map_map, hname, ← List.map_map, List.zipIdx_map_fst]

theorem TableNode.places_columnCells (t : TableNode) :
    t.columnCells.map (Cell.member? "ordinal_position") =
      (List.range' 1 t.columns.length).map fun place : Nat => some (.int place) := by
  have hplace : Cell.member? "ordinal_position" ∘ (fun p : ColumnEntry × Nat => p.1.cell p.2) =
      (fun place : Nat => some (.int place)) ∘ Prod.snd := rfl
  rw [columnCells, List.map_map, hplace, ← List.map_map, List.zipIdx_map_snd]

end ColumnCells

end KeyspaceLink

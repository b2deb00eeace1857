import KeyspaceLink.Catalog.Entries
import KeyspaceLink.Rows.Series

/-! The objects of the one catalog as a tree of schemas, tables, columns and keys, and the
batch in which it is delivered. Each level is laid out in one column over all parents,
with offsets that give every parent its own. -/

namespace KeyspaceLink

structure TableNode where
  name : String
  columns : List ColumnEntry := []
  keys : List KeyEntry := []
deriving DecidableEq, Repr

structure SchemaNode where
  name : String
  tables : List TableNode := []
deriving DecidableEq, Repr

structure ObjectTree where
  /-- Whether the catalog itself is part of the result. -/
  hasCatalog : Bool := false
  schemas : List SchemaNode := []
deriving DecidableEq, Repr

def changeFirst (p : α → Bool) (f : α → α) : List α → List α
  | [] => []
  | a :: r => if p a then f a :: r else a :: changeFirst p f r

namespace ObjectTree

def addCatalog (t : ObjectTree) : ObjectTree := { t with hasCatalog := true }

def addSchema (t : ObjectTree) (name : String) : ObjectTree where
  hasCatalog := true
  schemas := if t.schemas.any fun s => s.name == name then t.schemas else t.schemas ++ [⟨name, []⟩]

/-- Changes one table; of a table that is not there nothing changes. -/
def changeTable (t : ObjectTree) (schema table : String) (f : TableNode → TableNode) : ObjectTree :=
  { t with
    schemas := changeFirst (fun s => s.name == schema)
      (fun s => { s with tables := changeFirst (fun n => n.name == table) f s.tables }) t.schemas }

def addTable (t : ObjectTree) (entry : TableEntry) : ObjectTree :=
  let t := t.addSchema entry.schema
  { t with
    schemas := changeFirst (fun s => s.name == entry.schema)
      (fun s =>
        if s.tables.any fun n => n.name == entry.name then s
        else { s with tables := s.tables ++ [{ name := entry.name }] }) t.schemas }

def addColumn (t : ObjectTree) (c : ColumnEntry) : ObjectTree :=
  t.changeTable c.schema c.table fun n => { n with columns := n.columns ++ [c] }

def addColumns (t : ObjectTree) (columns : List ColumnEntry) : ObjectTree :=
  columns.foldl addColumn t

def addKey (t : ObjectTree) (k : KeyEntry) : ObjectTree :=
  t.changeTable k.schema k.table fun n => { n with keys := n.keys ++ [k] }

def addKeys (t : ObjectTree) (keys : List KeyEntry) : ObjectTree := keys.foldl addKey t

end ObjectTree

namespace ObjectFields

def items (fields : List Field) : Field := .mk "item" (.record fields) true

def text (name : String) : Field := .mk name .text true
def int16 (name : String) : Field := .mk name .int16 true
def int32 (name : String) : Field := .mk name .int32 true
def boolean (name : String) : Field := .mk name .boolean true

/-- A text that is never null. -/
def givenText (name : String) : Field := .mk name .text false

def usage : List Field :=
  [text "fk_catalog", text "fk_db_schema", givenText "fk_table", givenText "fk_column_name"]

def keyColumn : Field := givenText "item"

def constraint : List Field :=
  [text "constraint_name", givenText "constraint_type",
   .mk "constraint_column_names" (.list keyColumn) false,
   .mk "constraint_column_usage" (.list (items usage)) true]

def column : List Field :=
  [givenText "column_name", int32 "ordinal_position", text "remarks", int16 "xdbc_data_type",
   text "xdbc_type_name", int32 "xdbc_column_size", int16 "xdbc_decimal_digits",
   int16 "xdbc_num_prec_radix", int16 "xdbc_nullable", text "xdbc_column_def",
   int16 "xdbc_sql_data_type", int16 "xdbc_datetime_sub", int32 "xdbc_char_octet_length",
   text "xdbc_is_nullable", text "xdbc_scope_catalog", text "xdbc_scope_schema",
   text "xdbc_scope_table", boolean "xdbc_is_autoincrement", boolean "xdbc_is_generatedcolumn"]

def table : List Field :=
  [givenText "table_name", givenText "table_type", .mk "table_columns" (.list (items column)) true,
   .mk "table_constraints" (.list (items constraint)) true]

def schema : List Field :=
  [text "db_schema_name", .mk "db_schema_tables" (.list (items table)) true]

def catalog : List Field :=
  [text "catalog_name", .mk "catalog_db_schemas" (.list (items schema)) true]

end ObjectFields

namespace ObjectTree

/-- Columns of every table, in the order of the tables. -/
def columnSeries (tables : List TableNode) : Option Series :=
  let columns := tables.flatMap fun t => t.columns.zipIdx 1
  let count := columns.length
  let noText : Series := .texts (List.replicate count none)
  let noInt : Series := .ints (List.replicate count none)
  let codes : Series := .ints (columns.map fun (c, _) => some c.typeCode)
  let no : Series := .booleans (List.replicate count (some false))
  do
    let records ← Series.records? ObjectFields.column
      [.texts (columns.map fun (c, _) => some c.name),
       .ints (columns.map fun (_, i) => some (i : Int)), noText, codes,
       .texts (columns.map fun (c, _) => some c.typeName), noInt, noInt, noInt,
       .ints (List.replicate count (some nullableCode)), noText, codes, noInt, noInt,
       .texts (List.replicate count (some "YES")), noText, noText, noText, no, no]
    Series.lists? (ObjectFields.items ObjectFields.column)
      (offsetsOf (tables.map fun t => t.columns.length)) records

/-- Keys of every table; each has one column and no usage. -/
def keySeries (tables : List TableNode) : Option Series :=
  let keys := tables.flatMap fun t => t.keys
  do
    let names ← Series.lists? ObjectFields.keyColumn (offsetsOf (keys.map fun _ => 1))
      (.texts (keys.map fun k => some k.column))
    let usage ← Series.records? ObjectFields.usage (List.replicate 4 (.texts []))
    let usages ← Series.lists? (ObjectFields.items ObjectFields.usage)
      (List.replicate (keys.length + 1) 0) usage
    let records ← Series.records? ObjectFields.constraint
      [.texts (keys.map KeyEntry.name), .texts (keys.map fun _ => some "PRIMARY KEY"), names,
       usages]
    Series.lists? (ObjectFields.items ObjectFields.constraint)
      (offsetsOf (tables.map fun t => t.keys.length)) records

def tableSeries (schemas : List SchemaNode) : Option Series := do
  let tables := schemas.flatMap fun s => s.tables
  let records ← Series.records? ObjectFields.table
    [.texts (tables.map fun t => some t.name), .texts (tables.map fun _ => some tableType),
     ← columnSeries tables, ← keySeries tables]
  Series.lists? (ObjectFields.items ObjectFields.table)
    (offsetsOf (schemas.map fun s => s.tables.length)) records

def schemaSeries (t : ObjectTree) : Option Series := do
  let records ← Series.records? ObjectFields.schema
    [.texts (t.schemas.map fun s => some s.name), ← tableSeries t.schemas]
  Series.lists? (ObjectFields.items ObjectFields.schema)
    (offsetsOf (if t.hasCatalog then [t.schemas.length] else [])) records

def batch? (t : ObjectTree) : Option Batch := do
  Batch.of? ObjectFields.catalog
    [.texts (if t.hasCatalog then [none] else []), ← t.schemaSeries]

/-- The batch of a tree: one row, whose catalog has no name, or none at all. -/
def build (t : ObjectTree) : Except Failure Batch :=
  match t.batch? with
  | some b => .ok b
  | none => .error (.invalidState "Failed to build get_objects result")

end ObjectTree

end KeyspaceLink

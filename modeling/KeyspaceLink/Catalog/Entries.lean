import KeyspaceLink.Command.Keyspace
import KeyspaceLink.Rows.Cursor

/-! Entries of listings, and the rows in which they are reported. There are no catalogs,
so the catalog of every entry is null. -/

namespace KeyspaceLink

/-- The only type of table there is. -/
def tableType : String := "TABLE"

structure TableEntry where
  schema : String
  name : String
deriving DecidableEq, Repr

structure ColumnEntry where
  schema : String
  table : String
  name : String
  typeName : String
  typeCode : Int
deriving DecidableEq, Repr

/-- A primary index, as a key on the identifier of a document. -/
structure KeyEntry where
  schema : String
  table : String
  column : String
  position : Int
  name : Option String
deriving DecidableEq, Repr

def schemaRow (name : String) : List Json := [.text name, .null]

namespace TableEntry

def keyspace (t : TableEntry) : Keyspace := ⟨some t.schema, t.name⟩

def row (t : TableEntry) : List Json :=
  [.null, .text t.schema, .text t.name, .text tableType] ++ List.replicate 6 .null

end TableEntry

/-- Says that a column may be null. -/
def nullableCode : Int := 1

namespace ColumnEntry

def row (c : ColumnEntry) : List Json :=
  [.null, .text c.schema, .text c.table, .text c.name, .int c.typeCode, .text c.typeName] ++
    List.replicate 4 .null ++ [.int nullableCode] ++ List.replicate 6 .null ++ [.text "YES"] ++
    List.replicate 4 .null ++ [.text "NO"]

end ColumnEntry

namespace KeyEntry

def row (k : KeyEntry) : List Json :=
  [.null, .text k.schema, .text k.table, .text k.column, .int k.position, .ofText? k.name]

end KeyEntry

def textColumn (name : String) : Column := ⟨name, "string"⟩
def numberColumn (name : String) : Column := ⟨name, "numeric"⟩

def schemaColumns : List Column := ["TABLE_SCHEM", "TABLE_CATALOG"].map textColumn

def tableColumns : List Column :=
  ["TABLE_CAT", "TABLE_SCHEM", "TABLE_NAME", "TABLE_TYPE", "REMARKS", "TYPE_CAT", "TYPE_SCHEM",
   "TYPE_NAME", "SELF_REFERENCING_COL_NAME", "REF_GENERATION"].map textColumn

def columnColumns : List Column :=
  ["TABLE_CAT", "TABLE_SCHEM", "TABLE_NAME", "COLUMN_NAME"].map textColumn ++
  [numberColumn "DATA_TYPE", textColumn "TYPE_NAME"] ++
  ["COLUMN_SIZE", "BUFFER_LENGTH", "DECIMAL_DIGITS", "NUM_PREC_RADIX", "NULLABLE"].map
    numberColumn ++
  ["REMARKS", "COLUMN_DEF"].map textColumn ++
  ["SQL_DATA_TYPE", "SQL_DATETIME_SUB", "CHAR_OCTET_LENGTH", "ORDINAL_POSITION"].map
    numberColumn ++
  ["IS_NULLABLE", "SCOPE_CATLOG", "SCOPE_SCHEMA", "SCOPE_TABLE"].map textColumn ++
  [numberColumn "SOURCE_DATA_TYPE", textColumn "IS_AUTOINCREMENT"]

def keyColumns : List Column :=
  ["TABLE_CAT", "TABLE_SCHEM", "TABLE_NAME", "COLUMN_NAME"].map textColumn ++
  [⟨"KEY_SEQ", "short"⟩, textColumn "PK_NAME"]

def catalogColumns : List Column := [textColumn "TABLE_CAT"]

def tableTypeColumns : List Column := [textColumn "TABLE_TYPE"]

end KeyspaceLink

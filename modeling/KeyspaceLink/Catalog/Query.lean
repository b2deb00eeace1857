/-! Queries of the catalog. Patterns stand in them as quoted literals, and columns carry
the names under which listings report them. -/

namespace KeyspaceLink

/-- A literal between single quotes, with the quotes within it doubled. -/
def quoteLiteral (s : String) : String :=
  .ofList ('\'' :: s.toList.flatMap (fun c => if c == '\'' then ['\'', '\''] else [c]) ++ ['\''])

structure CatalogFilter where
  schema : Option String := none
  table : Option String := none
  /-- Only primary indexes. -/
  unique : Bool := false
deriving DecidableEq, Repr

namespace CatalogFilter

def condition (column : String) (pattern : Option String) : List String :=
  match pattern with
  | some p => [column ++ " LIKE " ++ quoteLiteral p]
  | none => []

def whereAll (conditions : List String) : String :=
  if conditions.isEmpty then "" else " WHERE " ++ " AND ".intercalate conditions

def tablesQuery (f : CatalogFilter) : String :=
  "SELECT null AS TABLE_CAT, namespace_id AS TABLE_SCHEM, name AS TABLE_NAME, " ++
  "'TABLE' AS TABLE_TYPE, null AS REMARKS, null AS TYPE_CAT, null AS TYPE_SCHEM, " ++
  "null AS TYPE_NAME, null AS SELF_REFERENCING_COL_NAME, null AS REF_GENERATION " ++
  "FROM system:keyspaces" ++
  whereAll (condition "namespace_id" f.schema ++ condition "name" f.table) ++
  " ORDER BY TABLE_TYPE, TABLE_CAT, TABLE_SCHEM, TABLE_NAME"

def schemasQuery (f : CatalogFilter) : String :=
  "SELECT id AS TABLE_SCHEM, null AS TABLE_CATALOG FROM system:namespaces" ++
  whereAll (condition "name" f.schema) ++
  " ORDER BY TABLE_CATALOG, TABLE_SCHEM"

/-- The primary indexes, as keys on the identifier of a document. -/
def keysQuery (f : CatalogFilter) : String :=
  "SELECT null AS TABLE_CAT, namespace_id AS TABLE_SCHEM, keyspace_id AS TABLE_NAME, " ++
  "'id' AS COLUMN_NAME, 1 AS KEY_SEQ, name AS PK_NAME " ++
  "FROM system:indexes" ++
  whereAll ("is_primary = true" :: condition "namespace_id" f.schema ++
    condition "keyspace_id" f.table) ++
  " ORDER BY COLUMN_NAME, TABLE_SCHEM, TABLE_NAME"

def indexesQuery (f : CatalogFilter) : String :=
  "SELECT namespace_id, keyspace_id, name, index_key, is_primary, \x60condition\x60 " ++
  "FROM system:indexes" ++
  whereAll (condition "keyspace_id" f.table ++ condition "namespace_id" f.schema ++
    (if f.unique then ["is_primary = true"] else [])) ++
  " ORDER BY name"

end CatalogFilter

def versionQuery : String := "SELECT version() FROM system:dual;"

end KeyspaceLink

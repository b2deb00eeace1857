import KeyspaceLink.Catalog.Index
import KeyspaceLink.Catalog.Like
import KeyspaceLink.Catalog.Query
import KeyspaceLink.Rows.Reader
import KeyspaceLink.Sample.Sampler

/-! Listings of namespaces, keyspaces, columns, keys and indexes. The catalog leaves out
its own namespace, so its keyspaces are added here. -/

namespace KeyspaceLink

def systemKeyspaces : List String :=
  ["dual", "datastores", "namespaces", "keyspaces", "indexes", "prepareds", "completed_requests",
   "active_requests", "my_user_info", "user_info", "nodes", "applicable_roles"]

def valueIn (columns : List Column) (row : List Json) (name : String) : Json :=
  ((columnIndex? name columns).bind (row[·]?)).getD .null

def textIn (columns : List Column) (row : List Json) (name : String) : Option String :=
  shownText? (valueIn columns row name)

/-- The first two parts of a version, split at full stops and hyphens. -/
def shortVersion (version : String) : String :=
  match pieces (fun c => c == '.' || c == '-') version.toList with
  | major :: minor :: _ => .ofList (major ++ '.' :: minor)
  | [major] => .ofList major
  | [] => ""

namespace Session

def listSchemas (s : Session) (schema : Option String) : ClusterPlan (List String) := do
  let cursor ← s.executeCatalog ({ schema } : CatalogFilter).schemasQuery schemaColumns
  let found := cursor.allRows.filterMap fun row => textIn schemaColumns row "TABLE_SCHEM"
  return found ++ (if likeMatches schema Keyspace.systemSchema then [Keyspace.systemSchema] else [])

def listTables (s : Session) (schema table : Option String) : ClusterPlan (List TableEntry) := do
  let cursor ← s.executeCatalog ({ schema, table } : CatalogFilter).tablesQuery tableColumns
  let found := cursor.allRows.filterMap fun row =>
    (textIn tableColumns row "TABLE_NAME").map fun name =>
      TableEntry.mk ((textIn tableColumns row "TABLE_SCHEM").getD "") name
  let builtIn :=
    if likeMatches schema Keyspace.systemSchema then
      (systemKeyspaces.filter (likeMatches table)).map (TableEntry.mk Keyspace.systemSchema)
    else []
  return found ++ builtIn

def listTableColumns (s : Session) (t : TableEntry) (column : Option String) :
    ClusterPlan (List ColumnEntry) := do
  let sampled ← s.sample t.keyspace
  return (sampled.filter fun c => likeMatches column c.name).map fun c =>
    ⟨t.schema, t.name, c.name, c.tag.name, c.tag.code⟩

def listColumnsOf (s : Session) (column : Option String) :
    List TableEntry → ClusterPlan (List ColumnEntry)
  | [] => .done []
  | t :: rest => do
    let here ← s.listTableColumns t column
    let more ← s.listColumnsOf column rest
    return here ++ more

def listColumns (s : Session) (schema table column : Option String) :
    ClusterPlan (List ColumnEntry) := do
  s.listColumnsOf column (← s.listTables schema table)

def keyOfRow (row : List Json) : KeyEntry where
  schema := (textIn keyColumns row "TABLE_SCHEM").getD ""
  table := (textIn keyColumns row "TABLE_NAME").getD ""
  column := (textIn keyColumns row "COLUMN_NAME").getD "id"
  position := ((valueIn keyColumns row "KEY_SEQ").signed?.bind half16?).getD 1
  name := textIn keyColumns row "PK_NAME"

def listKeys (s : Session) (schema table : Option String) : ClusterPlan (List KeyEntry) := do
  let cursor ← s.executeCatalog ({ schema, table } : CatalogFilter).keysQuery keyColumns
  return cursor.allRows.map keyOfRow

def listIndexes (s : Session) (schema table : Option String) (unique : Bool) :
    ClusterPlan (List IndexEntry) := do
  let cursor ← s.executeCatalog
    ({ schema, table, unique } : CatalogFilter).indexesQuery IndexEntry.members
  return cursor.allRows.flatMap fun row => IndexEntry.expand (IndexEntry.ofRow row)

def getCatalogs : Cursor := .empty catalogColumns

def getTableTypes : Cursor := .flattened tableTypeColumns [[.text tableType]]

def getSchemas (s : Session) (schema : Option String) : ClusterPlan Cursor := do
  return .flattened schemaColumns ((← s.listSchemas schema).map schemaRow)

def getTables (s : Session) (schema table : Option String) : ClusterPlan Cursor := do
  return .flattened tableColumns ((← s.listTables schema table).map TableEntry.row)

def getColumns (s : Session) (schema table column : Option String) : ClusterPlan Cursor := do
  return .flattened columnColumns ((← s.listColumns schema table column).map ColumnEntry.row)

def getPrimaryKeys (s : Session) (schema table : Option String) : ClusterPlan Cursor := do
  return .flattened keyColumns ((← s.listKeys schema table).map KeyEntry.row)

def getIndexes (s : Session) (schema table : Option String) (unique : Bool) :
    ClusterPlan Cursor := do
  return .flattened IndexEntry.columns ((← s.listIndexes schema table unique).map IndexEntry.row)

def versionIn (rows : List (List Json)) : Option String :=
  match rows with
  | [row] =>
    (row.head?.bind (Json.get? · "$1")).bind fun v => (shownText? v).map shortVersion
  | _ => none

/-- The version of the server, its first two parts. -/
def productVersion (s : Session) : ClusterPlan String := do
  let outcome ← s.executeNative versionQuery true
  match versionIn ((outcome.cursor?.map Cursor.allRows).getD []) with
  | some version => return version
  | none => .fail (.cluster "Unable to fetch database version")

end Session

end KeyspaceLink

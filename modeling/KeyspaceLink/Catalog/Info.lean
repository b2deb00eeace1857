import KeyspaceLink.Catalog.Listing
import KeyspaceLink.Cluster.Transport

/-! What a session tells about itself and about single tables: names and versions, the
kinds of tables, and the fields of a table. -/

namespace KeyspaceLink

inductive InfoCode
  | vendorName
  | vendorVersion
  | driverName
  | driverVersion
deriving DecidableEq, Repr

namespace InfoCode

def number : InfoCode → Nat
  | vendorName => 0
  | vendorVersion => 1
  | driverName => 100
  | driverVersion => 101

def all : List InfoCode := [vendorName, vendorVersion, driverName, driverVersion]

end InfoCode

def vendorName : String := "Couchbase"

def driverName : String := "Couchbase ADBC Driver"

/-- The types a value may have; every value here is a text. -/
def infoFields : List Field :=
  [.mk "info_name" .uint32 false,
   .mk "info_value" (.union ["string_value", "bool_value", "int64_value", "int32_bitmask",
     "string_list", "int32_to_int32_list_map"]) true]

def tableTypeFields : List Field := [.mk "table_type" .text false]

namespace Session

/-- The text for a code. A server that does not tell its version is left out. -/
def infoText (s : Session) : InfoCode → ClusterPlan (Option String)
  | .vendorName => .done (some vendorName)
  | .vendorVersion => (fun v => v.toOption) <$> s.productVersion.attempt
  | .driverName => .done (some driverName)
  | .driverVersion => .done (some driverVersion)

def infoEntries (s : Session) : List InfoCode → ClusterPlan (List (Nat × String))
  | [] => .done []
  | code :: rest => do
    let text ← s.infoText code
    let more ← s.infoEntries rest
    return ((text.map fun t => (code.number, t)).toList ++ more)

/-- Names and versions; of all codes if none are given. -/
def getInfo (s : Session) (wanted : Option (List Nat)) : ClusterPlan Batch := do
  let entries ← s.infoEntries
    (InfoCode.all.filter fun code => wanted.all fun numbers => numbers.contains code.number)
  match Batch.of? infoFields
      [.ints (entries.map fun e => some (e.1 : Int)), .texts (entries.map fun e => some e.2)] with
  | some batch => return batch
  | none => .fail (.invalidState "Failed to build get_info result")

/-- The fields of a table: its sampled columns, any of which may be null. -/
def getTableSchema (s : Session) (schema : Option String) (table : String) :
    ClusterPlan (List Field) := do
  let columns ← s.listTableColumns ⟨schema.getD Keyspace.defaultSchema, table⟩ none
  return columns.map fun c => .mk c.name (ColumnType.ofName c.typeName).fieldType true

end Session

def tableTypeBatch : Except Failure Batch :=
  match Batch.of? tableTypeFields [.texts [some tableType]] with
  | some batch => .ok batch
  | none => .error (.invalidState "Failed to build get_table_types result")

end KeyspaceLink

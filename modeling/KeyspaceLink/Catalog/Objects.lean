import KeyspaceLink.Catalog.Listing
import KeyspaceLink.Catalog.Tree

/-! Collecting the tree of objects from listings, down to the depth that is asked for. -/

namespace KeyspaceLink

inductive ObjectDepth
  | all
  | catalogs
  | schemas
  | tables
  | columns
deriving DecidableEq, Repr

structure ObjectFilter where
  catalog : Option String := none
  schema : Option String := none
  table : Option String := none
  tableTypes : Option (List String) := none
  column : Option String := none
deriving DecidableEq, Repr

namespace ObjectFilter

/-- The one catalog has no name, so only a pattern of the empty text takes it in. -/
def takesCatalog (f : ObjectFilter) : Bool := likeMatches f.catalog ""

def takesTables (f : ObjectFilter) : Bool :=
  f.tableTypes.all fun types => types.any (sameIgnoringCase tableType)

end ObjectFilter

namespace Session

def addColumnsOf (s : Session) (column : Option String) (tree : ObjectTree) :
    List TableEntry → ClusterPlan ObjectTree
  | [] => .done tree
  | t :: rest => do
    let columns ← s.listTableColumns t column
    s.addColumnsOf column (tree.addColumns columns) rest

def collectObjects (s : Session) (depth : ObjectDepth) (f : ObjectFilter) :
    ClusterPlan ObjectTree := do
  if !f.takesCatalog then return {}
  let tree := ({} : ObjectTree).addCatalog
  if depth = .catalogs then return tree
  let schemas ← s.listSchemas f.schema
  let tree := schemas.foldl ObjectTree.addSchema tree
  if depth = .schemas then return tree
  let listed ← s.listTables f.schema f.table
  let tables := if f.takesTables then listed else []
  let tree := tables.foldl ObjectTree.addTable tree
  if depth = .tables then return tree
  let tree ← s.addColumnsOf f.column tree tables
  let keys ← s.listKeys f.schema f.table
  return tree.addKeys keys

def getObjects (s : Session) (depth : ObjectDepth) (f : ObjectFilter) : ClusterPlan Batch := do
  let tree ← s.collectObjects depth f
  Plan.ofExcept tree.build

end Session

end KeyspaceLink

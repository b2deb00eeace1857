import KeyspaceLink.Cluster.Call
import KeyspaceLink.Rows.Cursor

/-! Sessions: the settings of a link and whether it is still open. A closed session makes
no call. -/

namespace KeyspaceLink

structure Session where
  parameters : Parameters
  closed : Bool := false

inductive Outcome
  /-- No command has this text. -/
  | unclaimed
  | done
  | rows (cursor : Cursor)
  | updated (count : Int)

namespace Outcome

def cursor? : Outcome → Option Cursor
  | rows cursor => some cursor
  | _ => none

def updates? : Outcome → Option Int
  | updated count => some count
  | _ => none

end Outcome

/-- A statement without blanks around it and without one semicolon at its end. -/
def normalize (sql : List Char) : List Char :=
  let s := trim sql
  match dropEnding? [';'] s with
  | some inner => trimEnd inner
  | none => s

/-- Whether a statement asks the service to infer a schema. -/
def infers (sql : List Char) : Bool := (sql.take 5).map Char.toLower == ['i', 'n', 'f', 'e', 'r']

namespace Session

def close (s : Session) : Bool × Session := (!s.closed, { s with closed := true })

def requireOpen (s : Session) : ClusterPlan Unit :=
  if s.closed then .fail (.invalidState "Connection is closed") else .done ()

def queryOptions (s : Session) (readOnly : Bool) : QueryOptions :=
  ⟨s.parameters.scanConsistency, readOnly, true⟩

def query (s : Session) (sql : String) (readOnly : Bool) : ClusterPlan QueryReply := do
  s.requireOpen
  ClusterPlan.query sql (s.queryOptions readOnly)

/-- The rows of an inferred schema are the items of the first row. -/
def inferredRows : List Json → List Json
  | [] => []
  | .list items :: _ => items
  | .null :: _ => []
  | v :: _ => [v]

/-- Sends a statement as it is to the query service. -/
def executeNative (s : Session) (sql : String) (readOnly : Bool) : ClusterPlan Outcome := do
  let statement := normalize sql.toList
  let reply ← s.query (.ofList statement) readOnly
  match reply.mutations with
  | some count => return .updated count
  | none =>
    if infers statement then return .rows (.list (inferredRows reply.rows))
    else return .rows (.documents reply.rows)

/-- Runs a query of the catalog, whose rows are objects with the columns as members. -/
def executeCatalog (s : Session) (sql : String) (columns : List Column) : ClusterPlan Cursor := do
  let reply ← s.query sql true
  return .ofObjects columns reply.rows

end Session

end KeyspaceLink

import KeyspaceLink.Command.Keyspace
import KeyspaceLink.Sample.Collector
import KeyspaceLink.Session.Basic

/-! Sampling: the columns of a bucket are those of some of its documents. -/

namespace KeyspaceLink.Session

def samplingStatement (table : Keyspace) (size : Nat) : String :=
  "SELECT t.* FROM " ++ table.schema.getD Keyspace.defaultSchema ++ ":\x60" ++ table.name ++
    "\x60 t LIMIT " ++ toString size ++ ";"

/-- The columns in at most `size` documents. A keyspace that does not exist has none. -/
def sampleSome (s : Session) (table : Keyspace) (size : Nat) :
    ClusterPlan (List SampledColumn) := do
  match ← (s.executeNative (samplingStatement table size) true).attempt with
  | .error e =>
    if e.keyspaceNotFound then return []
    else .fail { Failure.cluster "Keyspace sampling failed." with cause := some e.display }
  | .ok outcome =>
    let rows := (outcome.cursor?.map Cursor.allRows).getD []
    return collectColumns ((rows.take size).filterMap List.head?)

def sample (s : Session) (table : Keyspace) : ClusterPlan (List SampledColumn) :=
  s.sampleSome table s.parameters.samplingSize

end KeyspaceLink.Session

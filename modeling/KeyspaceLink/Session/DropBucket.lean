import KeyspaceLink.Session.CreateBucket

/-! Dropping a bucket: first its primary index, if there is one, then the bucket, if it is
there, and then a wait until the index is no longer listed. -/

namespace KeyspaceLink.DropBucket

def indexGoneTimeout : Nat := 30000

def indexStatement (table : Keyspace) : String := "DROP PRIMARY INDEX IF EXISTS ON " ++ table.text

/-- Whether the index could not be dropped because its keyspace is missing. -/
def isMissing (e : Failure) : Bool := e.hasCode "12003" || e.mentions "not exist"

def execute (c : DropBucket) : ClusterPlan Outcome := do
  if c.table.isSystem then
    .fail (.invalidArgument "Cannot drop bucket in system schema")
  else
    match ← (ClusterPlan.query (indexStatement c.table) {}).attempt with
    | .ok _ => pure ()
    | .error e => if isMissing e then pure () else .fail e
    let reply ← ClusterPlan.manage (.delete (bucketPath c.table.name))
    if reply.status == 404 then return .done
    else
      let _ ← Plan.ofExcept (reply.require ("Dropping bucket " ++ c.table.name))
      waitFor indexGoneTimeout "A requested index" (IndexStatus.probePrimaryGone c.table.name)
      return .done

end KeyspaceLink.DropBucket

import KeyspaceLink.Bucket.Patch
import KeyspaceLink.Command.Basic
import KeyspaceLink.Session.Basic
import KeyspaceLink.Session.Readiness

/-! Creating a bucket: one form is sent, at most once. Then the primary index is created
and awaited, or the bucket itself, as the command asks. -/

namespace KeyspaceLink

def bucketPath (name : String) : String := "/pools/default/buckets/" ++ pathSegment name

def docsPath (name : String) : String := bucketPath name ++ "/docs?include_docs=false"

namespace CreateBucket

def indexTimeout : Nat := 60000
def indexReadyTimeout : Nat := 60000
def bucketReadyTimeout : Nat := 30000

def settings? (c : CreateBucket) : Except Failure BucketSettings := do
  let patch ← match c.settings with
    | some block => SettingsPatch.read block
    | none => .ok {}
  .ok (({ name := c.table.name } : BucketSettings).apply patch)

/-- Sends the form. That the bucket exists already is no failure. -/
def post (s : BucketSettings) : ClusterPlan Unit := do
  let reply ← ClusterPlan.manage (.post "/pools/default/buckets" s.form)
  if reply.succeeded || mentions "already exists".toList reply.body.toList then return ()
  else
    .fail (.cluster ("Failed to create bucket " ++ s.name ++ ": HTTP " ++ toString reply.status ++
      ": " ++ reply.body))

def indexStatement (table : Keyspace) : String :=
  "CREATE PRIMARY INDEX IF NOT EXISTS ON " ++ table.text ++ " WITH \x7b\"num_replica\":0\x7d"

/-- Tries to create the index; the index service, still starting, counts as not ready. -/
def probeIndex (table : Keyspace) : ClusterPlan Unit := do
  match ← (ClusterPlan.query (indexStatement table) {}).attempt with
  | .ok _ => return ()
  | .error e => if e.mentions "GSI" then .fail (.notReady e.display) else .fail e

def probeBucket (name : String) : ClusterPlan Unit := do
  let reply ← ClusterPlan.manage (.get (docsPath name))
  if reply.succeeded then return ()
  else
    .fail (.notReady ("Failed to retrieve cluster information: Response status=" ++
      toString reply.status ++ " Response body=" ++ reply.body))

def execute (c : CreateBucket) : ClusterPlan Outcome := do
  if c.table.isSystem then
    .fail (.invalidArgument "Cannot create bucket in system schema")
  else
    let settings ← Plan.ofExcept c.settings?
    post settings
    if c.primaryIndex then
      waitFor indexTimeout "Primary index" (probeIndex c.table)
      waitFor indexReadyTimeout "A requested index" (IndexStatus.probePrimaryReady c.table.name)
      return .done
    else if c.waitUntilReady then
      waitFor bucketReadyTimeout c.table.name (probeBucket c.table.name)
      return .done
    else return .done

end CreateBucket

end KeyspaceLink

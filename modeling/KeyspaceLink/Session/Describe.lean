import KeyspaceLink.Sample.Sampler
import KeyspaceLink.Session.CreateBucket

/-! Describing a bucket, its columns, or all indexes. -/

namespace KeyspaceLink

def resultRows (values : List Json) : Outcome := .rows (.singleColumn resultColumn values)

namespace DescribeBucket

def settings (name : String) : ClusterPlan Outcome := do
  let reply ← ClusterPlan.manage (.get (bucketPath name))
  if reply.status == 404 then .fail (.cluster ("Bucket not found: " ++ name))
  else
    let reply ← Plan.ofExcept (reply.require ("Describing bucket " ++ name))
    let v ← Plan.ofExcept reply.json
    let s ← Plan.ofExcept (BucketSettings.ofManager v)
    return resultRows [s.document]

def execute (s : Session) (c : DescribeBucket) : ClusterPlan Outcome := do
  match c.target with
  | .settings => settings c.table.name
  | .columns =>
    let columns ← s.sample ⟨some (c.table.schema.getD Keyspace.defaultSchema), c.table.name⟩
    return resultRows (columns.map SampledColumn.json)

end DescribeBucket

def describeIndexes : ClusterPlan Outcome := do
  let status ← IndexStatus.fetch
  return resultRows status.indexes

end KeyspaceLink

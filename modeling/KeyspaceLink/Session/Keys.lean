import KeyspaceLink.Session.CreateBucket

/-! The keys of a bucket, one row for each. -/

namespace KeyspaceLink.GetKeys

def path (c : GetKeys) : String :=
  docsPath c.table.name ++
    (match c.limit with
      | some n => "&limit=" ++ toString n
      | none => "") ++
    (match c.offset with
      | some n => "&skip=" ++ toString n
      | none => "")

def execute (c : GetKeys) : ClusterPlan Outcome := do
  if c.table.isSystem then
    .fail (.invalidArgument "Cannot get keys from bucket in system schema")
  else
    let reply ← ClusterPlan.manage (.get c.path)
    if reply.status == 404 then .fail (.cluster ("Bucket not found: " ++ c.table.name))
    else if reply.status != 200 then
      .fail (.cluster ("Request did not succeed. Http status: " ++ toString reply.status))
    else
      let body ← Plan.ofExcept reply.json
      match body.get? "rows" with
      | some (.list rows) => return .rows (.list rows)
      | _ => .fail (.cluster ("Result does not contain rows: " ++ body.print))

end KeyspaceLink.GetKeys

import KeyspaceLink.Cluster.Exchange
import KeyspaceLink.Cluster.Wire

/-! The two calls of a cluster over HTTP. -/

namespace KeyspaceLink

structure RestClient where
  http : HttpClient
  managerBase : String
  queryBase : String
  /-- The time the service itself may take for a statement. -/
  queryTimeout : Option Duration
deriving DecidableEq, Repr

namespace RestClient

def readQuery (status : Nat) (body : String) : Except Failure QueryReply :=
  match QueryBody.read body with
  | .error e =>
    let told := "Query service returned HTTP " ++ toString status ++ ": " ++ body
    .error { Failure.cluster told with cause := some e }
  | .ok b =>
    if b.succeeded && isSuccess status then .ok ⟨b.results, b.metrics.bind QueryMetrics.mutations⟩
    else
      .error { Failure.cluster ("Query failed with status " ++ b.status.getD "unknown") with
        entries := b.errors.map ServerError.ofJson }

def query (c : RestClient) (statement : String) (options : QueryOptions) : HttpPlan QueryReply := do
  let request : QueryRequest :=
    { statement
      scanConsistency := options.scanConsistency
      readOnly := options.readOnly
      metrics := options.metrics
      timeout := c.queryTimeout.map fun t => toString t.millis ++ "ms" }
  let reply ← c.http.send .post (c.queryBase ++ "/query/service")
    (some ("application/json", request.json.print))
  Plan.ofExcept (readQuery reply.status reply.body)

def manage (c : RestClient) (r : ManagerRequest) : HttpPlan ManagerReply := do
  let content :=
    if r.form.isEmpty then none else some ("application/x-www-form-urlencoded", formBody r.form)
  let reply ← c.http.send r.method (c.managerBase ++ r.path) content
  return ⟨reply.status, reply.body⟩

def carryOut (c : RestClient) : (call : ClusterCall) → HttpPlan call.Reply
  | .query statement options => (c.query statement options).attempt
  | .manage request => (c.manage request).attempt

def perform (c : RestClient) (p : ClusterPlan α) : HttpPlan α := p.through c.carryOut

def bracketed (host : String) : String :=
  if host.toList.contains ':' && host.toList.head? != some '[' then "[" ++ host ++ "]" else host

def managerPort (tls : Bool) : Nat := if tls then 18091 else 8091

def queryPort (tls : Bool) : Nat := if tls then 18093 else 8093

def queryService (tls : Bool) : String := if tls then "n1qlSSL" else "n1ql"

def base (security : Security) (host : String) (port : Nat) : String :=
  security.scheme ++ "://" ++ host ++ ":" ++ toString port

def seedBase (security : Security) (seed : Host) : String :=
  base security seed.urlName (seed.port.getD (managerPort security.isTls))

/-- Where the query service is: the first node that lists it, else the usual port of the seed. -/
def locateQuery (security : Security) (seed : Host) (body : String) : String :=
  match (Node.readList body).toOption.bind (Node.find? (queryService security.isTls)) with
  | some (host, port) => base security ((host.map bracketed).getD seed.urlName) port
  | none => base security seed.urlName (queryPort security.isTls)

/-- Asks seeds in turn until one answers; `failures` tells of those that did not. -/
def bootstrapFrom (http : HttpClient) (failures : List String) : List Host → HttpPlan RestClient
  | [] =>
    .fail (.cluster ("Could not connect to any seed node: " ++ "; ".intercalate failures.reverse))
  | seed :: rest => do
    let managerBase := seedBase http.security seed
    let request ← Plan.ofExcept
      (http.request .get (managerBase ++ "/pools/default/nodeServices") none)
    match ← (http.execute request).attempt with
    | .error e => bootstrapFrom http ((seed.text ++ ": " ++ e.display) :: failures) rest
    | .ok reply =>
      if reply.status = 401 then
        .fail (.cluster ("Authentication failed against " ++ seed.text))
      else if isSuccess reply.status then
        return ⟨http, managerBase, locateQuery http.security seed reply.body, none⟩
      else
        bootstrapFrom http ((seed.text ++ ": HTTP " ++ toString reply.status) :: failures) rest

def bootstrap (http : HttpClient) (seeds : List Host) : HttpPlan RestClient :=
  bootstrapFrom http [] seeds

end RestClient

end KeyspaceLink

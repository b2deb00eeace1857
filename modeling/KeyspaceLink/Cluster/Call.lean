import KeyspaceLink.Json.Outline
import KeyspaceLink.Link.Parameters
import KeyspaceLink.Plan

/-! The two calls everything above the transport needs: a statement for the query
service and a request for the cluster manager. Answers arrive whole. -/

namespace KeyspaceLink

structure QueryOptions where
  scanConsistency : ScanConsistency := .notBounded
  readOnly : Bool := false
  /-- Asks for the number of mutations. -/
  metrics : Bool := false
deriving DecidableEq, Repr

structure QueryReply where
  rows : List Json
  /-- Present when the statement changed documents. -/
  mutations : Option Int

inductive Method
  | get
  | head
  | post
  | delete
  | other (name : String)
deriving DecidableEq, Repr

namespace Method

def name : Method → String
  | get => "GET"
  | head => "HEAD"
  | post => "POST"
  | delete => "DELETE"
  | other name => name

def ofName (name : String) : Method :=
  if name == "GET" then get
  else if name == "HEAD" then head
  else if name == "POST" then post
  else if name == "DELETE" then delete
  else other name

end Method

structure ManagerRequest where
  method : Method
  path : String
  form : List (String × String)
deriving DecidableEq, Repr

namespace ManagerRequest

def get (path : String) : ManagerRequest := ⟨.get, path, []⟩
def delete (path : String) : ManagerRequest := ⟨.delete, path, []⟩
def post (path : String) (form : List (String × String)) : ManagerRequest := ⟨.post, path, form⟩

def isWrite (r : ManagerRequest) : Bool := r.method != .get

end ManagerRequest

def isSuccess (status : Nat) : Bool := 200 ≤ status && status < 300

structure ManagerReply where
  status : Nat
  body : String
deriving DecidableEq, Repr

namespace ManagerReply

def succeeded (r : ManagerReply) : Bool := isSuccess r.status

def json (r : ManagerReply) : Except Failure Json :=
  match Json.parse r.body with
  | .ok v => .ok v
  | .error e =>
    .error { Failure.cluster ("Failed to parse cluster manager response: " ++ r.body) with
      cause := some e }

/-- Refuses a reply without success; `doing` names what was tried. -/
def require (r : ManagerReply) (doing : String) : Except Failure ManagerReply :=
  if r.succeeded then .ok r
  else .error (.cluster (doing ++ " failed with HTTP " ++ toString r.status ++ ": " ++ r.body))

end ManagerReply

inductive ClusterCall
  | query (statement : String) (options : QueryOptions)
  | manage (request : ManagerRequest)
deriving DecidableEq, Repr

abbrev ClusterCall.Reply : ClusterCall → Type
  | query _ _ => Except Failure QueryReply
  | manage _ => Except Failure ManagerReply

abbrev ClusterPlan := Plan ClusterCall ClusterCall.Reply

namespace ClusterPlan

def query (statement : String) (options : QueryOptions) : ClusterPlan QueryReply :=
  .call (.query statement options) .ofExcept

def manage (request : ManagerRequest) : ClusterPlan ManagerReply :=
  .call (.manage request) .ofExcept

end ClusterPlan

end KeyspaceLink

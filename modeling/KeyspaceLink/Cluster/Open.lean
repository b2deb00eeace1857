import KeyspaceLink.Cluster.Rest
import KeyspaceLink.Session.CreateBucket

/-! Opening a session. Security and credentials follow from the link and from the stores
of the surroundings; then the services are located and the default bucket is looked for. -/

namespace KeyspaceLink

/-- A file of certificates: its path and what reading it gave. -/
structure StoreFile where
  path : String
  content : Except String (List UInt8)

structure Stores where
  trust : Option StoreFile := none
  key : Option StoreFile := none

namespace Stores

/-- The content of a store; an empty path names none. -/
def load (label : String) : Option StoreFile → Except Failure (Option (List UInt8))
  | none => .ok none
  | some file =>
    if file.path.isEmpty then .ok none
    else match file.content with
      | .ok bytes => .ok (some bytes)
      | .error e =>
        .error { Failure.invalidArgument ("Failed to read " ++ label ++ " " ++ file.path) with
          cause := some e }

def security (s : Stores) (p : Parameters) : Except Failure Security :=
  if !p.sslEnabled then .ok .cleartext
  else if !p.verifyCertificate then .ok .trustAny
  else (load "trustStore" s.trust).map .verified

/-- A certificate stands in for a user name, but only under encryption. -/
def credentials (s : Stores) (p : Parameters) : Except Failure Credentials :=
  match p.username.filter fun u => !u.isEmpty, p.password with
  | some username, some password => .ok (.password username password)
  | some _, none => .error (.missingCredentials "Username or password is not provided")
  | none, _ =>
    if p.sslEnabled then do
      match ← load "keyStore" s.key with
      | some pem => .ok (.certificate pem)
      | none => .error (.missingCredentials "keyStore path is not provided")
    else .error (.missingCredentials "Username or password is not provided")

end Stores

/-- The settings of the client, with the times of the link in place of their own. -/
def HttpSettings.forLink (h : HttpSettings) (t : Timeouts) : HttpSettings :=
  { h with
    connectTimeout := (t.connect.map Duration.millis).getD h.connectTimeout
    readTimeout := (([t.query, t.management].filterMap id).map Duration.millis).max?.getD
      h.readTimeout }

structure Opened where
  session : Session
  client : RestClient

namespace Opened

/-- The bucket of a keyspace is its part before a full stop. -/
def bucketOf (keyspace : String) : String :=
  .ofList ((pieces (· == '.') keyspace.toList).headD [])

def checkBucket (client : RestClient) (p : Parameters) : HttpPlan Unit :=
  match p.defaultBucket with
  | none => .done ()
  | some keyspace => do
    let bucket := bucketOf keyspace
    let reply ← client.manage (.get (bucketPath bucket))
    let _ ← Plan.ofExcept (reply.require ("Opening bucket " ++ bucket))
    return ()

def start (settings : HttpSettings) (stores : Stores) (p : Parameters) : HttpPlan Opened := do
  let security ← Plan.ofExcept (stores.security p)
  let credentials ← Plan.ofExcept (stores.credentials p)
  let http ← Plan.ofExcept (HttpClient.of (settings.forLink p.timeouts) credentials security)
  let located ← RestClient.bootstrap http p.hosts
  let client := { located with queryTimeout := p.timeouts.query }
  checkBucket client p
  return ⟨{ parameters := p }, client⟩

end Opened

end KeyspaceLink

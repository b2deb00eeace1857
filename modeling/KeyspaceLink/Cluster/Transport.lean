import KeyspaceLink.Cluster.Pem
import KeyspaceLink.Failure

/-! How a client talks to a cluster: its settings, whether the server is trusted, and the
credentials it presents. -/

namespace KeyspaceLink

/-- The version of the driver. -/
def driverVersion : String := "0.1.0"

/-- Times are in whole milliseconds, as the options give them. -/
structure HttpSettings where
  connectTimeout : Nat := 10000
  readTimeout : Nat := 75000
  maxRetries : UInt32 := 3
  /-- The pause before the first retry; it doubles with each. -/
  retryDelay : Nat := 500
  userAgent : String := "couchbase-adbc/" ++ driverVersion
deriving DecidableEq, Repr

inductive Security
  | cleartext
  /-- The certificate of the server is checked, perhaps against further roots. -/
  | verified (roots : Option (List UInt8))
  | trustAny
deriving DecidableEq, Repr

namespace Security

def isTls : Security → Bool
  | cleartext => false
  | _ => true

def scheme (s : Security) : String := if s.isTls then "https" else "http"

end Security

inductive Credentials
  | password (username password : String)
  | certificate (pem : List UInt8)
deriving DecidableEq, Repr

def Credentials.header? : Credentials → Option String
  | password user secret =>
    some ("Basic " ++ .ofList (base64 (octets (user ++ ":" ++ secret).toList)))
  | certificate _ => none

structure HttpClient where
  settings : HttpSettings
  credentials : Credentials
  security : Security
deriving DecidableEq, Repr

/-- The certificates that are to be trusted beside the usual ones, and those that the client
presents with their keys. -/
def HttpClient.stores (credentials : Credentials) (security : Security) :
    Except Failure (List (List UInt8)) := do
  let trusted ← match security with
    | .verified (some pem) =>
      (Pem.certificates? pem).elim
        (.error (.invalidArgument "Failed to read trust store: builder error")) .ok
    | _ => .ok []
  let presented ← match credentials with
    | .certificate pem =>
      (Pem.identity? pem).elim
        (.error (.invalidArgument "Failed to read key store: builder error")) .ok
    | _ => .ok []
  return trusted ++ presented

/-- A client, unless one of its stores cannot be read or used. -/
def HttpClient.of (settings : HttpSettings) (credentials : Credentials) (security : Security) :
    Except Failure HttpClient := do
  let stores ← HttpClient.stores credentials security
  if stores.all Pem.isSequence then return ⟨settings, credentials, security⟩
  else .error (.cluster "Failed to create HTTP client: builder error")

end KeyspaceLink

import KeyspaceLink.Duration
import KeyspaceLink.Link.Host
import KeyspaceLink.Link.Options

/-! Links to a cluster: a scheme, a list of hosts, perhaps a keyspace, and options.
A link is read once, and every setting is decided then. -/

namespace KeyspaceLink

/-- How far a query waits for indexes to catch up. -/
inductive ScanConsistency
  | notBounded
  | requestPlus
deriving DecidableEq, Repr

def ScanConsistency.text : ScanConsistency → String
  | notBounded => "not_bounded"
  | requestPlus => "request_plus"

/-- Anything unknown is not bounded. -/
def ScanConsistency.ofText (s : String) : ScanConsistency :=
  if lower s == "request_plus" then requestPlus else notBounded

inductive LoggingLevel
  | off
  | severe
  | warning
  | info
  | fine
  | all
deriving DecidableEq, Repr

namespace LoggingLevel

def text : LoggingLevel → String
  | off => "off"
  | severe => "severe"
  | warning => "warning"
  | info => "info"
  | fine => "fine"
  | all => "all"

def levels : List LoggingLevel := [off, severe, warning, info, fine, all]

def ofText? (s : String) : Option LoggingLevel := levels.find? fun l => l.text == lower s

/-- The level of the events that are let through. -/
def eventLevel? : LoggingLevel → Option String
  | off => none
  | severe => some "error"
  | warning => some "warn"
  | info => some "info"
  | fine => some "debug"
  | all => some "trace"

end LoggingLevel

/-- A one, or the word in any case. -/
def isTrue (s : String) : Bool := s == "1" || lower s == "true"

structure Timeouts where
  connect : Option Duration
  query : Option Duration
  management : Option Duration
deriving DecidableEq, Repr

namespace OptionName

def user : String := "user"
def password : String := "password"
def sslEnabled : String := "sslenabled"
def verifyCertificate : String := "verifyServerCertificate"
def verifyHostnames : String := "verifyHostnames"
def defaultBucket : String := "defaultBucket"
def samplingSize : String := "meta.sampling.size"
def scanConsistency : String := "query.scan.consistency"
def loggingLevel : String := "loggingLevel"
def connectTimeout : String := "timeout.connectTimeout"
def queryTimeout : String := "timeout.queryTimeout"
def managementTimeout : String := "timeout.managementTimeout"

/-- The options that are acted on here; all others are forwarded. -/
def recognized : List String :=
  [user, password, sslEnabled, verifyCertificate, verifyHostnames, defaultBucket, samplingSize,
   scanConsistency, loggingLevel]

/-- The forwarded options that are still used. -/
def timeouts : List String := [connectTimeout, queryTimeout, managementTimeout]

def isRecognized (name : String) : Bool := recognized.any fun r => lower r == name

end OptionName

structure Parameters where
  uri : String
  /-- The host list as written. -/
  hostText : String
  hosts : List Host
  username : Option String
  password : Option String
  sslEnabled : Bool
  verifyCertificate : Bool
  verifyHostnames : Bool
  defaultBucket : Option String
  scanConsistency : ScanConsistency
  samplingSize : Nat
  loggingLevel : LoggingLevel
  /-- Whether the level was given at all. -/
  loggingLevelGiven : Bool
  /-- Whether the link has an options part, even an empty one. -/
  hasOptions : Bool
  /-- Sorted by name. -/
  forwarded : List (String × String)
  timeouts : Timeouts
deriving DecidableEq, Repr

namespace Parameters

def scheme : String := "adbc:couchbase:"

def otherScheme : String := "jdbc:couchbase:"

def defaultSamplingSize : Nat := 1000

def afterScheme? (uri : String) : Option (List Char) :=
  (dropStart? scheme.toList uri.toList).or (dropStart? otherScheme.toList uri.toList)

/-- The hosts and the keyspace, which follows the last slash. -/
def splitServer (s : List Char) : List Char × Option (List Char) :=
  match cutLast? '/' s with
  | some (hosts, keyspace) => (hosts, some keyspace)
  | none => (s, none)

def readTimeouts (forwarded : List (String × String)) : Timeouts :=
  let timeout (name : String) :=
    (forwarded.lookup (lower name)).bind fun v => Duration.read? v.toList
  ⟨timeout OptionName.connectTimeout, timeout OptionName.queryTimeout,
    timeout OptionName.managementTimeout⟩

/-- Every setting, once the hosts are known. -/
def resolve (uri : String) (hostText : List Char) (hosts : List Host)
    (keyspace : Option (List Char)) (options : Option (List (String × String)))
    (overlay : Overlay) : Parameters :=
  let sources : Sources := ⟨overlay, options.getD []⟩
  let flag (name : String) (otherwise : Bool) := ((sources.find? name).map isTrue).getD otherwise
  let forwarded := sorted ((options.getD []).filter fun p => !OptionName.isRecognized p.1)
  { uri
    hostText := .ofList hostText
    hosts
    username := sources.find? OptionName.user
    password := sources.find? OptionName.password
    sslEnabled := flag OptionName.sslEnabled false
    verifyCertificate := flag OptionName.verifyCertificate true
    verifyHostnames := flag OptionName.verifyHostnames true
    defaultBucket := match keyspace with
      | some (c :: k) => some (.ofList (c :: k))
      | _ => sources.find? OptionName.defaultBucket
    scanConsistency :=
      ((sources.find? OptionName.scanConsistency).map ScanConsistency.ofText).getD .notBounded
    samplingSize :=
      ((sources.find? OptionName.samplingSize).bind fun v =>
        readUnsigned? word64 (trim v.toList)).getD
        defaultSamplingSize
    loggingLevel := ((sources.find? OptionName.loggingLevel).bind LoggingLevel.ofText?).getD .severe
    loggingLevelGiven := (sources.find? OptionName.loggingLevel).isSome
    hasOptions := options.isSome
    forwarded
    timeouts := readTimeouts forwarded }

def read (uri : String) (overlay : Overlay) : Except Failure Parameters := do
  let some body := afterScheme? uri
    | .error (.malformed ("URI needs to start with " ++ scheme))
  let (server, options) := match cutFirst? '?' body with
    | some (server, options) => (server, some (readOptions options))
    | none => (body, none)
  let (hostText, keyspace) := splitServer server
  let hosts ← Host.readList hostText
  if hosts.isEmpty then .error (.malformed "URI does not contain any host")
  else .ok (resolve uri hostText hosts keyspace options overlay)

/-- The host list with the forwarded options. -/
def connectionString (p : Parameters) : String :=
  if p.hasOptions then
    .ofList (p.hostText.toList ++ '?' :: List.intercalate ['&'] (p.forwarded.map writeOption))
  else p.hostText

/-- The forwarded options nothing here acts on. -/
def ignored (p : Parameters) : List String :=
  (p.forwarded.map Prod.fst).filter fun k => !OptionName.timeouts.any fun t => sameIgnoringCase t k

end Parameters

end KeyspaceLink

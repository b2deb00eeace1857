import KeyspaceLink.Access.OptionValue
import KeyspaceLink.Cluster.Open
import KeyspaceLink.Link.Property

/-! Databases: a link and what was set beside it, before any connection is made. What is
set under the name of a link option lies over the link. -/

namespace KeyspaceLink

inductive DatabaseOption
  | uri
  | username
  | password
  | logFile
  | connectTimeout
  | readTimeout
  | maxRetries
  | link (name : String)
deriving DecidableEq, Repr

namespace DatabaseOption

def linkStart : List Char := "couchbase.".toList

def fixedKeys : List (String × DatabaseOption) :=
  [("uri", uri), ("username", username), ("password", password),
   ("couchbase.log_file", logFile),
   ("couchbase.http.connect_timeout_ms", connectTimeout),
   ("couchbase.http.read_timeout_ms", readTimeout),
   ("couchbase.http.max_retries", maxRetries)]

/-- The name of the link option that a key stands for. -/
def linkName? (key : String) : Option String := (dropStart? linkStart key.toList).map String.ofList

def ofKey? (key : String) : Option DatabaseOption :=
  (fixedKeys.lookup key).or (((linkName? key).filter fun name => !name.isEmpty).map link)

end DatabaseOption

structure Database where
  uri : Option String := none
  /-- Link options by name, sorted. -/
  overlay : Overlay := []
  logFile : Option String := none
  http : HttpSettings := {}

namespace Database

def setLink (d : Database) (name value : String) : Database :=
  { d with overlay := place name value d.overlay }

/-- Sets an option. The number of retries is kept in half a word. -/
def set (d : Database) (key : String) (v : OptionValue) : Except Failure Database :=
  match DatabaseOption.ofKey? key with
  | none => .error (.unknownOption key)
  | some .uri => return { d with uri := some (← v.accept key OptionValue.text?) }
  | some .username => return d.setLink OptionName.user (← v.accept key OptionValue.text?)
  | some .password => return d.setLink OptionName.password (← v.accept key OptionValue.text?)
  | some .logFile => return { d with logFile := some (← v.accept key OptionValue.text?) }
  | some .connectTimeout => do
    let millis ← v.accept key OptionValue.natural?
    return { d with http := { d.http with connectTimeout := millis } }
  | some .readTimeout => do
    let millis ← v.accept key OptionValue.natural?
    return { d with http := { d.http with readTimeout := millis } }
  | some .maxRetries => do
    let count ← v.accept key OptionValue.natural?
    return { d with http := { d.http with maxRetries := .ofNat count } }
  | some (.link name) => return d.setLink name (← v.accept key OptionValue.text?)

def setAll (d : Database) (options : List (String × OptionValue)) : Except Failure Database :=
  options.foldlM (fun d o => d.set o.1 o.2) d

/-- The value of an option that was set, or the lack of it. -/
def given (key : String) : Option String → Except Failure String
  | some s => .ok s
  | none => .error (.invalidState ("option '" ++ key ++ "' is not set"))

/-- The value of a link option: the one set, else the default. The password is not told. -/
def linkValue? (d : Database) (name : String) : Option String :=
  if sameIgnoringCase name OptionName.password then none
  else
    ((d.overlay.find? fun p => sameIgnoringCase p.1 name).map Prod.snd).or
      ((Property.defaults.find? fun p => sameIgnoringCase p.name name).map Property.value)

def getText (d : Database) (key : String) : Except Failure String :=
  match DatabaseOption.ofKey? key with
  | some .uri => given key d.uri
  | some .username => given key (d.overlay.lookup OptionName.user)
  | some .logFile => given key d.logFile
  | _ =>
    match (DatabaseOption.linkName? key).bind d.linkValue? with
    | some s => .ok s
    | none => .error (.optionNotSet key)

def getInt (d : Database) (key : String) : Except Failure Int :=
  match DatabaseOption.ofKey? key with
  | some .connectTimeout => .ok d.http.connectTimeout
  | some .readTimeout => .ok d.http.readTimeout
  | some .maxRetries => .ok d.http.maxRetries.toNat
  | _ => .error (.optionNotSet key)

/-- An option in the form asked for; none has the form of octets or of a double. -/
def get (d : Database) (form : OptionForm) (key : String) : Except Failure OptionValue :=
  match form with
  | .text => (d.getText key).map .text
  | .int => (d.getInt key).map .int
  | .bytes | .double => .error (.optionNotSet key)

def parameters (d : Database) : Except Failure Parameters :=
  match d.uri with
  | some uri => Parameters.read uri d.overlay
  | none => .error (.invalidArgument "uri not set")

def connect (d : Database) (stores : Stores) : HttpPlan Opened := do
  Opened.start d.http stores (← Plan.ofExcept d.parameters)

end Database

end KeyspaceLink

import KeyspaceLink.Json.Printer
import KeyspaceLink.Text.Case

/-! Failures: a kind, a message, the entries a query service reported, and perhaps an
underlying cause. A caller outside sees one line, a status and a vendor code. -/

namespace KeyspaceLink

inductive FailureKind
  | malformed
  | missingCredentials
  | readOnlyViolation
  | clusterCommunication
  | notReady
  | timeout
  | exhausted
  | unsupported
  | invalidArgument
  | invalidState
deriving DecidableEq, Repr

def FailureKind.text : FailureKind → String
  | malformed => "syntax error"
  | missingCredentials => "missing credentials"
  | readOnlyViolation => "read-only violation"
  | clusterCommunication => "cluster communication error"
  | notReady => "resource not ready"
  | timeout => "timeout"
  | exhausted => "result exhausted"
  | unsupported => "unsupported operation"
  | invalidArgument => "invalid argument"
  | invalidState => "invalid state"

structure ServerError where
  code : String
  text : String
deriving DecidableEq, Repr

namespace ServerError

/-- An entry as sent: the code a number or a text, the message under either name. -/
def ofJson (v : Json) : ServerError where
  code := match v.get? "code" with
    | some (.int i) => (Json.int i).print
    | some (.float x) => (Json.float x).print
    | some (.text s) => s
    | _ => ""
  text := (((v.get? "msg").or (v.get? "message")).bind Json.text?).getD ""

def display (e : ServerError) : String := "[" ++ e.code ++ "] " ++ e.text

end ServerError

structure Failure where
  kind : FailureKind
  message : String := ""
  entries : List ServerError := []
  cause : Option String := none
deriving DecidableEq, Repr

inductive Status
  | invalidArguments
  | unauthenticated
  | invalidState
  | communication
  | notFound
  | timeout
  | notImplemented
deriving DecidableEq, Repr

structure Report where
  status : Status
  message : String
  vendorCode : Int
deriving DecidableEq, Repr

namespace Failure

def display (f : Failure) : String :=
  (if f.message.isEmpty then f.kind.text else f.message) ++
    (if f.entries.isEmpty then "" else " " ++ ", ".intercalate (f.entries.map ServerError.display))

def mentions (f : Failure) (needle : String) : Bool :=
  KeyspaceLink.mentions needle.toList f.message.toList ||
    f.entries.any fun e => KeyspaceLink.mentions needle.toList e.text.toList

theorem mentions_iff {f : Failure} {needle : String} :
    f.mentions needle = true ↔ needle.toList <:+: f.message.toList ∨
      ∃ e ∈ f.entries, needle.toList <:+: e.text.toList := by
  simp only [mentions, Bool.or_eq_true, List.any_eq_true, KeyspaceLink.mentions_iff]

def hasCode (f : Failure) (code : String) : Bool := f.entries.any fun e => e.code == code

theorem hasCode_iff {f : Failure} {code : String} :
    f.hasCode code = true ↔ ∃ e ∈ f.entries, e.code = code := by
  simp only [hasCode, List.any_eq_true, beq_iff_eq]

/-- A single entry with one of the codes for missing keyspaces and namespaces. -/
def keyspaceNotFound (f : Failure) : Bool :=
  match f.entries with
  | [e] => e.code == "12003" || (dropStart? ['1', '3'] e.code.toList).isSome
  | _ => false

def status (f : Failure) : Status :=
  match f.kind with
  | .malformed | .invalidArgument => .invalidArguments
  | .missingCredentials => .unauthenticated
  | .readOnlyViolation | .notReady | .exhausted | .invalidState => .invalidState
  | .clusterCommunication => if f.keyspaceNotFound then .notFound else .communication
  | .timeout => .timeout
  | .unsupported => .notImplemented

/-- The code of the first entry, when it is a number of half a word. -/
def vendorCode (f : Failure) : Int :=
  match f.entries with
  | e :: _ => (readSigned? word31 e.code.toList).getD 0
  | [] => 0

def report (f : Failure) : Report where
  status := f.status
  message := match f.cause with
    | some cause => f.display ++ ": " ++ cause
    | none => f.display
  vendorCode := f.vendorCode

def malformed (message : String) : Failure := ⟨.malformed, message, [], none⟩
def invalidArgument (message : String) : Failure := ⟨.invalidArgument, message, [], none⟩
def invalidState (message : String) : Failure := ⟨.invalidState, message, [], none⟩
def unsupported (message : String) : Failure := ⟨.unsupported, message, [], none⟩
def cluster (message : String) : Failure := ⟨.clusterCommunication, message, [], none⟩
def notReady (message : String) : Failure := ⟨.notReady, message, [], none⟩
def exhausted (message : String) : Failure := ⟨.exhausted, message, [], none⟩
def timeout (message : String) : Failure := ⟨.timeout, message, [], none⟩
def missingCredentials (message : String) : Failure := ⟨.missingCredentials, message, [], none⟩

def readOnly : Failure :=
  ⟨.readOnlyViolation,
    "The server or request is read-only and cannot accept this write statement.", [], none⟩

def unknownOption (key : String) : Failure := unsupported ("Unknown option: " ++ key)

def optionNotSet (key : String) : Failure :=
  invalidArgument ("Option not set or unknown: " ++ key)

/-- Refuses an option; `shown` is the value as messages show it. -/
def badOption (key shown : String) : Failure :=
  invalidArgument ("Invalid value for option " ++ key ++ ": " ++ shown)

end Failure

end KeyspaceLink

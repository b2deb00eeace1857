import KeyspaceLink.Failure
import KeyspaceLink.Text.Blank
import KeyspaceLink.Text.Split

/-! Seed nodes of a cluster: a host, which may be an address between brackets, and
perhaps a port. A text with two colons or more and no bracket is an address too. -/

namespace KeyspaceLink

structure Host where
  name : String
  port : Option Nat
deriving DecidableEq, Repr

namespace Host

def urlName (h : Host) : String :=
  if h.name.toList.contains ':' then "[" ++ h.name ++ "]" else h.name

def text (h : Host) : String :=
  match h.port with
  | some port => h.urlName ++ ":" ++ toString port
  | none => h.urlName

def readPort (raw port : List Char) : Except Failure Nat :=
  match readUnsigned? word16 port with
  | some n => .ok n
  | none => .error (.malformed ("Invalid port in host: " ++ .ofList raw))

/-- One element of a host list. What follows a closing bracket is dropped unless it
starts with a colon. -/
def read (element : List Char) : Except Failure Host :=
  let raw := trim element
  match raw with
  | '[' :: inner =>
    match cutFirst? ']' inner with
    | none => .error (.malformed ("Invalid host: " ++ .ofList raw))
    | some (address, ':' :: port) =>
      (readPort raw port).map fun n => ⟨.ofList address, some n⟩
    | some (address, _) => .ok ⟨.ofList address, none⟩
  | _ =>
    match cutFirst? ':' raw with
    | none => .ok ⟨.ofList raw, none⟩
    | some (name, port) =>
      if port.contains ':' then .ok ⟨.ofList raw, none⟩
      else (readPort raw port).map fun n => ⟨.ofList name, some n⟩

/-- A list of hosts, blank elements left out. -/
def readList (s : List Char) : Except Failure (List Host) :=
  ((pieces (· == ',') s).filter fun e => !(trim e).isEmpty).mapM read

end Host

end KeyspaceLink

import KeyspaceLink.Access.OptionValue
import KeyspaceLink.Session.Basic

/-! Connections: an open session and whether it may only be read. Every statement commits
on its own. -/

namespace KeyspaceLink

structure Connection where
  session : Session
  readOnly : Bool := false

inductive ConnectionOption
  | readOnly
  | autocommit
deriving DecidableEq, Repr

def ConnectionOption.ofKey? (key : String) : Option ConnectionOption :=
  [("adbc.connection.readonly", readOnly), ("adbc.connection.autocommit", autocommit)].lookup key

namespace Connection

def isClosed (c : Connection) : Bool := c.session.closed

def close (c : Connection) : Connection := { c with session := c.session.close.2 }

/-- Sets an option. Autocommit stays on whatever is set. -/
def set (c : Connection) (key : String) (v : OptionValue) : Except Failure Connection :=
  match ConnectionOption.ofKey? key with
  | some .readOnly => return { c with readOnly := ← v.accept key OptionValue.flag? }
  | some .autocommit => .ok c
  | none => .error (.unknownOption key)

def setAll (c : Connection) (options : List (String × OptionValue)) : Except Failure Connection :=
  options.foldlM (fun c o => c.set o.1 o.2) c

def get (c : Connection) (form : OptionForm) (key : String) : Except Failure OptionValue :=
  match form, ConnectionOption.ofKey? key with
  | .text, some .readOnly => .ok (.text (toString c.readOnly))
  | .text, some .autocommit => .ok (.text "true")
  | _, _ => .error (.optionNotSet key)

end Connection

end KeyspaceLink

import KeyspaceLink.Text.Case

/-! Keyspaces: a name, perhaps within a namespace. -/

namespace KeyspaceLink

structure Keyspace where
  schema : Option String
  name : String
deriving DecidableEq, Repr

namespace Keyspace

def systemSchema : String := "system"

def defaultSchema : String := "default"

def isSystem (k : Keyspace) : Bool := k.schema.any fun s => lower s == systemSchema

/-- A keyspace as queries write it, the name between backquotes. -/
def text (k : Keyspace) : String :=
  match k.schema with
  | some schema => schema ++ ":\x60" ++ k.name ++ "\x60"
  | none => "\x60" ++ k.name ++ "\x60"

end Keyspace

/-- A text without one pair of backquotes around it. -/
def withoutBackquotes (s : String) : String :=
  match s.toList with
  | '\x60' :: c :: r =>
    match dropEnding? ['\x60'] (c :: r) with
    | some inner => .ofList inner
    | none => s
  | _ => s

end KeyspaceLink

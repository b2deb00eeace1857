import KeyspaceLink.Command.Keyspace

/-! The commands about buckets and indexes that are run here rather than sent on. -/

namespace KeyspaceLink

structure CreateBucket where
  table : Keyspace
  primaryIndex : Bool
  waitUntilReady : Bool
  /-- The settings between braces, as written. -/
  settings : Option String
deriving DecidableEq, Repr

structure DropBucket where
  table : Keyspace
deriving DecidableEq, Repr

inductive DescribeTarget
  | settings
  | columns
deriving DecidableEq, Repr

structure DescribeBucket where
  target : DescribeTarget
  table : Keyspace
deriving DecidableEq, Repr

structure GetKeys where
  table : Keyspace
  limit : Option Nat
  offset : Option Nat
deriving DecidableEq, Repr

inductive Command
  | createBucket (c : CreateBucket)
  | dropBucket (c : DropBucket)
  | describeBucket (c : DescribeBucket)
  | describeIndexes
  | getKeys (c : GetKeys)
deriving DecidableEq, Repr

inductive CommandKind
  | createBucket
  | dropBucket
  | describeBucket
  | describeIndexes
  | getKeys
deriving DecidableEq, Repr

namespace CommandKind

/-- In the order in which a text is offered to them. -/
def all : List CommandKind := [createBucket, dropBucket, describeBucket, describeIndexes, getKeys]

def writes : CommandKind → Bool
  | createBucket | dropBucket => true
  | describeBucket | describeIndexes | getKeys => false

end CommandKind

def Command.kind : Command → CommandKind
  | createBucket _ => .createBucket
  | dropBucket _ => .dropBucket
  | describeBucket _ => .describeBucket
  | describeIndexes => .describeIndexes
  | getKeys _ => .getKeys

end KeyspaceLink

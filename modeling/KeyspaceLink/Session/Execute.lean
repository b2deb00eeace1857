import KeyspaceLink.Command.Grammar
import KeyspaceLink.Session.Describe
import KeyspaceLink.Session.DropBucket
import KeyspaceLink.Session.Keys

/-! Executing a text: it is offered to each kind of command in turn, and what none takes
goes to the query service. -/

namespace KeyspaceLink

def Command.execute (s : Session) : Command → ClusterPlan Outcome
  | createBucket c => c.execute
  | dropBucket c => c.execute
  | describeBucket c => c.execute s
  | describeIndexes => KeyspaceLink.describeIndexes
  | getKeys c => c.execute

namespace Session

def interpret (s : Session) (kind : CommandKind) (sql : String) : ClusterPlan Outcome := do
  s.requireOpen
  match ← Plan.ofExcept (Grammar.read kind sql) with
  | some c => c.execute s
  | none => return .unclaimed

/-- Offers a text to kinds of commands. One that writes is refused in a read-only run
before anything is sent. -/
def tryKinds (s : Session) (sql : String) (readOnly : Bool) : List CommandKind → ClusterPlan Outcome
  | [] => .done .unclaimed
  | kind :: rest => do
    let claimed ← Plan.ofExcept (Grammar.read kind sql)
    if claimed.isNone then s.tryKinds sql readOnly rest
    else if readOnly && kind.writes then .fail .readOnly
    else s.interpret kind sql

def tryExecute (s : Session) (sql : String) (readOnly : Bool) : ClusterPlan Outcome :=
  s.tryKinds sql readOnly CommandKind.all

def execute (s : Session) (sql : String) (readOnly : Bool) : ClusterPlan Outcome := do
  let statement := String.ofList (normalize sql.toList)
  match ← s.tryExecute statement readOnly with
  | .unclaimed => s.executeNative statement readOnly
  | claimed => return claimed

end Session

end KeyspaceLink

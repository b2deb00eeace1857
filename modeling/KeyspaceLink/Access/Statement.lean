import KeyspaceLink.Access.Connection
import KeyspaceLink.Rows.Reader
import KeyspaceLink.Session.Execute

/-! Statements: a query that can be run again and again. Each run closes what the run
before it handed out, so that a statement has one live result at most. -/

namespace KeyspaceLink

/-- Which of the results handed out so far are closed, by number. -/
structure Results where
  closed : List Bool := []
deriving DecidableEq, Repr

namespace Results

def isClosed (r : Results) (number : Nat) : Bool := r.closed[number]?.getD false

/-- Adds a result that is open, and tells its number. -/
def add (r : Results) : Nat × Results := (r.closed.length, ⟨r.closed ++ [false]⟩)

def close (r : Results) (number : Nat) : Results := ⟨r.closed.set number true⟩

end Results

structure Stream where
  reader : Reader
  /-- The number of the result; a run without rows has none. -/
  number : Option Nat

namespace Stream

def fields (s : Stream) : List Field := s.reader.fields

def next (s : Stream) (r : Results) : Except Failure (Option Batch) × Stream :=
  let (batch, reader) := s.reader.next (s.number.any r.isClosed)
  (batch, { s with reader })

/-- Every further batch, with the failure that cut them short, if any. -/
def drain (s : Stream) (r : Results) : List Batch × Option Failure × Stream :=
  let (batches, failure, reader) := s.reader.drain (s.number.any r.isClosed)
  (batches, failure, { s with reader })

end Stream

structure Statement where
  query : Option String := none
  batchSize : Nat := Reader.defaultBatchSize
  current : Option Nat := none
deriving DecidableEq, Repr

def Connection.newStatement (c : Connection) : Except Failure Statement :=
  if c.isClosed then .error (.invalidState "Connection is closed") else .ok {}

namespace Statement

def batchSizeKey : String := "couchbase.statement.batch_size"

def positive? (v : OptionValue) : Option Nat := v.natural?.filter fun n => n != 0

def set (s : Statement) (key : String) (v : OptionValue) : Except Failure Statement :=
  if key == batchSizeKey then return { s with batchSize := ← v.accept key positive? }
  else .error (.unknownOption key)

def get (s : Statement) (form : OptionForm) (key : String) : Except Failure OptionValue :=
  if key == batchSizeKey then
    match form with
    | .text => .ok (.text (toString s.batchSize))
    | .int => .ok (.int s.batchSize)
    | .bytes | .double => .error (.optionNotSet key)
  else .error (.optionNotSet key)

def setQuery (s : Statement) (sql : String) : Statement := { s with query := some sql }

/-- Closes the live result. A statement that is dropped does so too. -/
def release (s : Statement) (r : Results) : Statement × Results :=
  match s.current with
  | some number => ({ s with current := none }, r.close number)
  | none => (s, r)

/-- Runs the query. The live result is closed first, and stays so if the run fails; without
a query nothing changes. -/
def run (s : Statement) (c : Connection) (r : Results) :
    ClusterPlan (Except Failure Outcome × Statement × Results) :=
  match s.query with
  | none => .done (.error (.invalidState "No query set"), s, r)
  | some sql => do
    let (s, r) := s.release r
    let outcome ← (c.session.execute sql c.readOnly).attempt
    return (outcome, s, r)

def deliver (s : Statement) (r : Results) (outcome : Outcome) : Stream × Statement × Results :=
  match outcome.cursor? with
  | none => (⟨.noRows [resultColumn], none⟩, s, r)
  | some cursor =>
    let (number, r) := r.add
    (⟨.ofCursor cursor s.batchSize, some number⟩, { s with current := some number }, r)

def execute (s : Statement) (c : Connection) (r : Results) :
    ClusterPlan (Except Failure Stream × Statement × Results) := do
  match ← s.run c r with
  | (.error e, s, r) => return (.error e, s, r)
  | (.ok outcome, s, r) =>
    let (stream, s, r) := s.deliver r outcome
    return (.ok stream, s, r)

/-- Runs the query for its number of mutations; rows are dropped. -/
def executeUpdate (s : Statement) (c : Connection) (r : Results) :
    ClusterPlan (Except Failure (Option Int) × Statement × Results) := do
  let (outcome, s, r) ← s.run c r
  return (outcome.map Outcome.updates?, s, r)

def executeSchema (s : Statement) (c : Connection) (r : Results) :
    ClusterPlan (Except Failure (List Field) × Statement × Results) := do
  let (stream, s, r) ← s.execute c r
  return (stream.map Stream.fields, s, r)

end Statement

end KeyspaceLink

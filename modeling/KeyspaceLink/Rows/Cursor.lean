import KeyspaceLink.Failure

/-! Cursors over rows that have all arrived. A cursor moves forward only; once it has run
out of rows or is closed it stays there. -/

namespace KeyspaceLink

structure Column where
  name : String
  typeName : String
deriving DecidableEq, Repr

/-- The one column of documents and of what commands return. -/
def resultColumn : Column := ⟨"result", "map"⟩

inductive RowShape
  /-- One column that holds a document in each row. -/
  | document
  /-- Columns with declared names and types. -/
  | flattened
  /-- One value in each row. -/
  | list
deriving DecidableEq, Repr

structure Cursor where
  shape : RowShape
  columns : List Column
  rows : List (List Json)
  current : Option (List Json) := none
  closed : Bool := false

/-- The column of that name, or the first that differs from it in case only. -/
def columnIndex? (name : String) (columns : List Column) : Option Nat :=
  (columns.findIdx? fun c => c.name == name).or
    (columns.findIdx? fun c => sameIgnoringCase c.name name)

namespace Cursor

def documents (rows : List Json) : Cursor :=
  ⟨.document, [resultColumn], rows.map ([·]), none, false⟩

def singleColumn (column : Column) (values : List Json) : Cursor :=
  ⟨.document, [column], values.map ([·]), none, false⟩

def list (values : List Json) : Cursor := ⟨.list, [resultColumn], values.map ([·]), none, false⟩

/-- A row of exactly `width` values: cut, or filled with nulls. -/
def fit (width : Nat) (row : List Json) : List Json :=
  row.take width ++ List.replicate (width - row.length) .null

def flattened (columns : List Column) (rows : List (List Json)) : Cursor :=
  ⟨.flattened, columns, rows.map (fit columns.length), none, false⟩

/-- Rows given as objects; what an object lacks is null. -/
def ofObjects (columns : List Column) (objects : List Json) : Cursor :=
  ⟨.flattened, columns,
    objects.map fun o => columns.map fun c => (o.get? c.name).getD .null, none, false⟩

def empty (columns : List Column) : Cursor := ⟨.flattened, columns, [], none, false⟩

/-- How many rows can still be reached. -/
def remaining (c : Cursor) : Nat := if c.closed then 0 else c.rows.length

def next (c : Cursor) : Bool × Cursor :=
  if c.closed then (false, c)
  else
    match c.rows with
    | [] => (false, { c with current := none })
    | row :: rest => (true, { c with rows := rest, current := some row })

def currentRow (c : Cursor) : Except Failure (List Json) :=
  match c.current with
  | some row => .ok row
  | none => .error (.exhausted "Result cursor has no current row")

def get (c : Cursor) (index : Nat) : Except Failure Json := do
  match (← c.currentRow)[index]? with
  | some v => .ok v
  | none => .error (.exhausted ("Column index " ++ toString index ++ " is out of range"))

def getByName (c : Cursor) (name : String) : Except Failure Json := do
  let row ← c.currentRow
  match (columnIndex? name c.columns).bind (row[·]?) with
  | some v => .ok v
  | none => .error (.exhausted ("Column '" ++ name ++ "' does not exist"))

def close (c : Cursor) : Cursor := { c with rows := [], current := none, closed := true }

def allRows (c : Cursor) : List (List Json) := if c.closed then [] else c.rows

/-- The current row, read column by column. -/
def row (c : Cursor) : Except Failure (List Json) := (List.range c.columns.length).mapM c.get

/-- Moves over at most `count` rows and reads each. -/
def take : Nat → Cursor → Except Failure (List (List Json)) × Cursor
  | 0, c => (.ok [], c)
  | count + 1, c =>
    match c.next with
    | (false, c') => (.ok [], c')
    | (true, c') =>
      match c'.row with
      | .error e => (.error e, c')
      | .ok row =>
        let (rows, c'') := take count c'
        (rows.map (row :: ·), c'')

end Cursor

end KeyspaceLink

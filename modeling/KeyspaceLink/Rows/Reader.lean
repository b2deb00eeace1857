import KeyspaceLink.Rows.ColumnType
import KeyspaceLink.Rows.Cursor
import KeyspaceLink.Rows.Series
import KeyspaceLink.Text.Blank

/-! Readers deliver the rows of a cursor in batches, each value in the type its column
declares. A value that has no form in that type is null. -/

namespace KeyspaceLink

/-- The closest integer of a word to an integer or, cut toward zero, to a double. -/
def wordValue? : Json → Option Int
  | .int i => some (if i < (word63 : Int) then i else (word63 : Int) - 1)
  | .float x => some x.toInt64.toInt
  | .text s => readSigned? word63 (trim s.toList)
  | .bool b => some (if b then 1 else 0)
  | _ => none

def half16? (i : Int) : Option Int := if -32768 ≤ i ∧ i < 32768 then some i else none

def truth? : Json → Option Bool
  | .bool b => some b
  | .int i => (Json.int i).signed?.map (· != 0)
  | .text s => if s == "true" then some true else if s == "false" then some false else none
  | _ => none

/-- A text as it is, anything else as JSON. -/
def shownText? : Json → Option String
  | .null => none
  | .text s => some s
  | v => some v.print

namespace ColumnType

def fieldType : ColumnType → FieldType
  | text => .text
  | boolean => .boolean
  | int16 => .int16
  | int64 => .int64
  | double => .double

def series (t : ColumnType) (values : List Json) : Series :=
  match t with
  | text => .texts (values.map shownText?)
  | boolean => .booleans (values.map truth?)
  | int16 => .ints (values.map fun v => (wordValue? v).bind half16?)
  | int64 => .ints (values.map wordValue?)
  | double => .doubles (values.map Json.float?)

end ColumnType

def Column.type (c : Column) : ColumnType := .ofName c.typeName

/-- Every field of a result may be null. -/
def Column.field (c : Column) : Field := .mk c.name c.type.fieldType true

def layOut (columns : List Column) (rows : List (List Json)) : List Series :=
  columns.zipIdx.map fun (c, i) => c.type.series (rows.map fun row => row[i]?.getD .null)

inductive Reader
  | rows (cursor : Cursor) (batchSize : Nat)
  /-- What statements without rows return. -/
  | noRows (columns : List Column)

namespace Reader

def defaultBatchSize : Nat := 1024

/-- A batch holds one row at least. -/
def ofCursor (cursor : Cursor) (batchSize : Nat) : Reader := .rows cursor (max batchSize 1)

def columns : Reader → List Column
  | rows cursor _ => cursor.columns
  | noRows columns => columns

def fields (r : Reader) : List Field := r.columns.map Column.field

/-- The next batch, or none at the end. Once `closed` is seen the cursor is closed and
nothing more comes. -/
def next (closed : Bool) : Reader → Except Failure (Option Batch) × Reader
  | noRows columns => (.ok none, noRows columns)
  | rows cursor batchSize =>
    if closed then (.ok none, rows cursor.close batchSize)
    else
      let (taken, cursor') := cursor.take batchSize
      (match taken with
        | .error e => .error e
        | .ok [] => .ok none
        | .ok (row :: more) =>
          match Batch.of? (cursor.columns.map Column.field)
              (layOut cursor.columns (row :: more)) with
          | some batch => .ok (some batch)
          | none => .error (.invalidState "Failed to build record batch"),
        rows cursor' batchSize)

def remaining : Reader → Nat
  | rows cursor _ => cursor.rows.length
  | noRows _ => 0

/-- At most `count` further batches, with the failure that cut them short, if any. -/
def take (closed : Bool) : Nat → Reader → List Batch × Option Failure × Reader
  | 0, r => ([], none, r)
  | count + 1, r =>
    match r.next closed with
    | (.error e, r') => ([], some e, r')
    | (.ok none, r') => ([], none, r')
    | (.ok (some batch), r') =>
      let (more, failure, r'') := r'.take closed count
      (batch :: more, failure, r'')

/-- Every further batch; each has a row at least. -/
def drain (closed : Bool) (r : Reader) : List Batch × Option Failure × Reader :=
  r.take closed r.remaining

end Reader

end KeyspaceLink

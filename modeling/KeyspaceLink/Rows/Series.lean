import KeyspaceLink.Failure

/-! Values laid out column by column. The items of a column of lists stand end to end
in a column of their own, and offsets tell where each list begins. -/

namespace KeyspaceLink

mutual

inductive FieldType
  | text
  | boolean
  | int16
  | int32
  | int64
  | uint32
  | double
  | list (item : Field)
  | record (fields : List Field)
  | union (members : List String)

/-- A field has a name, a type, and perhaps nulls. -/
inductive Field
  | mk (name : String) (type : FieldType) (nullable : Bool)

end

def Field.name : Field → String
  | .mk name _ _ => name

def Field.type : Field → FieldType
  | .mk _ type _ => type

def Field.nullable : Field → Bool
  | .mk _ _ nullable => nullable

inductive Cell
  | null
  | text (s : String)
  | boolean (b : Bool)
  | int (i : Int)
  | double (x : Float)
  | list (items : List Cell)
  | record (members : List (String × Cell))

instance : Inhabited Cell := ⟨.null⟩

def Cell.isNull : Cell → Bool
  | null => true
  | _ => false

inductive Series
  | texts (values : List (Option String))
  | booleans (values : List (Option Bool))
  | ints (values : List (Option Int))
  | doubles (values : List (Option Float))
  | lists (offsets : List Nat) (items : Series)
  | records (names : List String) (count : Nat) (members : List Series)

/-- The pieces between neighbouring offsets. -/
def slices (items : List α) : List Nat → List (List α)
  | start :: stop :: rest => ((items.drop start).take (stop - start)) :: slices items (stop :: rest)
  | _ => []

def rowsOf : Nat → List (List Cell) → List (List Cell)
  | 0, _ => []
  | count + 1, columns => columns.map (·.headD .null) :: rowsOf count (columns.map List.tail)

namespace Series

mutual

def cells : Series → List Cell
  | texts values => values.map fun v => v.elim .null .text
  | booleans values => values.map fun v => v.elim .null .boolean
  | ints values => values.map fun v => v.elim .null .int
  | doubles values => values.map fun v => v.elim .null .double
  | lists offsets items => (slices items.cells offsets).map .list
  | records names count members =>
    (rowsOf count (cellsOfAll members)).map fun row => .record (names.zip row)

def cellsOfAll : List Series → List (List Cell)
  | [] => []
  | s :: rest => s.cells :: cellsOfAll rest

end

def length : Series → Nat
  | texts values => values.length
  | booleans values => values.length
  | ints values => values.length
  | doubles values => values.length
  | lists offsets _ => offsets.length - 1
  | records _ count _ => count

/-- Whether a column may stand for a field: a field without nulls has none. -/
def suits (s : Series) (f : Field) : Bool := f.nullable || s.cells.all fun c => !c.isNull

end Series

def offsetsOf (lengths : List Nat) : List Nat := lengths.scanl (· + ·) 0

/-- An offset takes half a word, sign included. -/
def offsetBound : Nat := word31

/-- A column of lists, if the offsets rise, fit, and stay within the items. -/
def Series.lists? (item : Field) (offsets : List Nat) (items : Series) : Option Series :=
  let rising := (offsets.zip offsets.tail).all fun (a, b) => a ≤ b
  let last := offsets.getLast?.getD 0
  if rising && last < offsetBound && last ≤ items.length && items.suits item
  then some (.lists offsets items) else none

/-- A column of records, if its members are as many as its fields and equally long. -/
def Series.records? (fields : List Field) (members : List Series) : Option Series :=
  let count := (members.head?.map Series.length).getD 0
  if fields.length == members.length && members.all (fun s => s.length == count) &&
      (members.zip fields).all fun (s, f) => s.suits f
  then some (.records (fields.map Field.name) count members) else none

/-- Rows delivered together, one column for each field. -/
structure Batch where
  fields : List Field
  columns : List Series

namespace Batch

/-- A batch needs a column, which tells its length, and columns that agree with it. -/
def of? (fields : List Field) (columns : List Series) : Option Batch :=
  match columns with
  | [] => none
  | first :: _ =>
    if fields.length == columns.length && columns.all (fun s => s.length == first.length) &&
        (columns.zip fields).all fun (s, f) => s.suits f
    then some ⟨fields, columns⟩ else none

def length (b : Batch) : Nat := (b.columns.head?.map Series.length).getD 0

def rows (b : Batch) : List (List Cell) := rowsOf b.length (b.columns.map Series.cells)

end Batch

end KeyspaceLink

import KeyspaceLink.Catalog.Entries
import KeyspaceLink.Text.Blank

/-! Indexes, one entry for each key. The text of a key names a field between backquotes
and may end in the word for descending order. -/

namespace KeyspaceLink

structure IndexEntry where
  schema : Option String
  table : Option String
  nonUnique : Bool
  index : Option String
  /-- The place of the key within the index, from one. An index has fewer than 2147483648 keys,
  so half a word with a sign holds every place. -/
  position : Nat
  column : String
  descending : Bool
  condition : Option String
deriving DecidableEq, Repr

namespace IndexEntry

def direction (e : IndexEntry) : String := if e.descending then "D" else "A"

/-- Says that an index is hashed. -/
def hashedCode : Int := 2

def row (e : IndexEntry) : List Json :=
  [.null, .ofText? e.schema, .ofText? e.table, .bool e.nonUnique, .null, .ofText? e.index,
   .int hashedCode, .ofNat e.position, .text e.column, .text e.direction, .int 0, .int 0,
   .ofText? e.condition]

def columns : List Column :=
  ["TABLE_CAT", "TABLE_SCHEM", "TABLE_NAME"].map textColumn ++ [⟨"NON_UNIQUE", "boolean"⟩] ++
  ["INDEX_QUALIFIER", "INDEX_NAME"].map textColumn ++
  ["TYPE", "ORDINAL_POSITION"].map numberColumn ++
  ["COLUMN_NAME", "ASC_OR_DESC"].map textColumn ++
  ["CARDINALITY", "PAGES"].map numberColumn ++ [textColumn "FILTER_CONDITION"]

/-- A field as a key writes it, without any backquote. -/
def fieldName (s : List Char) : String :=
  .ofList ((withoutBackquotes (.ofList (trim s))).toList.filter (· != '\x60'))

/-- The field of a key, and whether its order is descending. -/
def readKey (key : String) : String × Bool :=
  match dropEnding? ['D', 'E', 'S', 'C'] key.toList with
  | some rest => (fieldName (trim rest), true)
  | none => (fieldName key.toList, false)

def isPrimary (v : Json) : Bool :=
  match v.get? "is_primary" with
  | some (.bool b) => b
  | some (.text s) => lower s == "true"
  | _ => false

/-- The texts of the keys; a key that is no text is shown as JSON. -/
def keyTexts (v : Json) : List String :=
  match v.get? "index_key" with
  | some (.list keys) => keys.map fun k => match k with
    | .text s => s
    | k => k.print
  | _ => []

def ofKey (v : Json) (key : String) (position : Nat) : IndexEntry :=
  let text (name : String) := (v.get? name).bind Json.text?
  { schema := text "namespace_id"
    table := text "keyspace_id"
    nonUnique := !isPrimary v
    index := text "name"
    position
    column := (readKey key).1
    descending := (readKey key).2
    condition := text "condition" }

/-- The entries of an index. One without keys is reported on the identifier. -/
def expand (v : Json) : List IndexEntry :=
  match keyTexts v with
  | [] => [ofKey v "id" 1]
  | keys => (keys.zipIdx 1).map fun (key, position) => ofKey v key position

def members : List Column :=
  ["namespace_id", "keyspace_id", "name", "index_key", "is_primary", "condition"].map textColumn

def ofRow (row : List Json) : Json := .object ((members.map Column.name).zip row)

end IndexEntry

end KeyspaceLink

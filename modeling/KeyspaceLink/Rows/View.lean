import KeyspaceLink.Rows.Series

/-! Fields and rows written as JSON. A double is written as a text, so that one that is
not finite has a form too. -/

namespace KeyspaceLink

mutual

def FieldType.json : FieldType → Json
  | .text => .text "Utf8"
  | .boolean => .text "Boolean"
  | .int16 => .text "Int16"
  | .int32 => .text "Int32"
  | .int64 => .text "Int64"
  | .uint32 => .text "UInt32"
  | .double => .text "Float64"
  | .list item => .object [("list", item.json)]
  | .record fields => .object [("struct", .list (fieldsJson fields))]
  | .union members => .object [("union", .list (members.map .text))]

def Field.json : Field → Json
  | .mk name type nullable => .list [.text name, type.json, .bool nullable]

def fieldsJson : List Field → List Json
  | [] => []
  | f :: rest => f.json :: fieldsJson rest

end

mutual

def Cell.json : Cell → Json
  | .null => .null
  | .text s => .text s
  | .boolean b => .bool b
  | .int i => .int i
  | .double x => .text (Json.numberStyle.float x)
  | .list items => .list (cellsJson items)
  | .record members => .object (membersJson members)

def cellsJson : List Cell → List Json
  | [] => []
  | c :: rest => c.json :: cellsJson rest

def membersJson : List (String × Cell) → List (String × Json)
  | [] => []
  | (name, c) :: rest => (name, c.json) :: membersJson rest

end

namespace Batch

def json (b : Batch) : Json := .list (b.rows.map fun row => .list (cellsJson row))

end Batch

end KeyspaceLink

import KeyspaceLink.Json.Basic
import KeyspaceLink.Rows.ColumnType

/-! The types of sampled values. -/

namespace KeyspaceLink

inductive Tag
  | null
  | object
  | array
  | boolean
  | double
  | numeric
  | string
deriving DecidableEq, Repr

namespace Tag

def of : Json → Tag
  | .null => null
  | .object _ => object
  | .list _ => array
  | .bool _ => boolean
  | .int _ => numeric
  | .float _ => double
  | .text _ => string

def name : Tag → String
  | null => "null"
  | object => "object"
  | array => "array"
  | boolean => "boolean"
  | double => "double"
  | numeric => "numeric"
  | string => "string"

def all : List Tag := [null, object, array, boolean, double, numeric, string]

def ofName? (s : String) : Option Tag := all.find? fun t => t.name == lower s

def code (t : Tag) : Int := (typeCode? t.name).getD 0

end Tag

end KeyspaceLink

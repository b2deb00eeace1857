import KeyspaceLink.Text.Case

/-! Type names of columns: the type in which the values of a column are delivered, and
the code by which a type is known in listings. -/

namespace KeyspaceLink

inductive ColumnType
  | text
  | boolean
  | int16
  | int64
  | double
deriving DecidableEq, Repr

/-- Lists and objects are delivered as JSON text, and so is everything unknown. -/
def ColumnType.ofName (name : String) : ColumnType :=
  let n := lower name
  if n == "boolean" then boolean
  else if n == "short" then int16
  else if ["numeric", "int", "integer", "long"].contains n then int64
  else if ["float", "double"].contains n then double
  else text

def typeCodes : List (String × Int) :=
  [("map", 2000), ("object", 2000), ("array", 2003), ("numeric", 2), ("int", 4), ("integer", 4),
   ("short", 4), ("long", -5), ("boolean", 16), ("string", 12), ("null", 0), ("float", 6),
   ("double", 8)]

def typeCode? (name : String) : Option Int := typeCodes.lookup (lower name)

end KeyspaceLink

import KeyspaceLink.Sample.Tag

/-! Columns found in documents: every path of nested objects, in the order of first sight,
with the type of the first value there that is not null. -/

namespace KeyspaceLink

structure SampledColumn where
  name : String
  tag : Tag
deriving DecidableEq, Repr

/-- What a listing of the columns of a bucket says of one. -/
def SampledColumn.json (c : SampledColumn) : Json :=
  .object [("name", .text c.name), ("type", .int c.tag.code), ("typeName", .text c.tag.name)]

def escapeKeyChar (c : Char) : List Char := if c == '\\' || c == '.' then ['\\', c] else [c]

/-- A key with its full stops and backslashes escaped. -/
def escapeKey (key : String) : String := .ofList (key.toList.flatMap escapeKeyChar)

/-- The name of a field of an object that has a name itself, or none. -/
def qualify (parent : Option String) (key : String) : String :=
  match parent with
  | some p => p ++ "." ++ escapeKey key
  | none => escapeKey key

/-- Notes a value: a new name goes to the end, and a null is replaced. -/
def note (name : String) (tag : Tag) : List SampledColumn → List SampledColumn
  | [] => [⟨name, tag⟩]
  | c :: rest =>
    if c.name == name then (if c.tag == .null then ⟨name, tag⟩ else c) :: rest
    else c :: note name tag rest

mutual

def collectValue (name : String) : Json → List SampledColumn → List SampledColumn
  | .object members, columns => collectFields (some name) members columns
  | _, columns => columns

/-- Notes the fields of an object, each before the fields within it. -/
def collectFields (parent : Option String) :
    List (String × Json) → List SampledColumn → List SampledColumn
  | [], columns => columns
  | (key, v) :: rest, columns =>
    let name := qualify parent key
    collectFields parent rest (collectValue name v (note name (.of v) columns))

end

/-- The columns of a list of documents; only objects have any. -/
def collectColumns (documents : List Json) : List SampledColumn :=
  documents.foldl (fun columns d => match d with
    | .object members => collectFields none members columns
    | _ => columns) []

end KeyspaceLink

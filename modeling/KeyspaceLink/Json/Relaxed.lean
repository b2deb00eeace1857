import KeyspaceLink.Text.Blank

/-! Relaxed JSON made strict. A member name may stand without quotes, and any text may
stand between single quotes; both become texts in double quotes, and the rest is kept. -/

namespace KeyspaceLink.Json

def startsName (c : Char) : Bool := c.isAlpha || c == '_' || c == '$'

def continuesName (c : Char) : Bool := startsName c || c.isDigit

/-- Where a character stands. A word is a member name if a colon follows it. -/
inductive Place
  | outside
  | word (names : Bool)
  | doubleQuoted
  | singleQuoted
deriving DecidableEq, Repr

/-- Whether a colon comes next, after the rest of the word and blanks. -/
def namesMember (s : List Char) : Bool :=
  ((s.dropWhile continuesName).dropWhile isBlank).head? == some ':'

def nameQuote (names : Bool) : List Char := if names then ['"'] else []

/-- Mends a text from a place in it. A text in single quotes that does not end is
closed all the same. -/
def relaxFrom : Place → List Char → List Char
  | .outside, [] => []
  | .outside, c :: r =>
    if c == '"' then c :: relaxFrom .doubleQuoted r
    else if c == '\'' then '"' :: relaxFrom .singleQuoted r
    else if startsName c then
      let names := namesMember r
      nameQuote names ++ c ::
        (if r.head?.any continuesName then relaxFrom (.word names) r
        else nameQuote names ++ relaxFrom .outside r)
    else c :: relaxFrom .outside r
  | .word _, [] => []
  | .word names, c :: r =>
    c :: (if r.head?.any continuesName then relaxFrom (.word names) r
      else nameQuote names ++ relaxFrom .outside r)
  | .doubleQuoted, [] => []
  | .doubleQuoted, '\\' :: c :: r => '\\' :: c :: relaxFrom .doubleQuoted r
  | .doubleQuoted, c :: r =>
    c :: (if c == '"' then relaxFrom .outside r else relaxFrom .doubleQuoted r)
  | .singleQuoted, [] => ['"']
  | .singleQuoted, '\\' :: c :: r =>
    if c == '\'' then c :: relaxFrom .singleQuoted r
    else '\\' :: c :: relaxFrom .singleQuoted r
  | .singleQuoted, c :: r =>
    if c == '\'' then '"' :: relaxFrom .outside r
    else if c == '"' then '\\' :: c :: relaxFrom .singleQuoted r
    else c :: relaxFrom .singleQuoted r

/-- A relaxed text in strict form; a strict text stays as it is. -/
def relax (s : List Char) : List Char := relaxFrom .outside s

end KeyspaceLink.Json

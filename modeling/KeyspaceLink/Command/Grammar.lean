import KeyspaceLink.Command.Basic
import KeyspaceLink.Failure
import KeyspaceLink.Text.Blank

/-! Reading commands. Words stand in any case with blanks between them, a semicolon may
end the command, and each clause is told from the next by its first word. -/

namespace KeyspaceLink.Grammar

/-- One blank or more. -/
def gap : List Char → Option (List Char)
  | [] => none
  | c :: s => if isBlank c then some (s.dropWhile isBlank) else none

def nextWord (word s : List Char) : Option (List Char) := (gap s).bind (dropWord word)

def nextWords : List (List Char) → List Char → Option (List Char)
  | [], s => some s
  | w :: ws, s => (nextWord w s).bind (nextWords ws)

def bucketWord : List Char := ['b', 'u', 'c', 'k', 'e', 't']
def tableWord : List Char := ['t', 'a', 'b', 'l', 'e']
def withWord : List Char := ['w', 'i', 't', 'h']
def describeWord : List Char := ['d', 'e', 's', 'c', 'r', 'i', 'b', 'e']
def columnsWord : List Char := ['c', 'o', 'l', 'u', 'm', 'n', 's']
def settingsWord : List Char := ['s', 'e', 't', 't', 'i', 'n', 'g', 's']
def limitWord : List Char := ['l', 'i', 'm', 'i', 't']
def offsetWord : List Char := ['o', 'f', 'f', 's', 'e', 't']

def indexClause : List (List Char) :=
  [withWord, ['p', 'r', 'i', 'm', 'a', 'r', 'y'], ['i', 'n', 'd', 'e', 'x']]

def waitClause : List (List Char) :=
  [['w', 'a', 'i', 't'], ['u', 'n', 't', 'i', 'l'], ['r', 'e', 'a', 'd', 'y']]

/-- A clause that may be left out: whether it stands there, and the rest. -/
def optional (clause : List (List Char)) (s : List Char) : Bool × List Char :=
  match nextWords clause s with
  | some rest => (true, rest)
  | none => (false, s)

def bucketOrTable (s : List Char) : Option (List Char) :=
  (nextWord bucketWord s).or (nextWord tableWord s)

def isNameChar (c : Char) : Bool :=
  isLetter c || c.isDigit || c == '_' || c == '.' || c == '%' || c == '-'

def name (s : List Char) : Option (String × List Char) :=
  match s with
  | '\x60' :: r =>
    match r.takeWhile isNameChar, r.dropWhile isNameChar with
    | c :: n, '\x60' :: rest => some (.ofList (c :: n), rest)
    | _, _ => none
  | _ =>
    match s.takeWhile isNameChar with
    | [] => none
    | n => some (.ofList n, s.dropWhile isNameChar)

/-- A name, perhaps after letters and a colon. -/
def keyspace (s : List Char) : Option (Keyspace × List Char) :=
  match s.takeWhile isLetter, s.dropWhile isLetter with
  | c :: schema, ':' :: r =>
    (name r).map fun (n, rest) => (⟨some (.ofList (c :: schema)), n⟩, rest)
  | _, _ => (name s).map fun (n, rest) => (⟨none, n⟩, rest)

def isEnd (s : List Char) : Bool :=
  match s.dropWhile isBlank with
  | ';' :: r => r.all isBlank
  | r => r.isEmpty

def nextKeyspace (s : List Char) : Option (Keyspace × List Char) := (gap s).bind keyspace

/-- A block in braces, through the last closing brace of the text. -/
def block : List Char → Option (List Char × List Char)
  | '\x7b' :: r =>
    let back := r.reverse.dropWhile (· != '\x7d')
    if back.isEmpty then none
    else some ('\x7b' :: back.reverse, r.drop back.length)
  | _ => none

/-- The settings, if their first word stands there. -/
def settingsClause (s : List Char) : Option (Option String × List Char) :=
  match nextWord withWord s with
  | none => some (none, s)
  | some r => ((gap r).bind block).map fun (b, rest) => (some (.ofList b), rest)

def createBucket? (s : List Char) : Option CreateBucket := do
  let s ← dropWord ['c', 'r', 'e', 'a', 't', 'e'] s
  let s ← bucketOrTable s
  let (primaryIndex, s) := optional indexClause s
  let (table, s) ← nextKeyspace s
  let (waitBefore, s) := optional waitClause s
  let (settings, s) ← settingsClause s
  let (waitAfter, s) := optional waitClause s
  guard (isEnd s)
  some ⟨table, primaryIndex, waitBefore || waitAfter, settings⟩

def dropBucket? (s : List Char) : Option DropBucket := do
  let s ← dropWord ['d', 'r', 'o', 'p'] s
  let s ← bucketOrTable s
  let (table, s) ← nextKeyspace s
  guard (isEnd s)
  some ⟨table⟩

def lastKeyspace (s : List Char) : Option Keyspace := do
  let (table, s) ← nextKeyspace s
  guard (isEnd s)
  some table

/-- What to describe. The word for columns has to be in ASCII letters. -/
def describeTarget (s : List Char) : Option (DescribeTarget × List Char) :=
  match nextWord columnsWord s with
  | some rest =>
    let written := (s.dropWhile isBlank).take columnsWord.length
    some (if written.map Char.toLower == columnsWord then .columns else .settings, rest)
  | none => (nextWord settingsWord s).map fun rest => (.settings, rest)

/-- A target counts only if a keyspace follows it; else its word is the name itself. -/
def describeBucket? (s : List Char) : Option DescribeBucket := do
  let s ← dropWord describeWord s
  let s ← nextWord bucketWord s
  let targeted := do
    let (target, r) ← describeTarget s
    let table ← lastKeyspace r
    some (DescribeBucket.mk target table)
  targeted.or ((lastKeyspace s).map (DescribeBucket.mk .settings))

def describesIndexes (s : List Char) : Bool :=
  ((dropWord describeWord s).bind (nextWord ['i', 'n', 'd', 'e', 'x', 'e', 's'])).any isEnd

/-- A number after a word, as written: a run of digits of any script. -/
def numberClause (word s : List Char) : Option (List Char × List Char) := do
  let r ← nextWord word s
  let r ← gap r
  guard (!(r.takeWhile isDecimalDigit).isEmpty)
  some (r.takeWhile isDecimalDigit, r.dropWhile isDecimalDigit)

def optionalNumber (word s : List Char) : Option (List Char) × List Char :=
  match numberClause word s with
  | some (digits, rest) => (some digits, rest)
  | none => (none, s)

/-- The shape of a request for keys, its numbers as written. -/
def getKeysShape? (s : List Char) :
    Option (Keyspace × Option (List Char) × Option (List Char)) := do
  let s ← dropWord ['g', 'e', 't'] s
  let s ← nextWords [['k', 'e', 'y', 's'], ['f', 'r', 'o', 'm']] s
  let (table, s) ← nextKeyspace s
  let (limit, s) := optionalNumber limitWord s
  let (offset, s) := optionalNumber offsetWord s
  guard (isEnd s)
  some (table, limit, offset)

def readNumber (what : String) : Option (List Char) → Except Failure (Option Nat)
  | none => .ok none
  | some digits =>
    match readDigits? word64 digits with
    | some n => .ok (some n)
    | none => .error (.malformed ("Invalid " ++ what ++ " value: " ++ .ofList digits))

/-- A request for keys; one whose numbers are too large or in another script is refused. -/
def getKeys (s : List Char) : Except Failure (Option GetKeys) :=
  match getKeysShape? s with
  | none => .ok none
  | some (table, limit, offset) => do
    let limit ← readNumber "limit" limit
    let offset ← readNumber "offset" offset
    .ok (some ⟨table, limit, offset⟩)

def read (kind : CommandKind) (sql : String) : Except Failure (Option Command) :=
  let s := sql.toList
  match kind with
  | .createBucket => .ok ((createBucket? s).map .createBucket)
  | .dropBucket => .ok ((dropBucket? s).map .dropBucket)
  | .describeBucket => .ok ((describeBucket? s).map .describeBucket)
  | .describeIndexes => .ok (if describesIndexes s then some .describeIndexes else none)
  | .getKeys => (getKeys s).map (Option.map .getKeys)

end KeyspaceLink.Grammar

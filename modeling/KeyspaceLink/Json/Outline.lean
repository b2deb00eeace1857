import KeyspaceLink.Json.Number
import KeyspaceLink.Json.Refusal
import KeyspaceLink.Text.Percent

/-! The outline of a JSON text: its nesting, with every member as written and every leaf
read on its own. A leaf that denotes no value spoils the text only if it is used. -/

namespace KeyspaceLink.Json

inductive Outline
  | null
  | bool (b : Bool)
  | number (value : Except Refusal Json)
  | text (value : Except Refusal String)
  | list (items : List Outline)
  | object (members : List (Except Refusal String × Outline))

instance : Inhabited Outline := ⟨.null⟩

def isSpace (c : Char) : Bool := c == ' ' || c == '\n' || c == '\t' || c == '\r'

def skip (s : List Char) : List Char := s.dropWhile isSpace

def refuse (reason : Reason) (rest : List Char) : Except Refusal α :=
  .error ⟨reason, rest, false⟩

def refuseNext (reason : Reason) (rest : List Char) : Except Refusal α :=
  .error ⟨reason, rest, true⟩

def hexValue4? (a b c d : Char) : Option Nat := do
  some ((← hexValue? a) * 4096 + (← hexValue? b) * 256 + (← hexValue? c) * 16 + (← hexValue? d))

/-- One element of a text as written: a character, an escape, or a code unit. -/
inductive Piece
  | char (c : Char)
  | unit (n : Nat)
deriving DecidableEq, Repr

def simpleEscape? (c : Char) : Option Char :=
  if c == '"' || c == '\\' || c == '/' then some c
  else if c == 'b' then some '\x08'
  else if c == 'f' then some '\x0c'
  else if c == 'n' then some '\n'
  else if c == 'r' then some '\r'
  else if c == 't' then some '\t'
  else none

def textPieces : List Char → Except Refusal (List Piece × List Char)
  | [] => refuse .endInText []
  | '"' :: r => .ok ([], r)
  | '\\' :: 'u' :: a :: b :: c :: d :: r =>
    match hexValue4? a b c d with
    | some n => do let (ps, rest) ← textPieces r; .ok (.unit n :: ps, rest)
    | none => refuse .badEscape r
  | '\\' :: 'u' :: _ => refuse .endInText []
  | '\\' :: e :: r =>
    match simpleEscape? e with
    | some c => do let (ps, rest) ← textPieces r; .ok (.char c :: ps, rest)
    | none => refuse .badEscape r
  | '\\' :: [] => refuse .endInText []
  | c :: r =>
    if c.toNat < 32 then refuse .controlInText r
    else do let (ps, rest) ← textPieces r; .ok (.char c :: ps, rest)

/-- Joins code units: a leading surrogate needs a trailing one right after it. -/
def joinPieces : List Piece → Except Reason (List Char)
  | [] => .ok []
  | .char c :: ps => do .ok (c :: (← joinPieces ps))
  | .unit n :: ps =>
    if 0xDC00 ≤ n && n ≤ 0xDFFF then .error .loneSurrogate
    else if 0xD800 ≤ n && n ≤ 0xDBFF then
      match ps with
      | .unit m :: ps' =>
        if 0xDC00 ≤ m && m ≤ 0xDFFF then do
          .ok (Char.ofNat (0x10000 + (n - 0xD800) * 1024 + (m - 0xDC00)) :: (← joinPieces ps'))
        else .error .loneSurrogate
      | _ => .error .halfSurrogate
    else do .ok (Char.ofNat n :: (← joinPieces ps))

def readText (s : List Char) : Except Refusal (Except Refusal String × List Char) := do
  let (ps, rest) ← textPieces s
  .ok ((match joinPieces ps with
    | .ok cs => .ok (.ofList cs)
    | .error reason => refuse reason rest), rest)

def spanDigits (s : List Char) : List Char × List Char := s.span Char.isDigit

def someDigits (s : List Char) : Except Refusal (List Char × List Char) :=
  match spanDigits s with
  | ([], []) => refuse .endInValue []
  | ([], c :: r) => refuseNext .badNumber (c :: r)
  | (ds, rest) => .ok (ds, rest)

/-- The whole part: a zero alone, or digits that do not start with one. -/
def wholeDigits : List Char → Except Refusal (List Char × List Char)
  | [] => refuse .endInValue []
  | '0' :: c :: r => if c.isDigit then refuseNext .badNumber (c :: r) else .ok (['0'], c :: r)
  | s => someDigits s

def isPowerMark (c : Char) : Bool := c == 'e' || c == 'E'

/-- What may follow the point. -/
def powerPart (negative : Bool) (whole : List Char) (fraction : Option (List Char))
    (s : List Char) : Except Refusal (Literal × List Char) :=
  match s with
  | [] => .ok (⟨negative, whole, fraction, none⟩, [])
  | c :: r =>
    if isPowerMark c then do
      let (down, digits) := match r with
        | '+' :: r' => (false, r')
        | '-' :: r' => (true, r')
        | r' => (false, r')
      let (ds, rest) ← someDigits digits
      .ok (⟨negative, whole, fraction, some (down, ds)⟩, rest)
    else .ok (⟨negative, whole, fraction, none⟩, c :: r)

def readLiteral (negative : Bool) (s : List Char) : Except Refusal (Literal × List Char) := do
  let (whole, rest) ← wholeDigits s
  match rest with
  | '.' :: r =>
    let (ds, rest') ← someDigits r
    powerPart negative whole (some ds) rest'
  | r => powerPart negative whole none r

def readNumber (negative : Bool) (s : List Char) : Except Refusal (Outline × List Char) := do
  let (l, rest) ← readLiteral negative s
  .ok (.number (match l.value? with
    | some v => .ok v
    | none => refuse .numberTooLarge rest), rest)

/-- The rest of a word such as `null`, once its first letter is read. -/
def readWord (value : Outline) : List Char → List Char → Except Refusal (Outline × List Char)
  | [], s => .ok (value, s)
  | _ :: _, [] => refuse .endInValue []
  | w :: word, c :: s => if c == w then readWord value word s else refuse .unknownWord s

mutual

/-- One value. Every step reads a character or opens a bracket, so twice the length of the
text is fuel enough. -/
def readValue : Nat → List Char → Except Refusal (Outline × List Char)
  | 0, s => refuse .endInValue s
  | fuel + 1, s =>
    match skip s with
    | [] => refuse .endInValue []
    | 'n' :: r => readWord .null ['u', 'l', 'l'] r
    | 't' :: r => readWord (.bool true) ['r', 'u', 'e'] r
    | 'f' :: r => readWord (.bool false) ['a', 'l', 's', 'e'] r
    | '-' :: r => readNumber true r
    | '"' :: r => do let (t, rest) ← readText r; .ok (.text t, rest)
    | '[' :: r =>
      match skip r with
      | ']' :: r' => .ok (.list [], r')
      | r' => do let (items, rest) ← readItems fuel r'; .ok (.list items, rest)
    | '\x7b' :: r =>
      match skip r with
      | '\x7d' :: r' => .ok (.object [], r')
      | r' => do let (members, rest) ← readMembers fuel r'; .ok (.object members, rest)
    | c :: r => if c.isDigit then readNumber false (c :: r) else refuseNext .valueMissing (c :: r)

/-- The items of a list, from one that has to come, through the closing bracket. -/
def readItems : Nat → List Char → Except Refusal (List Outline × List Char)
  | 0, s => refuse .endInList s
  | fuel + 1, s =>
    match skip s with
    | [] => refuse .endInList []
    | c :: r => do
      let (v, rest) ← readValue fuel (c :: r)
      match skip rest with
      | [] => refuse .endInList []
      | ']' :: r' => .ok ([v], r')
      | ',' :: r' =>
        match skip r' with
        | [] => refuse .endInValue []
        | ']' :: r'' => refuseNext .trailingComma (']' :: r'')
        | r'' => do let (vs, rest') ← readItems fuel r''; .ok (v :: vs, rest')
      | r' => refuseNext .listSeparatorMissing r'

/-- The members of an object, from one that has to come, through the closing brace. -/
def readMembers :
    Nat → List Char → Except Refusal (List (Except Refusal String × Outline) × List Char)
  | 0, s => refuse .endInObject s
  | fuel + 1, s =>
    match skip s with
    | [] => refuse .endInObject []
    | '"' :: r => do
      let (key, rest) ← readText r
      match skip rest with
      | [] => refuse .endInObject []
      | ':' :: r' => do
        let (v, rest') ← readValue fuel r'
        match skip rest' with
        | [] => refuse .endInObject []
        | '\x7d' :: r'' => .ok ([(key, v)], r'')
        | ',' :: r'' =>
          match skip r'' with
          | [] => refuse .endInValue []
          | '\x7d' :: t => refuseNext .trailingComma ('\x7d' :: t)
          | t => do let (ms, rest'') ← readMembers fuel t; .ok ((key, v) :: ms, rest'')
        | r'' => refuseNext .objectSeparatorMissing r''
      | r' => refuseNext .colonMissing r'
    | c :: r => refuseNext .keyMissing (c :: r)

end

def outline (s : List Char) : Except Refusal Outline := do
  let (v, rest) ← readValue (2 * s.length + 1) s
  match skip rest with
  | [] => .ok v
  | r => refuseNext .trailingText r

mutual

/-- The value of an outline with at most `depth` levels of lists and objects. -/
def Outline.value : Nat → Outline → Except Refusal Json
  | _, .null => .ok .null
  | _, .bool b => .ok (.bool b)
  | _, .number n => n
  | _, .text t => do .ok (.text (← t))
  | 0, .list _ => refuse .tooDeep []
  | depth + 1, .list items => do .ok (.list (← Outline.values depth items))
  | 0, .object _ => refuse .tooDeep []
  | depth + 1, .object members => do .ok (.object (collect (← Outline.members depth members)))

def Outline.values : Nat → List Outline → Except Refusal (List Json)
  | _, [] => .ok []
  | depth, v :: vs => do
    let w ← Outline.value depth v
    .ok (w :: (← Outline.values depth vs))

def Outline.members :
    Nat → List (Except Refusal String × Outline) → Except Refusal (List (String × Json))
  | _, [] => .ok []
  | depth, (k, v) :: rest => do
    let name ← k
    let w ← Outline.value depth v
    .ok ((name, w) :: (← Outline.members depth rest))

end

/-- Lists and objects nest at most this deep. -/
def depthLimit : Nat := 127

def parseChars (s : List Char) : Except Refusal Json := do (← outline s).value depthLimit

def parse (s : String) : Except String Json :=
  (parseChars s.toList).mapError fun r => r.message s.toList

def parse? (s : String) : Option Json := (parseChars s.toList).toOption

end KeyspaceLink.Json

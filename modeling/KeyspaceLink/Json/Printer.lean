import KeyspaceLink.Json.Basic
import KeyspaceLink.Decimal.Notation

/-! JSON written compactly: no blanks, members in their order, and escapes only for the
quote, the backslash and the controls. -/

namespace KeyspaceLink.Json

def lowerHex (n : Nat) : Char :=
  if n < 10 then Char.ofNat (48 + n) else Char.ofNat (87 + n)

def escapeChar (c : Char) : List Char :=
  if c == '"' then ['\\', '"']
  else if c == '\\' then ['\\', '\\']
  else if c == '\x08' then ['\\', 'b']
  else if c == '\x0c' then ['\\', 'f']
  else if c == '\n' then ['\\', 'n']
  else if c == '\r' then ['\\', 'r']
  else if c == '\t' then ['\\', 't']
  else if c.toNat < 32 then
    ['\\', 'u', '0', '0', lowerHex (c.toNat / 16), lowerHex (c.toNat % 16)]
  else [c]

def writeText (s : String) : List Char := '"' :: s.toList.flatMap escapeChar ++ ['"']

def writeInt (i : Int) : List Char :=
  if 0 ≤ i then digitsOf i.toNat else '-' :: digitsOf i.natAbs

/-- Positional for exponents from -5 to 15, with a plus sign past them. -/
def numberStyle : DecimalStyle := ⟨-5, 15, true⟩

mutual

def write : Json → List Char
  | null => ['n', 'u', 'l', 'l']
  | bool true => ['t', 'r', 'u', 'e']
  | bool false => ['f', 'a', 'l', 's', 'e']
  | int i => writeInt i
  | float x => (numberStyle.float x).toList
  | text s => writeText s
  | list items => '[' :: writeItems items ++ [']']
  | object members => '\x7b' :: writeMembers members ++ ['\x7d']

def writeItems : List Json → List Char
  | [] => []
  | v :: rest => write v ++ (match rest with
    | [] => []
    | w :: more => ',' :: writeItems (w :: more))

def writeMembers : List (String × Json) → List Char
  | [] => []
  | (k, v) :: rest => writeText k ++ ':' :: write v ++ (match rest with
    | [] => []
    | m :: more => ',' :: writeMembers (m :: more))

end

def print (v : Json) : String := .ofList v.write

end KeyspaceLink.Json

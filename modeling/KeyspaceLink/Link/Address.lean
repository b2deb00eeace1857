import KeyspaceLink.Decimal.Notation
import KeyspaceLink.Text.Digits
import KeyspaceLink.Text.Percent
import KeyspaceLink.Text.Split

/-! Numeric addresses of hosts, read in every form an authority may give them and written
in one. -/

namespace KeyspaceLink.Address

def hexNumber? (s : List Char) : Option Nat :=
  s.foldlM (fun n c => (hexValue? c).map (n * 16 + ·)) 0

def octalNumber? (s : List Char) : Option Nat :=
  s.foldlM (fun n c => if '0' ≤ c && c ≤ '7' then some (n * 8 + (c.toNat - 48)) else none) 0

/-- A part of an address of four octets: decimal, octal after a zero, hexadecimal after
a zero and an x. -/
def part? : List Char → Option Nat
  | [] => none
  | '0' :: x :: r => if x == 'x' || x == 'X' then hexNumber? r else octalNumber? (x :: r)
  | s => if s.all Char.isDigit then some (digitsValue 0 s) else none

/-- The parts between full stops; an empty part at the end does not count. -/
def parts (s : List Char) : List (List Char) :=
  match (pieces (· == '.') s).reverse with
  | [] :: p :: rest => (p :: rest).reverse
  | ps => ps.reverse

/-- Whether a host can only be an address of four octets, as its last part is a number. -/
def endsInNumber (s : List Char) : Bool :=
  match (parts s).getLast? with
  | some last => (!last.isEmpty && last.all Char.isDigit) || (part? last).isSome
  | none => false

/-- The value of parts, the first of which stands `place` octets from the end: each fills
one octet, and the last all that are left. -/
def joinParts : Nat → List Nat → Option Nat
  | _, [] => none
  | place, [last] => if last < Nat.pow 256 (place + 1) then some last else none
  | 0, _ :: _ :: _ => none
  | place + 1, v :: w :: rest =>
    if v < 256 then (joinParts place (w :: rest)).map (v * Nat.pow 256 (place + 1) + ·) else none

/-- An address of four octets. -/
def readFour? (s : List Char) : Option Nat := do joinParts 3 (← (parts s).mapM part?)

def writeFour (n : Nat) : List Char :=
  List.intercalate ['.']
    ([n / 16777216, n / 65536 % 256, n / 256 % 256, n % 256].map digitsOf)

/-- A group of an address of eight groups: one to four hexadecimal digits. -/
def group? (s : List Char) : Option Nat :=
  if s.isEmpty || 4 < s.length then none else hexNumber? s

/-- An octet in decimal digits, without zeros before them. -/
def octet? (s : List Char) : Option Nat :=
  match s with
  | '0' :: _ :: _ => none
  | s => readDigits? 256 s

/-- Four octets as two groups. -/
def fourGroups? (s : List Char) : Option (List Nat) := do
  match ← (pieces (· == '.') s).mapM octet? with
  | [a, b, c, d] => some [a * 256 + b, c * 256 + d]
  | _ => none

/-- Groups between colons; the last may be four octets. -/
def groups? : List (List Char) → Option (List Nat)
  | [] => some []
  | [last] => if last.contains '.' then fourGroups? last else (group? last).map ([·])
  | g :: h :: rest => do
    let n ← group? g
    let more ← groups? (h :: rest)
    some (n :: more)

def side? (s : List Char) : Option (List Nat) :=
  if s.isEmpty then some [] else groups? (pieces (· == ':') s)

def cutDoubleColon? : List Char → Option (List Char × List Char)
  | [] => none
  | c :: s =>
    match c, s with
    | ':', ':' :: r => some ([], r)
    | _, _ => (cutDoubleColon? s).map fun (before, after) => (c :: before, after)

/-- An address of eight groups; a double colon stands for the zeros left out. -/
def readEight? (s : List Char) : Option (List Nat) :=
  match cutDoubleColon? s with
  | some (before, after) => do
    let left ← if before.contains '.' then none else side? before
    let right ← side? after
    if left.length + right.length < 8 then
      some (left ++ List.replicate (8 - left.length - right.length) 0 ++ right)
    else none
  | none => do
    let all ← groups? (pieces (· == ':') s)
    if all.length = 8 then some all else none

def zeros (groups : List Nat) : Nat := (groups.takeWhile (· == 0)).length

/-- The first of the longest runs of zeros: where it begins and how long it is. -/
def longestZeros : Nat → List Nat → Nat × Nat
  | _, [] => (0, 0)
  | place, g :: rest =>
    let later := longestZeros (place + 1) rest
    if later.2 ≤ zeros (g :: rest) then (place, zeros (g :: rest)) else later

def writeGroup (n : Nat) : List Char := Nat.toDigits 16 n

def joinGroups (groups : List Nat) : List Char := List.intercalate [':'] (groups.map writeGroup)

/-- Groups in small hexadecimal digits; a run of two zeros or more becomes a double colon. -/
def writeEight (groups : List Nat) : List Char :=
  let (start, count) := longestZeros 0 groups
  if 2 ≤ count then
    joinGroups (groups.take start) ++ [':', ':'] ++ joinGroups (groups.drop (start + count))
  else joinGroups groups

end KeyspaceLink.Address

import KeyspaceLink.Link.HostCharacter
import KeyspaceLink.Link.Punycode
import KeyspaceLink.Text.Case
import KeyspaceLink.Text.Direction
import KeyspaceLink.Text.Joining
import KeyspaceLink.Text.NormalForm

/-! Names of hosts as they are asked for. A name may be written with any letters; each of
its labels is checked, and those with letters outside ASCII are written with ASCII ones. -/

namespace KeyspaceLink.HostName

/-- A label with this start tells characters outside ASCII. -/
def codedStart : List Char := ['x', 'n', '-', '-']

/-- The longest label that is coded, and the longest code that is read. -/
def longestLabel : Nat := 1000
def longestCode : Nat := 2000

/-- A text that no character in it changes further. -/
def isPlain (s : List Char) : Bool :=
  s.all (fun c => HostCharacter.read? c == some [c]) && normalForm s == s

/-- The characters of a label; a code stands for characters of which some are not in ASCII. -/
def decode? (label : List Char) : Option (List Char) :=
  match dropStart? codedStart label with
  | none => some label
  | some code =>
    if longestCode < code.length then none
    else (Punycode.read? code).filter fun s => !s.all Punycode.isBasic && isPlain s

def nonJoiner : Char := Char.ofNat 0x200C
def joiner : Char := Char.ofNat 0x200D

/-- Whether a joiner may stand between two texts, the former with its last character first:
after a sign that takes a vowel away, or to part letters that would join. -/
def mayJoin (c : Char) (before after : List Char) : Bool :=
  (before.head?.any isVirama) ||
    (c == nonJoiner &&
      (before.dropWhile Joining.isTransparent).head?.any Joining.joinsOnward &&
      (after.dropWhile Joining.isTransparent).head?.any Joining.joinsBackward)

def joinersFit (before : List Char) : List Char → Bool
  | [] => true
  | c :: after =>
    ((c != nonJoiner && c != joiner) || mayJoin c before after) && joinersFit (c :: before) after

def isSound (label : List Char) : Bool :=
  !label.head?.any isMark && joinersFit [] label &&
    (label.all Punycode.isBasic || label.length ≤ longestLabel)

/-- Whether the directions of a label go together; marks at its end do not count. -/
def directionsFit (label : List Char) : Bool :=
  let directions := label.map Direction.of
  let last := (directions.reverse.dropWhile (· == .mark)).head?
  match directions.head? with
  | none => true
  | some .leftToRight =>
    last.all (fun d => d == .leftToRight || d == .europeanNumber) &&
      directions.all fun d => d != .rightToLeft && d != .arabicNumber
  | some .rightToLeft =>
    last.all (fun d => d == .rightToLeft || d == .europeanNumber || d == .arabicNumber) &&
      !directions.contains .leftToRight &&
      !(directions.contains .europeanNumber && directions.contains .arabicNumber)
  | some _ => false

def turnsLeft (label : List Char) : Bool :=
  label.any fun c => Direction.of c == .rightToLeft || Direction.of c == .arabicNumber

def encode (label : List Char) : List Char :=
  if label.all Punycode.isBasic then label else codedStart ++ Punycode.write label

/-- A name in ASCII and in small letters, if all its labels are sound and, once one of them
turns to the left, their directions fit. -/
def read? (s : List Char) : Option (List Char) := do
  let plain ← s.mapM HostCharacter.read?
  let labels ← (pieces (· == '.') (normalForm plain.flatten)).mapM decode?
  if labels.all isSound && (!labels.any turnsLeft || labels.all directionsFit) then
    some (List.intercalate ['.'] (labels.map encode))
  else none

end KeyspaceLink.HostName

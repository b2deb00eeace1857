/-! Tables of characters, written as texts of numbers to the base 36. The characters of a
table stand in rising order, each told by its distance from the one before. -/

namespace KeyspaceLink.Table

def digit (c : Char) : Nat := if c ≤ '9' then c.toNat - 48 else c.toNat - 87

def number (s : List Char) : Nat := s.foldl (fun n c => n * 36 + digit c) 0

def words (s : String) : List (List Char) :=
  (((s.splitOn "\n").flatMap fun line => line.splitOn " ").map String.toList).filter (!·.isEmpty)

def numbers (s : String) : List Nat := (words s).map number

/-- A distance and a size tell a run of characters: where it begins and what follows it. -/
def runsFrom (place : Nat) : List Nat → List (Nat × Nat)
  | gap :: size :: rest => (place + gap, place + gap + size) :: runsFrom (place + gap + size) rest
  | _ => []

def runs (s : String) : List (Nat × Nat) := runsFrom 0 (numbers s)

def inRuns : List (Nat × Nat) → Char → Bool
  | [], _ => false
  | (start, stop) :: rest, c => start ≤ c.toNat && (c.toNat < stop || inRuns rest c)

/-- A distance, a size and a grade tell a run of characters of that grade. -/
def gradedFrom (place : Nat) : List Nat → List (Nat × Nat × Nat)
  | gap :: size :: grade :: rest =>
    (place + gap, place + gap + size, grade) :: gradedFrom (place + gap + size) rest
  | _ => []

def graded (s : String) : List (Nat × Nat × Nat) := gradedFrom 0 (numbers s)

def grade : List (Nat × Nat × Nat) → Char → Nat
  | [], _ => 0
  | (start, stop, g) :: rest, c =>
    if c.toNat < start then 0 else if c.toNat < stop then g else grade rest c

/-- A word after a plus sign passes over so many characters; any other word tells what the
next character stands for, with full stops between its parts. -/
def entriesFrom (place : Nat) : List (List Char) → List (Nat × List Char)
  | [] => []
  | ('+' :: gap) :: rest => entriesFrom (place + number gap) rest
  | word :: rest =>
    (place, ((String.ofList word).splitOn ".").map fun s => Char.ofNat (number s.toList)) ::
      entriesFrom (place + 1) rest

def entries (s : String) : List (Nat × List Char) := entriesFrom 0 (words s)

def entry? : List (Nat × List Char) → Char → Option (List Char)
  | [], _ => none
  | (n, s) :: rest, c =>
    if c.toNat < n then none else if c.toNat = n then some s else entry? rest c

end KeyspaceLink.Table

import KeyspaceLink.Text.Split

/-! Labels of names in ASCII. A label is written as its ASCII characters, followed by where
each of the others is to be put in, in rising order. -/

namespace KeyspaceLink.Punycode

/-- A digit of base 36: letters first. -/
def digit (d : Nat) : Char := if d < 26 then Char.ofNat (97 + d) else Char.ofNat (22 + d)

def digitValue? (c : Char) : Option Nat :=
  if c.isLower then some (c.toNat - 97)
  else if c.isDigit then some (c.toNat - 22)
  else none

/-- A digit below the threshold is the last one of its number. -/
def threshold (k bias : Nat) : Nat := max 1 (min 26 (k - bias))

theorem threshold_pos (k bias : Nat) : 0 < threshold k bias := by
  unfold threshold
  omega

/-- A number whose thresholds start at `k`. -/
def digits (bias k q : Nat) : List Char :=
  let t := threshold k bias
  if q < t then [digit q]
  else digit (t + (q - t) % (36 - t)) :: digits bias (k + 36) ((q - t) / (36 - t))
termination_by q
decreasing_by
  have ht := threshold_pos k bias
  have hd := Nat.div_le_self (q - threshold k bias) (36 - threshold k bias)
  omega

/-- How often a step is divided by 35 until it is small, 36 for each time, and what is left. -/
def damp (delta k : Nat) : Nat × Nat :=
  if 455 < delta then damp (delta / 35) (k + 36) else (delta, k)
termination_by delta

/-- The bias after a step, from the number of characters in place. -/
def adapt (delta count : Nat) (first : Bool) : Nat :=
  let delta := if first then delta / 700 else delta / 2
  let (delta, k) := damp (delta + delta / count) 0
  k + 36 * delta / (delta + 38)

/-- What is written so far; `count` characters are in place, `start` of them from the start. -/
structure State where
  written : List Char := []
  delta : Nat := 0
  bias : Nat := 72
  start : Nat
  count : Nat

/-- Passes one character while those with the code `m` are put in. -/
def State.pass (m : Nat) (s : State) (c : Char) : State :=
  if c.toNat < m then { s with delta := s.delta + 1 }
  else if c.toNat == m then
    { s with
      written := s.written ++ digits s.bias 36 s.delta
      delta := 0
      bias := adapt s.delta (s.count + 1) (s.count == s.start)
      count := s.count + 1 }
  else s

/-- Puts in the characters of each code in turn; those below `n` are in place. -/
def putIn (label : List Char) (n : Nat) (s : State) : List Nat → State
  | [] => s
  | m :: codes =>
    let s := { s with delta := s.delta + (m - n) * (s.count + 1) }
    let s := label.foldl (State.pass m) s
    putIn label (m + 1) { s with delta := s.delta + 1 } codes

def isBasic (c : Char) : Bool := c.toNat < 128

def write (label : List Char) : List Char :=
  let basic := label.filter isBasic
  let codes := ((label.filter (!isBasic ·)).map Char.toNat).mergeSort.eraseReps
  let s := putIn label 128 { start := basic.length, count := basic.length } codes
  basic ++ (if basic.isEmpty then [] else ['-']) ++ s.written

def largestWeight : Nat := 4294967295

/-- A label being read: the characters in place, the code and the place of the last one put
in, and the number whose digits come next, with the weight and the threshold of the next one. -/
structure Reading where
  label : List Char
  code : Nat := 128
  place : Nat := 0
  bias : Nat := 72
  number : Nat := 0
  weight : Nat := 1
  k : Nat := 36

namespace Reading

/-- Puts a character in, as far from the last one as the number tells. -/
def put (r : Reading) (number : Nat) : Option Reading :=
  let count := r.label.length + 1
  let code := r.code + (r.place + number) / count
  let place := (r.place + number) % count
  if code.isValidChar then
    some
      { label := r.label.take place ++ Char.ofNat code :: r.label.drop place
        code
        place := place + 1
        bias := adapt number count (r.place == 0) }
  else none

def next (r : Reading) (c : Char) : Option Reading := do
  let d ← digitValue? c
  let number := r.number + d * r.weight
  let t := threshold r.k r.bias
  if d < t then r.put number
  else if largestWeight < r.weight * (36 - t) then none
  else some { r with number, weight := r.weight * (36 - t), k := r.k + 36 }

end Reading

/-- The ASCII characters of a label and its numbers; no hyphen stands before numbers alone. -/
def splitBasic (s : List Char) : List Char × List Char :=
  match cutLast? '-' s with
  | some (c :: basic, numbers) => (c :: basic, numbers)
  | _ => ([], s)

/-- Reads a label; its last number must be whole. -/
def read? (s : List Char) : Option (List Char) := do
  let (basic, numbers) := splitBasic s
  let r ← numbers.foldlM Reading.next { label := basic }
  if basic.all isBasic && r.k == 36 then some r.label else none

end KeyspaceLink.Punycode

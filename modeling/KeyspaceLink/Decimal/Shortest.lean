import KeyspaceLink.Text.Digits

/-! The fewest decimal digits that read back as a given double. A finite positive
double is `m * 2 ^ q`; the reals that round to it fill an interval around it, and
the grids of one digit, two digits and so on are tried for a point inside. -/

namespace KeyspaceLink

/-- A decimal `digits * 10 ^ exponent`, without zeros at the end of its digits. -/
structure Decimal where
  digits : Nat
  exponent : Int
deriving DecidableEq, Repr

/-- The fraction `num / den`. -/
structure Ratio where
  num : Nat
  den : Nat
deriving DecidableEq, Repr

/-- `n * 2 ^ q` -/
def Ratio.dyadic (n : Nat) (q : Int) : Ratio :=
  if 0 ≤ q then ⟨n * Nat.pow 2 q.toNat, 1⟩ else ⟨n, Nat.pow 2 (-q).toNat⟩

/-- `n * 10 ^ e` -/
def Ratio.decimal (n : Nat) (e : Int) : Ratio :=
  if 0 ≤ e then ⟨n * Nat.pow 10 e.toNat, 1⟩ else ⟨n, Nat.pow 10 (-e).toNat⟩

def Ratio.lt (a b : Ratio) : Bool := a.num * b.den < b.num * a.den

def Ratio.le (a b : Ratio) : Bool := a.num * b.den ≤ b.num * a.den

/-- The whole part of `r / 10 ^ e`. -/
def Ratio.gridFloor (r : Ratio) (e : Int) : Nat :=
  if 0 ≤ e then r.num / (r.den * Nat.pow 10 e.toNat)
  else r.num * Nat.pow 10 (-e).toNat / r.den

/-- The reals that round to a double; the ends belong to it when `closed`. -/
structure Interval where
  low : Ratio
  high : Ratio
  closed : Bool

def Interval.holds (i : Interval) (r : Ratio) : Bool :=
  if i.closed then i.low.le r && r.le i.high else i.low.lt r && r.lt i.high

/-- The bit that a normal double leaves unwritten: two to the power of 52. -/
def hiddenBit : Nat := 4503599627370496

/-- Where the spacing of doubles changes, at a power of two, the lower half of the
interval is half as wide. -/
def roundingInterval (m : Nat) (q : Int) : Interval :=
  let narrow := m == hiddenBit && (-1074 : Int) < q
  { low := .dyadic (4 * m - if narrow then 1 else 2) (q - 2)
    high := .dyadic (4 * m + 2) (q - 2)
    closed := m % 2 == 0 }

/-- The exponent of the first digit: `10 ^ k ≤ r < 10 ^ (k + 1)`. -/
def leadingExponent (r : Ratio) : Int :=
  if r.den ≤ r.num then ((Nat.toDigits 10 (r.num / r.den)).length : Int) - 1
  else
    let d := ((Nat.toDigits 10 (r.den / r.num)).length : Int)
    if (Ratio.decimal 1 (1 - d)).le r then 1 - d else -d

/-- How far `n * 10 ^ e` lies from `r`, times the denominators. -/
def gridDistance (r : Ratio) (n : Nat) (e : Int) : Nat :=
  let g := Ratio.decimal n e
  (r.num * g.den - g.num * r.den) + (g.num * r.den - r.num * g.den)

/-- The point of the grid `10 ^ e` next to `r` and inside the interval: of two, the
nearer one, and of two as near, the even one. -/
def gridPoint? (i : Interval) (r : Ratio) (e : Int) : Option Nat :=
  let n := r.gridFloor e
  let below := i.holds (.decimal n e)
  let above := i.holds (.decimal (n + 1) e)
  if below && above then
    let d := gridDistance r n e
    let d' := gridDistance r (n + 1) e
    some (if d < d' || (d == d' && n % 2 == 0) then n else n + 1)
  else if below then some n
  else if above then some (n + 1)
  else none

def stripZeros : Nat → Nat → Int → Decimal
  | 0, n, e => ⟨n, e⟩
  | fuel + 1, n, e => if n % 10 == 0 && n != 0 then stripZeros fuel (n / 10) (e + 1) else ⟨n, e⟩

/-- The first grid with a point in the interval, from `k` digits on; a grid of seventeen
digits is finer than the interval, so seventeen tries are enough. -/
def firstGrid (i : Interval) (r : Ratio) (lead : Int) : Nat → Nat → Decimal
  | 0, k => stripZeros 20 (r.gridFloor (lead - k + 1)) (lead - k + 1)
  | tries + 1, k =>
    match gridPoint? i r (lead - k + 1) with
    | some n => stripZeros 20 n (lead - k + 1)
    | none => firstGrid i r lead tries (k + 1)

/-- The shortest decimal of `m * 2 ^ q`, for a positive `m`. -/
def shortest (m : Nat) (q : Int) : Decimal :=
  let r := Ratio.dyadic m q
  firstGrid (roundingInterval m q) r (leadingExponent r) 17 1

structure Binary where
  negative : Bool
  significand : Nat
  exponent : Int
deriving DecidableEq, Repr

/-- Reads a double's bits; infinities and values that are no number have none. -/
def Binary.ofBits? (bits : UInt64) : Option Binary :=
  let n := bits.toNat
  let e : Nat := n / hiddenBit % 2048
  let f : Nat := n % hiddenBit
  let negative := n / word63 == 1
  if e == 2047 then none
  else if e == 0 then some ⟨negative, f, -1074⟩
  else some ⟨negative, hiddenBit + f, (e : Int) - 1075⟩

end KeyspaceLink

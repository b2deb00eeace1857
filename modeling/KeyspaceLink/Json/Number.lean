import KeyspaceLink.Json.Basic

/-! Numbers of a JSON text. The leading digits that fit a word are its significand, and
one power of ten scales that in double arithmetic; integers that fit stay exact. -/

namespace KeyspaceLink.Json

/-- The digits of a number as written. -/
structure Literal where
  negative : Bool
  whole : List Char
  fraction : Option (List Char)
  /-- Whether the exponent is negative, and its digits. -/
  power : Option (Bool × List Char)
deriving DecidableEq, Repr

/-- Reads digits into `acc` while it fits a word; the digits left over come back. -/
def fittingDigits (acc : Nat) : List Char → Nat × List Char
  | [] => (acc, [])
  | c :: s =>
    let next := acc * 10 + (c.toNat - 48)
    if next < word64 then fittingDigits next s else (acc, c :: s)

/-- Scales by a power of ten, in steps of at most 308 when dividing; a result past the
largest double is refused. -/
def scale : Nat → Float → Int → Option Float
  | fuel, x, e =>
    if e.natAbs ≤ 308 then
      let p := Float.ofScientific 1 false e.natAbs
      if 0 ≤ e then (let y := x * p; if y.isInf then none else some y) else some (x / p)
    else if x == 0.0 then some x
    else if 0 ≤ e then none
    else
      match fuel with
      | 0 => some 0.0
      | fuel + 1 => scale fuel (x / Float.ofScientific 1 false 308) (e + 308)

/-- Six steps of 308 take every double to zero. -/
def scaled (significand : Nat) (exponent : Int) : Option Float :=
  scale 6 (UInt64.ofNat significand).toFloat exponent

/-- Bounds of the exponents that are told apart. -/
def powerBound : Int := word31

def Literal.exponent (l : Literal) (start : Int) : Int :=
  match l.power with
  | none => start
  | some (down, digits) =>
    let e := (digitsValue 0 digits : Int)
    if down then max (start - e) (-powerBound) else min (start + e) (powerBound - 1)

def Literal.float? (l : Literal) : Option Float :=
  let (whole, rest) := fittingDigits 0 l.whole
  let (significand, extra) := fittingDigits whole (l.fraction.getD [])
  let used := (l.fraction.getD []).length - extra.length
  let huge := l.power.any fun p => powerBound ≤ digitsValue 0 p.2
  let magnitude :=
    if huge then
      if significand != 0 && l.power.any (fun p => !p.1) then none else some 0.0
    else scaled significand (l.exponent ((rest.length : Int) - used))
  magnitude.map fun x => if l.negative then -x else x

/-- The value of a literal; none when it lies past the largest double. -/
def Literal.value? (l : Literal) : Option Json :=
  if l.fraction.isNone && l.power.isNone then
    let (n, rest) := fittingDigits 0 l.whole
    if rest.isEmpty then
      if !l.negative then some (.int n)
      else if n != 0 && n ≤ word63 then some (.int (-(n : Int)))
      else some (.float (-(UInt64.ofNat n).toFloat))
    else l.float?.map .float
  else l.float?.map .float

end KeyspaceLink.Json

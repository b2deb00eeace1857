import KeyspaceLink.Decimal.Shortest

/-! How a double is written: positionally while its exponent lies in a range, else
with an exponent mark. At least one digit stands after a point. -/

namespace KeyspaceLink

/-- The exponents written positionally run from `least` to `most`; past them a plus
sign may stand before a positive exponent. -/
structure DecimalStyle where
  least : Int
  most : Int
  plus : Bool

def digitsOf (n : Nat) : List Char := Nat.toDigits 10 n

/-- Digits with a point `places` digits before their end, and a zero where one side is empty. -/
def positional (digits : List Char) (exponent : Int) : List Char :=
  if 0 ≤ exponent then digits ++ List.replicate exponent.toNat '0' ++ ['.', '0']
  else
    let places := (-exponent).toNat
    if places < digits.length then
      digits.take (digits.length - places) ++ '.' :: digits.drop (digits.length - places)
    else ['0', '.'] ++ List.replicate (places - digits.length) '0' ++ digits

def withExponent (style : DecimalStyle) (digits : List Char) (lead : Int) : List Char :=
  let sign := if lead < 0 then ['-'] else if style.plus then ['+'] else []
  let fraction := digits.drop 1
  digits.take 1 ++ (if fraction.isEmpty then [] else '.' :: fraction) ++
    'e' :: sign ++ digitsOf lead.natAbs

def DecimalStyle.write (style : DecimalStyle) (d : Decimal) : List Char :=
  let digits := digitsOf d.digits
  let lead := (digits.length : Int) - 1 + d.exponent
  if style.least ≤ lead && lead ≤ style.most then positional digits d.exponent
  else withExponent style digits lead

def DecimalStyle.float (style : DecimalStyle) (x : Float) : String :=
  match Binary.ofBits? x.toBits with
  | none => if x != x then "NaN" else if x < 0 then "-inf" else "inf"
  | some b =>
    let text := if b.significand == 0 then ['0', '.', '0']
      else style.write (shortest b.significand b.exponent)
    .ofList (if b.negative then '-' :: text else text)

end KeyspaceLink

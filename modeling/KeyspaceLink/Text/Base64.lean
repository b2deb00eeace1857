import KeyspaceLink.Text.Octets

/-! Base 64: three octets are written as four digits of six bits, and the last group is padded. -/

namespace KeyspaceLink

def base64Digit (n : Nat) : Char :=
  if n < 26 then Char.ofNat (65 + n)
  else if n < 52 then Char.ofNat (71 + n)
  else if n < 62 then Char.ofNat (n - 4)
  else if n == 62 then '+' else '/'

def base64 : List UInt8 → List Char
  | [] => []
  | [a] => [base64Digit (a.toNat / 4), base64Digit (a.toNat % 4 * 16), '=', '=']
  | [a, b] =>
    [base64Digit (a.toNat / 4), base64Digit (a.toNat % 4 * 16 + b.toNat / 16),
     base64Digit (b.toNat % 16 * 4), '=']
  | a :: b :: c :: r =>
    base64Digit (a.toNat / 4) :: base64Digit (a.toNat % 4 * 16 + b.toNat / 16) ::
      base64Digit (b.toNat % 16 * 4 + c.toNat / 64) :: base64Digit (c.toNat % 64) :: base64 r

def base64Value? (c : Char) : Option Nat :=
  if c.isUpper then some (c.toNat - 65)
  else if c.isLower then some (c.toNat - 71)
  else if c.isDigit then some (c.toNat + 4)
  else if c == '+' then some 62
  else if c == '/' then some 63
  else none

/-- The blanks that may stand between digits: a space and the controls that move the line. -/
def isBase64Blank (c : Char) : Bool := c == ' ' || ('\t' ≤ c && c ≤ '\r')

/-- The octets of digits in groups of four; bits left over in the last group are dropped. -/
def base64Octets : List Nat → List UInt8
  | a :: b :: c :: d :: r =>
    UInt8.ofNat (a * 4 + b / 16) :: UInt8.ofNat (b % 16 * 16 + c / 4) ::
      UInt8.ofNat (c % 4 * 64 + d) :: base64Octets r
  | [a, b, c] => [UInt8.ofNat (a * 4 + b / 16), UInt8.ofNat (b % 16 * 16 + c / 4)]
  | [a, b] => [UInt8.ofNat (a * 4 + b / 16)]
  | _ => []

/-- Reads base 64 with blanks anywhere. The last group is padded in full or not at all, and
has two digits at least. -/
def readBase64? (s : List Char) : Option (List UInt8) := do
  let s := s.filter (!isBase64Blank ·)
  let padding := s.dropWhile (· != '=')
  let digits ← (s.takeWhile (· != '=')).mapM base64Value?
  let left := digits.length % 4
  if left != 1 && padding.all (· == '=') && (padding.isEmpty || padding.length + left == 4) then
    some (base64Octets digits)
  else none

end KeyspaceLink

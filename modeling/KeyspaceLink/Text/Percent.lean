import KeyspaceLink.Text.Octets

/-! Percent escapes: an octet written as a percent sign and two hexadecimal
digits. Which octets stand for themselves is the writer's choice. -/

namespace KeyspaceLink

def upperHex (n : Nat) : Char :=
  if n < 10 then Char.ofNat (48 + n) else Char.ofNat (55 + n)

def hexValue? (c : Char) : Option Nat :=
  if c.isDigit then some (c.toNat - 48)
  else if 'a' ≤ c && c ≤ 'f' then some (c.toNat - 87)
  else if 'A' ≤ c && c ≤ 'F' then some (c.toNat - 55)
  else none

def escapeOctet (keep : UInt8 → Bool) (b : UInt8) : List Char :=
  if keep b then [Char.ofNat b.toNat]
  else ['%', upperHex (b.toNat / 16), upperHex (b.toNat % 16)]

/-- Writes a text with every octet outside `keep` escaped; `keep` holds ASCII only. -/
def escapeText (keep : UInt8 → Bool) (s : List Char) : List Char :=
  (octets s).flatMap (escapeOctet keep)

/-- The octets of a text with its escapes undone; a percent sign that starts no escape stays. -/
def unescapeOctets : List Char → List UInt8
  | '%' :: h :: l :: r =>
    match hexValue? h, hexValue? l with
    | some a, some b => UInt8.ofNat (a * 16 + b) :: unescapeOctets r
    | _, _ => 37 :: unescapeOctets (h :: l :: r)
  | c :: r => String.utf8EncodeChar c ++ unescapeOctets r
  | [] => []

def unescapeText (s : List Char) : List Char := readOctets (unescapeOctets s)

def isAlphanumericOctet (b : UInt8) : Bool :=
  (48 ≤ b && b ≤ 57) || (65 ≤ b && b ≤ 90) || (97 ≤ b && b ≤ 122)

/-- Kept in a segment of a path: letters, digits, hyphen, full stop and underscore. -/
def keptInSegment (b : UInt8) : Bool :=
  isAlphanumericOctet b || b == 45 || b == 46 || b == 95

def pathSegment (name : String) : String := .ofList (escapeText keptInSegment name.toList)

/-- Kept in a form: letters, digits and four marks. -/
def keptInForm (b : UInt8) : Bool :=
  isAlphanumericOctet b || b == 42 || b == 45 || b == 46 || b == 95

/-- A component of a form, where a space is a plus sign. -/
def formComponent (s : String) : List Char :=
  (octets s.toList).flatMap fun b => if b == 32 then ['+'] else escapeOctet keptInForm b

/-- The body of a form: pairs joined by ampersands. -/
def formBody (pairs : List (String × String)) : String :=
  .ofList (List.intercalate ['&']
    (pairs.map fun p => formComponent p.1 ++ '=' :: formComponent p.2))

end KeyspaceLink

/-! Texts as octets. Every text has one UTF-8 form; octets that are not UTF-8
are read with a replacement character for each longest broken piece. -/

namespace KeyspaceLink

def octets (s : List Char) : List UInt8 := s.flatMap String.utf8EncodeChar

/-- The replacement character U+FFFD. -/
def replacement : Char := Char.ofNat 0xFFFD

/-- Tails of a sequence: 80 to BF. -/
def isTail (b : UInt8) : Bool := 0x80 ≤ b && b ≤ 0xBF

/-- The second octets that may follow a first octet of a sequence of three or four:
overlong forms, surrogates and values past U+10FFFF are shut out here. -/
def isSecond (a b : UInt8) : Bool :=
  if a == 0xE0 then 0xA0 ≤ b && b ≤ 0xBF
  else if a == 0xED then 0x80 ≤ b && b ≤ 0x9F
  else if a == 0xF0 then 0x90 ≤ b && b ≤ 0xBF
  else if a == 0xF4 then 0x80 ≤ b && b ≤ 0x8F
  else isTail b

def sextet (b : UInt8) : Nat := b.toNat % 64

/-- Reads octets as UTF-8, replacing what is not. -/
def readOctets : List UInt8 → List Char
  | [] => []
  | a :: r =>
    if a < 0x80 then Char.ofNat a.toNat :: readOctets r
    else if 0xC2 ≤ a && a ≤ 0xDF then
      match r with
      | [] => [replacement]
      | b :: r' =>
        if isTail b then Char.ofNat (a.toNat % 32 * 64 + sextet b) :: readOctets r'
        else replacement :: readOctets (b :: r')
    else if 0xE0 ≤ a && a ≤ 0xEF then
      match r with
      | [] => [replacement]
      | b :: r' =>
        if isSecond a b then
          match r' with
          | [] => [replacement]
          | c :: r'' =>
            if isTail c then
              Char.ofNat (a.toNat % 16 * 4096 + sextet b * 64 + sextet c) :: readOctets r''
            else replacement :: readOctets (c :: r'')
        else replacement :: readOctets (b :: r')
    else if 0xF0 ≤ a && a ≤ 0xF4 then
      match r with
      | [] => [replacement]
      | b :: r' =>
        if isSecond a b then
          match r' with
          | [] => [replacement]
          | c :: r'' =>
            if isTail c then
              match r'' with
              | [] => [replacement]
              | d :: r''' =>
                if isTail d then
                  Char.ofNat (a.toNat % 8 * 262144 + sextet b * 4096 + sextet c * 64 + sextet d)
                    :: readOctets r'''
                else replacement :: readOctets (d :: r''')
            else replacement :: readOctets (c :: r'')
        else replacement :: readOctets (b :: r')
    else replacement :: readOctets r

end KeyspaceLink

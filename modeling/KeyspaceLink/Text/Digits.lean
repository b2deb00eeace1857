/-! Digits and the numbers written with them. A number has a limit, and a text
that goes past it, or holds anything but ASCII digits, is no number. -/

namespace KeyspaceLink

/-- Where each run of ten decimal digits (general category Nd) begins. -/
def digitRuns : List Nat :=
  [0x30, 0x660, 0x6F0, 0x7C0, 0x966, 0x9E6, 0xA66, 0xAE6, 0xB66, 0xBE6, 0xC66, 0xCE6, 0xD66,
   0xDE6, 0xE50, 0xED0, 0xF20, 0x1040, 0x1090, 0x17E0, 0x1810, 0x1946, 0x19D0, 0x1A80, 0x1A90,
   0x1B50, 0x1BB0, 0x1C40, 0x1C50, 0xA620, 0xA8D0, 0xA900, 0xA9D0, 0xA9F0, 0xAA50, 0xABF0,
   0xFF10, 0x104A0, 0x10D30, 0x10D40, 0x11066, 0x110F0, 0x11136, 0x111D0, 0x112F0, 0x11450,
   0x114D0, 0x11650, 0x116C0, 0x116D0, 0x116DA, 0x11730, 0x118E0, 0x11950, 0x11BF0, 0x11C50,
   0x11D50, 0x11DA0, 0x11F50, 0x16130, 0x16A60, 0x16AC0, 0x16B50, 0x16D70, 0x1CCF0, 0x1D7CE,
   0x1D7D8, 0x1D7E2, 0x1D7EC, 0x1D7F6, 0x1E140, 0x1E2F0, 0x1E4F0, 0x1E5F1, 0x1E950, 0x1FBF0]

def isDecimalDigit (c : Char) : Bool :=
  digitRuns.any fun z => z ≤ c.toNat && c.toNat ≤ z + 9

/-- The value of a run of ASCII digits read after `acc`. -/
def digitsValue (acc : Nat) (s : List Char) : Nat :=
  s.foldl (fun a c => a * 10 + (c.toNat - 48)) acc

/-- A non-empty run of ASCII digits of a value below `bound`. -/
def readDigits? (bound : Nat) (s : List Char) : Option Nat :=
  if !s.isEmpty && s.all Char.isDigit && digitsValue 0 s < bound then some (digitsValue 0 s)
  else none

theorem le_digitsValue (acc : Nat) (s : List Char) : acc ≤ digitsValue acc s := by
  induction s generalizing acc with
  | nil => exact Nat.le_refl acc
  | cons c s ih =>
    have hnext := ih (acc * 10 + (c.toNat - 48))
    rw [digitsValue, List.foldl_cons, ← digitsValue]
    omega

theorem readDigits?_eq_some_iff {bound n : Nat} {s : List Char} :
    readDigits? bound s = some n ↔
      s ≠ [] ∧ (∀ c ∈ s, c.isDigit = true) ∧ digitsValue 0 s = n ∧ n < bound := by
  rw [readDigits?, Option.ite_none_right_eq_some]
  simp only [Bool.and_eq_true, Bool.not_eq_true', List.isEmpty_eq_false_iff, List.all_eq_true,
    decide_eq_true_eq]
  constructor
  · rintro ⟨⟨⟨hne, hdigits⟩, hlt⟩, heq⟩
    obtain rfl := Option.some.inj heq
    exact ⟨hne, hdigits, rfl, hlt⟩
  · rintro ⟨hne, hdigits, rfl, hlt⟩
    exact ⟨⟨⟨hne, hdigits⟩, hlt⟩, rfl⟩

/-- Digits after at most one plus sign. -/
def readUnsigned? (bound : Nat) : List Char → Option Nat
  | '+' :: s => readDigits? bound s
  | s => readDigits? bound s

/-- Digits after at most one sign, for a number from `-bound` to `bound - 1`. -/
def readSigned? (bound : Nat) : List Char → Option Int
  | '-' :: s => (readDigits? (bound + 1) s).map fun n => -(n : Int)
  | s => (readUnsigned? bound s).map Int.ofNat

/-- How many numbers a word of sixteen bits has, and so on. -/
abbrev word16 : Nat := 65536
abbrev word31 : Nat := 2147483648
abbrev word32 : Nat := 4294967296
abbrev word63 : Nat := 9223372036854775808
abbrev word64 : Nat := 18446744073709551616

theorem toList_toString (n : Nat) : (toString n).toList = Nat.toDigits 10 n :=
  String.toList_ofList

theorem digitsValue_eq (acc : Nat) (s : List Char) :
    digitsValue acc s = Nat.ofDigitChars 10 s acc := by
  simp only [digitsValue, Nat.ofDigitChars, Nat.mul_comm]
  rfl

theorem digitsValue_toDigits (n : Nat) : digitsValue 0 (Nat.toDigits 10 n) = n := by
  rw [digitsValue_eq]
  exact Nat.ofDigitChars_ten_toDigits

theorem isDigit_of_mem_toString {n : Nat} {c : Char} (h : c ∈ (toString n).toList) :
    c.isDigit = true :=
  Nat.isDigit_of_mem_toDigits (by decide) (by decide) (toList_toString n ▸ h)

end KeyspaceLink

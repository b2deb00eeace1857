import KeyspaceLink.Text.Composition
import KeyspaceLink.Text.Mark

/-! The composed normal form of a text. Its characters are taken apart, marks are put in the
order of their classes, and what can be composed is composed again. -/

namespace KeyspaceLink

namespace Hangul

/-- The parts of a syllable: a consonant, a vowel, and perhaps a consonant. -/
def parts? (c : Char) : Option (List Char) :=
  let n := c.toNat - 0xAC00
  if 0xAC00 ≤ c.toNat && n < 11172 then
    let start := [Char.ofNat (0x1100 + n / 588), Char.ofNat (0x1161 + n % 588 / 28)]
    some (if n % 28 == 0 then start else start ++ [Char.ofNat (0x11A7 + n % 28)])
  else none

def compose? (a b : Char) : Option Char :=
  let l := a.toNat - 0x1100
  let s := a.toNat - 0xAC00
  let v := b.toNat - 0x1161
  let t := b.toNat - 0x11A7
  if 0x1100 ≤ a.toNat && l < 19 && 0x1161 ≤ b.toNat && v < 21 then
    some (Char.ofNat (0xAC00 + l * 588 + v * 28))
  else if 0xAC00 ≤ a.toNat && s < 11172 && s % 28 == 0 && 0x11A7 < b.toNat && t < 28 then
    some (Char.ofNat (a.toNat + t))
  else none

end Hangul

/-- The characters that a character is made of; none of them is made of others. -/
def decompose (c : Char) : List Char :=
  if c.toNat < 0xC0 then [c]
  else (((Hangul.parts? c).orElse fun _ => Table.entry? composites c).orElse
    fun _ => Table.entry? variants c).getD [c]

/-- The character made of one and a further one. -/
def compose? (a b : Char) : Option Char :=
  if b.toNat < 0x300 then none
  else (Hangul.compose? a b).orElse fun _ =>
    let parts := decompose a ++ [b]
    (composites.find? fun e => e.2 == parts).map fun e => Char.ofNat e.1

/-- Puts a character after others, the last one first, and a mark before the marks at the
end that are of higher classes. -/
def placeMark (c : Char) : List Char → List Char
  | [] => [c]
  | d :: rest =>
    if combiningClass c != 0 && combiningClass c < combiningClass d then d :: placeMark c rest
    else c :: d :: rest

def orderMarks (s : List Char) : List Char :=
  (s.foldl (fun done c => placeMark c done) []).reverse

/-- A text being composed: what is finished, the last character that keeps its place, and
the marks after it. The lists hold the last character first. -/
structure Composing where
  done : List Char := []
  starter : Option Char := none
  marks : List Char := []

namespace Composing

def all (s : Composing) : List Char := s.marks ++ s.starter.toList ++ s.done

/-- A character is composed with the starter unless a mark between them is of its class or
of a higher one. -/
def add (s : Composing) (c : Char) : Composing :=
  let free := s.marks.head?.all fun m => combiningClass m < combiningClass c
  match s.starter.bind fun a => if free then compose? a c else none with
  | some whole => { s with starter := some whole }
  | none =>
    if combiningClass c == 0 then { done := s.all, starter := some c }
    else { s with marks := c :: s.marks }

end Composing

/-- A text without marks and of old letters alone is in normal form already. -/
def normalForm (s : List Char) : List Char :=
  if s.all fun c => c.toNat < 0x300 then s
  else ((orderMarks (s.flatMap decompose)).foldl Composing.add {}).all.reverse

end KeyspaceLink

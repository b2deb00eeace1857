import KeyspaceLink.Decimal.Notation
import KeyspaceLink.Text.Blank
import KeyspaceLink.Text.Digits

/-! Spans of time in whole milliseconds, the finest that options can write: how they write them
and how messages show them. -/

namespace KeyspaceLink

structure Duration where
  millis : Nat
deriving DecidableEq, Repr

namespace Duration

/-- Digits followed by `ms`, `s`, `m` or nothing, which means milliseconds. A number of
minutes has to fit a word as seconds. -/
def read? (s : List Char) : Option Duration :=
  let body := trim s
  let unit := body.dropWhile Char.isDigit
  (readDigits? word64 (body.takeWhile Char.isDigit)).bind fun n =>
    match unit with
    | [] | ['m', 's'] => some ⟨n⟩
    | ['s'] => some ⟨n * 1000⟩
    | ['m'] => if n * 60 < word64 then some ⟨n * 60 * 1000⟩ else none
    | _ => none

/-- Thousandths without the zeros at their end. -/
def thousandths (n : Nat) : List Char :=
  let digits := [n / 100 % 10, n / 10 % 10, n % 10]
  ((digits.reverse.dropWhile (· == 0)).reverse).map Nat.digitChar

/-- Seconds from one second on, else milliseconds. -/
def text (d : Duration) : String :=
  if d.millis == 0 then "0ns"
  else if d.millis < 1000 then toString d.millis ++ "ms"
  else
    let fraction := thousandths (d.millis % 1000)
    .ofList (digitsOf (d.millis / 1000) ++
      (if fraction.isEmpty then [] else '.' :: fraction) ++ ['s'])

end Duration

end KeyspaceLink

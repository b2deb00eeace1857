import KeyspaceLink.Decimal.Notation
import KeyspaceLink.Failure
import KeyspaceLink.Text.Blank
import KeyspaceLink.Text.Quoted

/-! Values given to options and what is read from them. A whole number may come as text,
and a text as a whole number. -/

namespace KeyspaceLink

inductive OptionValue
  | text (s : String)
  | int (i : Int)
  | double (x : Float)
  | bytes (content : List UInt8)

inductive OptionForm
  | text
  | int
  | bytes
  | double
deriving DecidableEq, Repr

namespace OptionValue

/-- Doubles inside messages are positional for exponents from -4 to 15. -/
def shownStyle : DecimalStyle := ⟨-4, 15, false⟩

def shown : OptionValue → String
  | text s => "String(" ++ quoted s ++ ")"
  | int i => "Int(" ++ toString i ++ ")"
  | double x => "Double(" ++ shownStyle.float x ++ ")"
  | bytes content => "Bytes([" ++ ", ".intercalate (content.map toString) ++ "])"

def text? : OptionValue → Option String
  | text s => some s
  | int i => some (toString i)
  | _ => none

def int? : OptionValue → Option Int
  | text s => readSigned? word63 (trim s.toList)
  | int i => some i
  | _ => none

def natural? (v : OptionValue) : Option Nat :=
  v.int?.bind fun i => if 0 ≤ i then some i.toNat else none

def flag? : OptionValue → Option Bool
  | text s =>
    if ["true", "1", "yes"].contains (lower s) then some true
    else if ["false", "0", "no"].contains (lower s) then some false
    else none
  | int i => some (i != 0)
  | _ => none

/-- What was read of the value, or a refusal that shows it. -/
def accept (v : OptionValue) (key : String) (read : OptionValue → Option α) : Except Failure α :=
  match read v with
  | some a => .ok a
  | none => .error (.badOption key v.shown)

end OptionValue

end KeyspaceLink

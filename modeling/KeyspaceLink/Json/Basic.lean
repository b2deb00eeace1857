import KeyspaceLink.Text.Digits

/-! JSON values. Numbers that fit a signed or unsigned word are integers, all others
doubles; the members of an object keep the order in which they were written. -/

namespace KeyspaceLink

inductive Json
  | null
  | bool (b : Bool)
  | int (i : Int)
  | float (x : Float)
  | text (s : String)
  | list (items : List Json)
  | object (members : List (String × Json))

instance : Inhabited Json := ⟨.null⟩

namespace Json

def get? (v : Json) (name : String) : Option Json :=
  match v with
  | object members => members.lookup name
  | _ => none

def text? : Json → Option String
  | text s => some s
  | _ => none

def bool? : Json → Option Bool
  | bool b => some b
  | _ => none

def list? : Json → Option (List Json)
  | list items => some items
  | _ => none

def members? : Json → Option (List (String × Json))
  | object members => some members
  | _ => none

def natural? : Json → Option Nat
  | int i => if 0 ≤ i then some i.toNat else none
  | _ => none

def signed? : Json → Option Int
  | int i => if i < (word63 : Int) then some i else none
  | _ => none

def float? : Json → Option Float
  | int i =>
    some (if 0 ≤ i then (UInt64.ofNat i.toNat).toFloat else -(UInt64.ofNat i.natAbs).toFloat)
  | float x => some x
  | _ => none

def isNull : Json → Bool
  | null => true
  | _ => false

/-- Puts a member at the end, or a new value in the place of the member of that name. -/
def put (name : String) (v : Json) : List (String × Json) → List (String × Json)
  | [] => [(name, v)]
  | (k, w) :: rest => if k == name then (k, v) :: rest else (k, w) :: put name v rest

/-- The members of an object after each was put in turn: a repeated name keeps its first
place and takes its last value. -/
def collect (members : List (String × Json)) : List (String × Json) :=
  members.foldl (fun done p => put p.1 p.2 done) []

/-- An optional text, null when absent. -/
def ofText? : Option String → Json
  | some s => text s
  | none => null

def ofNat (n : Nat) : Json := int n

end Json

end KeyspaceLink

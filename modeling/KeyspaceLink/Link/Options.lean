import KeyspaceLink.Text.Case
import KeyspaceLink.Text.Percent
import KeyspaceLink.Text.Split

/-! Options of a link: pairs with names in small letters, in the order written. An
overlay, set apart from the link, comes before them. -/

namespace KeyspaceLink

/-- Option values set by name; names are compared ignoring case. -/
abbrev Overlay := List (String × String)

def lastValue? (name : String) (pairs : List (String × String)) : Option String :=
  pairs.reverse.lookup name

/-- A name or a value with its escapes undone. -/
def readComponent (s : List Char) : String := .ofList (unescapeText s)

/-- The pairs of the options part; an element without an equals sign is none. -/
def readOptions (s : List Char) : List (String × String) :=
  (pieces (fun c => c == '&' || c == ';') s).filterMap fun element =>
    (cutFirst? '=' element).map fun (key, value) => (lower (readComponent key), readComponent value)

structure Sources where
  overlay : Overlay
  written : List (String × String)

/-- The value of an option: the overlay first, then the last one written. -/
def Sources.find? (s : Sources) (name : String) : Option String :=
  (lastValue? (lower name) (s.overlay.map fun p => (lower p.1, p.2))).or
    (lastValue? (lower name) s.written)

/-- Puts a pair in its place among pairs sorted by name, in place of one of that name. -/
def place (name value : String) : List (String × String) → List (String × String)
  | [] => [(name, value)]
  | (k, v) :: rest =>
    if name == k then (name, value) :: rest
    else if name < k then (name, value) :: (k, v) :: rest
    else (k, v) :: place name value rest

/-- The pairs sorted by name, the last value of each name kept. -/
def sorted (pairs : List (String × String)) : List (String × String) :=
  pairs.foldl (fun done p => place p.1 p.2 done) []

/-- Kept when an option is written out: ASCII but controls, the space and the marks that
have a meaning in the options part. -/
def keptInOption (b : UInt8) : Bool :=
  0x21 ≤ b && b ≤ 0x7E && b != 35 && b != 37 && b != 38 && b != 59 && b != 61

def writeOption (pair : String × String) : List Char :=
  escapeText keptInOption pair.1.toList ++ '=' :: escapeText keptInOption pair.2.toList

end KeyspaceLink

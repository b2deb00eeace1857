/-! Regular expressions as far as patterns of names need them: characters, escaped or not, the
dot, the star after one of these, both anchors, and at the front the flag with which a dot takes
line breaks too. A text is searched for a match, which may stand anywhere in it. -/

namespace KeyspaceLink

/-- What one character of a text may be. -/
inductive CharClass
  | char (c : Char)
  | dot (takesBreaks : Bool)
deriving DecidableEq, Repr

def CharClass.takes : CharClass → Char → Bool
  | char d, c => c == d
  | dot takesBreaks, c => takesBreaks || c != '\n'

namespace Regex

inductive Item
  | start
  | finish
  | one (k : CharClass)
  | many (k : CharClass)
deriving DecidableEq, Repr

end Regex

abbrev Regex := List Regex.Item

namespace Regex

/-- The characters before which an escape puts a backslash. -/
def metaCharacters : List Char :=
  ['\\', '.', '+', '*', '?', '(', ')', '|', '[', ']', '\x7b', '\x7d', '^', '$', '#', '&', '-', '~']

/-- The source of an expression that matches just this character. -/
def escape (c : Char) : List Char := if metaCharacters.contains c then ['\\', c] else [c]

inductive Token
  | start
  | finish
  | star
  | set (k : CharClass)
deriving DecidableEq, Repr

/-- The token that is written as this character alone. Other operators are not read here. -/
def token? (takesBreaks : Bool) (c : Char) : Option Token :=
  if c == '.' then some (.set (.dot takesBreaks))
  else if c == '*' then some .star
  else if c == '^' then some .start
  else if c == '$' then some .finish
  else if ['\\', '+', '?', '(', ')', '|', '[', ']', '\x7b', '\x7d'].contains c then none
  else some (.set (.char c))

/-- The tokens of a source; a backslash takes a character that can be escaped as it is. -/
def lex (takesBreaks : Bool) : List Char → Option (List Token)
  | [] => some []
  | '\\' :: c :: r =>
    if metaCharacters.contains c then (lex takesBreaks r).map (.set (.char c) :: ·) else none
  | c :: r => (token? takesBreaks c).bind fun t => (lex takesBreaks r).map (t :: ·)

/-- A star belongs to the character or the dot before it; there is none after an anchor. -/
def items : List Token → Option Regex
  | [] => some []
  | .start :: r => (items r).map (.start :: ·)
  | .finish :: r => (items r).map (.finish :: ·)
  | .set k :: .star :: r => (items r).map (.many k :: ·)
  | .set k :: r => (items r).map (.one k :: ·)
  | .star :: _ => none

def read? : List Char → Option Regex
  | '(' :: '?' :: 's' :: ')' :: r => (lex true r).bind items
  | s => (lex false s).bind items

/-- Whether a run of such characters leads to one of the places. -/
def runs (k : CharClass) : List Char → List Bool → List Bool
  | c :: s, b :: bs =>
    let rest := runs k s bs
    (b || (k.takes c && rest.headD false)) :: rest
  | _, bs => bs

def onlyFirst : List Bool → List Bool
  | [] => []
  | b :: bs => b :: bs.map fun _ => false

/-- For every suffix of a text, the text itself first, whether a match begins there. -/
def table (s : List Char) : Regex → List Bool
  | [] => s.map (fun _ => true) ++ [true]
  | .start :: r => onlyFirst (table s r)
  | .finish :: r => s.map (fun _ => false) ++ (table s r).drop s.length
  | .one k :: r => s.zipWith (fun c b => k.takes c && b) (table s r).tail ++ [false]
  | .many k :: r => runs k s (table s r)

def isMatch (r : Regex) (s : List Char) : Bool := (table s r).any id

/-- What a character takes in the automata that read forwards and backwards, in octets: 32 for
each state, 8 for an edge of a state with several of them, and 4 for each choice. A character is
read octet by octet. Any character is one of nine sequences of octets, which share states
forwards only. A dot without line breaks is counted as one with them. -/
def classWeight : CharClass → Nat × Nat
  | .char c => (32 * c.utf8Size, 32 * c.utf8Size)
  | .dot _ => (416, 964)

/-- A star adds a state with a choice of two. -/
def Item.weight : Item → Nat × Nat
  | start | finish => (32, 32)
  | one k => classWeight k
  | many k => ((classWeight k).1 + 40, (classWeight k).2 + 40)

/-- What automata take besides the items: their ends, and the search for where a match begins. -/
def frame : Nat × Nat := (128, 64)

def weight (r : Regex) : Nat × Nat :=
  r.foldl (fun w item => (w.1 + item.weight.1, w.2 + item.weight.2)) frame

/-- The size that compiled expressions may have unless it is set: ten mebibytes. -/
def largest : Nat := 10485760

/-- Whether an expression may be compiled with the usual limit. -/
def isSmall (r : Regex) : Bool := r.weight.1 ≤ largest && r.weight.2 ≤ largest

end Regex

end KeyspaceLink

import KeyspaceLink.Catalog.Regex

/-! Patterns of names. A percent sign stands for any run of characters, an underscore for
any one, and a backslash takes the next character as it is. A pattern is turned into a regular
expression, which can be too large to be compiled. -/

namespace KeyspaceLink

/-- What a pattern says between the anchors; a backslash at its end says nothing. -/
def likeBody : List Char → List Char
  | [] => []
  | '\\' :: c :: r => Regex.escape c ++ likeBody r
  | c :: r =>
    if c == '%' then '.' :: '*' :: likeBody r
    else if c == '_' then '.' :: likeBody r
    else if c == '\\' then likeBody r
    else Regex.escape c ++ likeBody r

/-- The regular expression for a pattern. -/
def likeSource (pattern : List Char) : List Char :=
  ['(', '?', 's', ')', '^'] ++ likeBody pattern ++ ['$']

inductive LikePattern
  | any
  | regex (r : Regex)
  /-- The expression could not be compiled. -/
  | never

namespace LikePattern

/-- Compiles a pattern; `fits` tells which expressions are small enough. -/
def compile (fits : Regex → Bool) : Option String → LikePattern
  | none => any
  | some p => ((Regex.read? (likeSource p.toList)).filter fits).elim never regex

def isMatch : LikePattern → String → Bool
  | any, _ => true
  | regex r, s => r.isMatch s.toList
  | never, _ => false

end LikePattern

/-- Whether a text matches a pattern. Everything matches no pattern, and nothing matches one
that is too large to be compiled. -/
def likeMatches (pattern : Option String) (s : String) : Bool :=
  (LikePattern.compile Regex.isSmall pattern).isMatch s

end KeyspaceLink

import Mathlib
import KeyspaceLink.Json.Outline
import KeyspaceLink.Json.Relaxed

/-! The grammar of JSON texts. In the relaxed style a name may stand without quotes and a text
between single ones; what a text says, and what that denotes, is a matter of neither. -/

namespace KeyspaceLink.Json

inductive Style
  | strict
  | relaxed

/-- What a text says: its nesting, its numbers as written and its texts piece by piece. -/
inductive Tree
  | null
  | bool (b : Bool)
  | number (l : Literal)
  | text (ps : List Piece)
  | list (items : List Tree)
  | object (members : List (List Piece × Tree))

section Texts

/-- Pieces between quotes, without the quotes. -/
inductive Contents (quote : Char) : List Piece → List Char → Prop
  | nil : Contents quote [] []
  | plain {c : Char} {ps : List Piece} {t : List Char} (hvisible : 32 ≤ c.toNat)
      (hquote : c ≠ quote) (hslash : c ≠ '\\') (hrest : Contents quote ps t) :
      Contents quote (.char c :: ps) (c :: t)
  | escape {e c : Char} {ps : List Piece} {t : List Char} (h : simpleEscape? e = some c)
      (hrest : Contents quote ps t) : Contents quote (.char c :: ps) ('\\' :: e :: t)
  | single {ps : List Piece} {t : List Char} (hquote : quote = '\'') (hrest : Contents quote ps t) :
      Contents quote (.char '\'' :: ps) ('\\' :: '\'' :: t)
  | unit {a b c d : Char} {n : Nat} {ps : List Piece} {t : List Char}
      (h : hexValue4? a b c d = some n) (hrest : Contents quote ps t) :
      Contents quote (.unit n :: ps) ('\\' :: 'u' :: a :: b :: c :: d :: t)

inductive Quoted : Style → List Piece → List Char → Prop
  | double {style : Style} {ps : List Piece} {t : List Char} (h : Contents '"' ps t) :
      Quoted style ps ('"' :: (t ++ ['"']))
  | single {ps : List Piece} {t : List Char} (h : Contents '\'' ps t) :
      Quoted .relaxed ps ('\'' :: (t ++ ['\'']))

inductive Named : Style → List Piece → List Char → Prop
  | quoted {style : Style} {ps : List Piece} {t : List Char} (h : Quoted style ps t) :
      Named style ps t
  | bare {c : Char} {t : List Char} (hc : startsName c = true)
      (ht : ∀ d ∈ t, continuesName d = true) : Named .relaxed ((c :: t).map .char) (c :: t)

end Texts

section Numbers

def Digits (ds : List Char) : Prop := ds ≠ [] ∧ ∀ d ∈ ds, d.isDigit = true

inductive Fraction : Option (List Char) → List Char → Prop
  | absent : Fraction none []
  | digits {ds : List Char} (h : Digits ds) : Fraction (some ds) ('.' :: ds)

/-- An exponent: whether it is negative, and its digits. -/
inductive Power : Option (Bool × List Char) → List Char → Prop
  | absent : Power none []
  | up {mark : Char} {ds : List Char} (hmark : isPowerMark mark = true) (h : Digits ds) :
      Power (some (false, ds)) (mark :: ds)
  | plus {mark : Char} {ds : List Char} (hmark : isPowerMark mark = true) (h : Digits ds) :
      Power (some (false, ds)) (mark :: '+' :: ds)
  | minus {mark : Char} {ds : List Char} (hmark : isPowerMark mark = true) (h : Digits ds) :
      Power (some (true, ds)) (mark :: '-' :: ds)

inductive Numeral : Literal → List Char → Prop
  | mk {whole fraction power : List Char} {f : Option (List Char)} {p : Option (Bool × List Char)}
      (negative : Bool) (hwhole : Digits whole) (hzero : whole.head? = some '0' → whole = ['0'])
      (hf : Fraction f fraction) (hp : Power p power) :
      Numeral ⟨negative, whole, f, p⟩
        ((if negative then ['-'] else []) ++ (whole ++ (fraction ++ power)))

end Numbers

def Blanks (b : List Char) : Prop := ∀ c ∈ b, isSpace c = true

/-- A name of a member, with the blanks around it. -/
inductive Label (style : Style) : List Piece → List Char → Prop
  | mk {b n a : List Char} {ps : List Piece} (hb : Blanks b) (h : Named style ps n)
      (ha : Blanks a) : Label style ps (b ++ (n ++ a))

/-- The parts of a text that the grammar tells apart: a value, one with the blanks around it,
what stands between brackets, and what stands between braces. -/
inductive Part
  | value (x : Tree)
  | document (x : Tree)
  | items (xs : List Tree)
  | members (ms : List (List Piece × Tree))

inductive Written (style : Style) : Part → List Char → Prop
  | null : Written style (.value .null) ['n', 'u', 'l', 'l']
  | yes : Written style (.value (.bool true)) ['t', 'r', 'u', 'e']
  | no : Written style (.value (.bool false)) ['f', 'a', 'l', 's', 'e']
  | number {l : Literal} {t : List Char} (h : Numeral l t) : Written style (.value (.number l)) t
  | text {ps : List Piece} {t : List Char} (h : Quoted style ps t) :
      Written style (.value (.text ps)) t
  | emptyList {b : List Char} (hb : Blanks b) :
      Written style (.value (.list [])) ('[' :: (b ++ [']']))
  | list {xs : List Tree} {t : List Char} (h : Written style (.items xs) t) :
      Written style (.value (.list xs)) ('[' :: (t ++ [']']))
  | emptyObject {b : List Char} (hb : Blanks b) :
      Written style (.value (.object [])) ('\x7b' :: (b ++ ['\x7d']))
  | object {ms : List (List Piece × Tree)} {t : List Char} (h : Written style (.members ms) t) :
      Written style (.value (.object ms)) ('\x7b' :: (t ++ ['\x7d']))
  | padded {x : Tree} {b t a : List Char} (hb : Blanks b) (h : Written style (.value x) t)
      (ha : Blanks a) : Written style (.document x) (b ++ (t ++ a))
  | lastItem {x : Tree} {t : List Char} (h : Written style (.document x) t) :
      Written style (.items [x]) t
  | item {x : Tree} {xs : List Tree} {t s : List Char} (h : Written style (.document x) t)
      (hrest : Written style (.items xs) s) : Written style (.items (x :: xs)) (t ++ ',' :: s)
  | lastMember {ps : List Piece} {x : Tree} {n t : List Char} (hn : Label style ps n)
      (h : Written style (.document x) t) : Written style (.members [(ps, x)]) (n ++ ':' :: t)
  | member {ps : List Piece} {x : Tree} {ms : List (List Piece × Tree)} {n t s : List Char}
      (hn : Label style ps n) (h : Written style (.document x) t)
      (hrest : Written style (.members ms) s) :
      Written style (.members ((ps, x) :: ms)) (n ++ ':' :: (t ++ ',' :: s))

/-- A whole text of the style that says what the tree says. -/
abbrev Document (style : Style) (x : Tree) (t : List Char) : Prop := Written style (.document x) t

theorem Written.document {style : Style} {x : Tree} {t : List Char}
    (h : Written style (.value x) t) : Document style x t := by
  have hnone : Blanks [] := by simp [Blanks]
  simpa using Written.padded hnone h hnone

section Meaning

/-- A code unit is a character, or the first half of one that the next unit completes. -/
inductive Joins : List Piece → List Char → Prop
  | nil : Joins [] []
  | char {ps : List Piece} {cs : List Char} (c : Char) (h : Joins ps cs) :
      Joins (.char c :: ps) (c :: cs)
  | unit {n : Nat} {ps : List Piece} {cs : List Char} (hn : n < 0xD800 ∨ 0xDFFF < n)
      (h : Joins ps cs) : Joins (.unit n :: ps) (Char.ofNat n :: cs)
  | pair {n m : Nat} {ps : List Piece} {cs : List Char} (hn : 0xD800 ≤ n ∧ n ≤ 0xDBFF)
      (hm : 0xDC00 ≤ m ∧ m ≤ 0xDFFF) (h : Joins ps cs) :
      Joins (.unit n :: .unit m :: ps)
        (Char.ofNat (0x10000 + (n - 0xD800) * 1024 + (m - 0xDC00)) :: cs)

/-- Integers of a word denote themselves, and other numbers the double they are read as. -/
inductive Literal.Denotes : Literal → Json → Prop
  | natural {whole : List Char} (hlimit : digitsValue 0 whole < word64) :
      Literal.Denotes ⟨false, whole, none, none⟩ (.int (digitsValue 0 whole))
  | negative {whole : List Char} (hpos : digitsValue 0 whole ≠ 0)
      (hlimit : digitsValue 0 whole ≤ word63) :
      Literal.Denotes ⟨true, whole, none, none⟩ (.int (-(digitsValue 0 whole : Int)))
  | double {l : Literal} {x : Float} (h : l.value? = some (.float x)) : Literal.Denotes l (.float x)

inductive Tree.Denotes : Tree → Json → Prop
  | null : Tree.Denotes .null .null
  | bool (b : Bool) : Tree.Denotes (.bool b) (.bool b)
  | number {l : Literal} {v : Json} (h : l.Denotes v) : Tree.Denotes (.number l) v
  | text {ps : List Piece} {cs : List Char} (h : Joins ps cs) :
      Tree.Denotes (.text ps) (.text (.ofList cs))
  | list {items : List Tree} {vs : List Json} (h : List.Forall₂ Tree.Denotes items vs) :
      Tree.Denotes (.list items) (.list vs)
  | object {members : List (List Piece × Tree)} {named : List (String × Json)}
      (hnames : List.Forall₂ (fun m n => Joins m.1 n.1.toList) members named)
      (h : List.Forall₂ (fun m n => Tree.Denotes m.2 n.2) members named) :
      Tree.Denotes (.object members) (.object (collect named))

/-- Lists and objects stand in at most `depth` levels. -/
inductive Tree.Nests : Nat → Tree → Prop
  | null {depth : Nat} : Tree.Nests depth .null
  | bool {depth : Nat} (b : Bool) : Tree.Nests depth (.bool b)
  | number {depth : Nat} (l : Literal) : Tree.Nests depth (.number l)
  | text {depth : Nat} (ps : List Piece) : Tree.Nests depth (.text ps)
  | list {depth : Nat} {items : List Tree} (h : ∀ x ∈ items, Tree.Nests depth x) :
      Tree.Nests (depth + 1) (.list items)
  | object {depth : Nat} {members : List (List Piece × Tree)}
      (h : ∀ m ∈ members, Tree.Nests depth m.2) : Tree.Nests (depth + 1) (.object members)

end Meaning

section Blanks

variable {c : Char} {b r : List Char}

/-- What can stand after a value. -/
def Follows (r : List Char) : Prop := ∀ c ∈ r.head?, c = ',' ∨ c = ']' ∨ c = '\x7d'

/-- After blanks comes what can stand after a value. -/
def After (r : List Char) : Prop := Follows (skip r)

theorem isSpace_iff : isSpace c = true ↔ c = ' ' ∨ c = '\n' ∨ c = '\t' ∨ c = '\r' := by
  simp [isSpace, or_assoc]

theorem skip_blanks (hb : Blanks b) (r : List Char) : skip (b ++ r) = skip r :=
  List.dropWhile_append_of_pos hb

theorem skip_cons (h : isSpace c = false) (t : List Char) : skip (c :: t) = c :: t :=
  List.dropWhile_cons_of_neg (by simp [h])

theorem exists_blanks_skip (r : List Char) : ∃ b, Blanks b ∧ r = b ++ skip r :=
  ⟨r.takeWhile isSpace, fun _ hc => List.mem_takeWhile_imp hc, List.takeWhile_append_dropWhile.symm⟩

theorem After.blanks (hb : Blanks b) (hr : After r) : After (b ++ r) := by
  rwa [After, skip_blanks hb]

theorem after_nil : After [] := by
  intro c hc
  cases hc

theorem after_mark (hc : c = ',' ∨ c = ']' ∨ c = '\x7d') (r : List Char) : After (c :: r) := by
  have hspace : isSpace c = false := by rcases hc with rfl | rfl | rfl <;> decide
  intro d hd
  rw [skip_cons hspace] at hd
  cases hd
  exact hc

end Blanks

end KeyspaceLink.Json

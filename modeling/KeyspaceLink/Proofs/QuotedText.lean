import KeyspaceLink.Text.Split
import Mathlib.Data.List.Forall2

/-! Quoted texts of queries: between two marks a mark is written twice, so a quoted text ends at
the first mark that no other mark follows. Reading a query so, its quoted texts come apart from
what stands around them. -/

namespace KeyspaceLink

/-- A part of a query: a character that stands for itself, or a quoted text by what it says. -/
inductive Lexeme
  | char (c : Char)
  | quoted (said : List Char)
deriving DecidableEq

namespace Lexeme

def char? : Lexeme → Option Char
  | char c => some c
  | quoted _ => none

def said? : Lexeme → Option (List Char)
  | char _ => none
  | quoted said => some said

end Lexeme

/-- Reads on outside of quoted texts, or within one that has said `said` so far. -/
def lexemesFrom (mark : Char) : Option (List Char) → List Char → Option (List Lexeme)
  | none, [] => some []
  | some _, [] => none
  | none, c :: s =>
    if c = mark then lexemesFrom mark (some []) s
    else (lexemesFrom mark none s).map (.char c :: ·)
  | some said, [c] => if c = mark then some [.quoted said] else none
  | some said, c :: d :: s =>
    if c = mark then
      if d = mark then lexemesFrom mark (some (said ++ [mark])) s
      else (lexemesFrom mark none (d :: s)).map (.quoted said :: ·)
    else lexemesFrom mark (some (said ++ [c])) (d :: s)

def lexemes? (mark : Char) (s : List Char) : Option (List Lexeme) := lexemesFrom mark none s

def doubled (mark : Char) (s : List Char) : List Char :=
  s.flatMap fun c => if c == mark then [mark, mark] else [c]

section Doubling

variable {mark c : Char} {s t : List Char}

theorem doubled_append : doubled mark (s ++ t) = doubled mark s ++ doubled mark t :=
  List.flatMap_append

theorem doubled_mark : doubled mark [mark] = [mark, mark] := by
  simp [doubled]

theorem doubled_of_ne (h : c ≠ mark) : doubled mark [c] = [c] := by
  simp [doubled, h]

theorem doubled_cons (c : Char) (s : List Char) :
    doubled mark (c :: s) = doubled mark [c] ++ doubled mark s :=
  doubled_append (s := [c])

theorem count_doubled : (doubled mark s).count mark = 2 * s.count mark := by
  induction s with
  | nil => rfl
  | cons c s ih =>
    rw [doubled_cons, List.count_append, ih]
    by_cases hc : c = mark
    · subst hc
      rw [doubled_mark, List.count_cons_self, List.count_cons_self, List.count_cons_self]
      simp only [List.count_nil]
      omega
    · rw [doubled_of_ne hc, List.count_cons_of_ne hc, List.count_cons_of_ne hc, List.count_nil]
      omega

theorem doubled_eq_self_iff : doubled mark s = s ↔ mark ∉ s := by
  rw [← List.count_eq_zero]
  constructor
  · intro h
    have hcount : 2 * s.count mark = s.count mark := by rw [← count_doubled, h]
    omega
  · intro h
    induction s with
    | nil => rfl
    | cons c s ih =>
      have hc : c ≠ mark := by
        rintro rfl
        simp at h
      rw [List.count_cons_of_ne hc] at h
      rw [doubled_cons, doubled_of_ne hc, ih h, List.singleton_append]

end Doubling

section Reading

variable {mark : Char} {within : Option (List Char)} {s t : List Char} {a b : List Lexeme}

/-- A query as its lexemes are written. -/
def Lexeme.text (mark : Char) : Lexeme → List Char
  | char c => [c]
  | quoted said => mark :: (doubled mark said ++ [mark])

/-- A quoted text up to where it has been read. -/
def opened (mark : Char) : Option (List Char) → List Char
  | none => []
  | some said => mark :: doubled mark said

theorem flatMap_text_of_lexemesFrom (h : lexemesFrom mark within s = some a) :
    a.flatMap (Lexeme.text mark) = opened mark within ++ s := by
  fun_induction lexemesFrom mark within s generalizing a with
  | case1 =>
    cases h
    rfl
  | case2 => cases h
  | case3 s ih => simpa [opened, doubled] using ih h
  | case4 c s hc ih =>
    obtain ⟨b, hb, rfl⟩ := Option.map_eq_some_iff.mp h
    simpa [opened, Lexeme.text] using ih hb
  | case5 said =>
    cases h
    simp [opened, Lexeme.text]
  | case6 => cases h
  | case7 said s ih => simpa [opened, doubled_append, doubled_mark] using ih h
  | case8 said d s hd ih =>
    obtain ⟨b, hb, rfl⟩ := Option.map_eq_some_iff.mp h
    simpa [opened, Lexeme.text] using ih hb
  | case9 said c d s hc ih => simpa [opened, doubled_append, doubled_of_ne hc] using ih h

theorem lexemesFrom_mark (s : List Char) :
    lexemesFrom mark none (mark :: s) = lexemesFrom mark (some []) s :=
  if_pos rfl

theorem lexemesFrom_char {c : Char} (h : c ≠ mark) (s : List Char) :
    lexemesFrom mark none (c :: s) = (lexemes? mark s).map (.char c :: ·) :=
  if_neg h

theorem lexemesFrom_end (h : t.head? ≠ some mark) (said : List Char) :
    lexemesFrom mark (some said) (mark :: t) = (lexemes? mark t).map (.quoted said :: ·) := by
  cases t with
  | nil => exact if_pos rfl
  | cons d t =>
    have hd : d ≠ mark := by simpa using h
    exact (if_pos rfl).trans (if_neg hd)

theorem lexemesFrom_pair (said : List Char) : lexemesFrom mark (some said) (mark :: mark :: t) =
    lexemesFrom mark (some (said ++ [mark])) t :=
  (if_pos rfl).trans (if_pos rfl)

theorem lexemesFrom_of_ne {c : Char} (h : c ≠ mark) (said : List Char) :
    lexemesFrom mark (some said) (c :: t) = lexemesFrom mark (some (said ++ [c])) t := by
  cases t with
  | nil => exact if_neg h
  | cons d t => exact if_neg h

theorem lexemesFrom_append (ha : lexemesFrom mark within s = some a)
    (hb : lexemes? mark t = some b) (ht : t.head? ≠ some mark) :
    lexemesFrom mark within (s ++ t) = some (a ++ b) := by
  fun_induction lexemesFrom mark within s generalizing a with
  | case1 =>
    cases ha
    exact hb
  | case2 => cases ha
  | case3 s ih =>
    rw [List.cons_append, lexemesFrom_mark]
    exact ih ha
  | case4 c s hc ih =>
    obtain ⟨a, hs, rfl⟩ := Option.map_eq_some_iff.mp ha
    have hrest : lexemes? mark (s ++ t) = some (a ++ b) := ih hs
    rw [List.cons_append, lexemesFrom_char hc, hrest]
    rfl
  | case5 said =>
    cases ha
    rw [List.singleton_append, lexemesFrom_end ht, hb]
    rfl
  | case6 => cases ha
  | case7 said s ih =>
    rw [List.cons_append, List.cons_append, lexemesFrom_pair]
    exact ih ha
  | case8 said d s hd ih =>
    obtain ⟨a, hs, rfl⟩ := Option.map_eq_some_iff.mp ha
    have hrest : lexemes? mark (d :: s ++ t) = some (a ++ b) := ih hs
    rw [List.cons_append, lexemesFrom_end (by simpa using hd), hrest]
    rfl
  | case9 said c d s hc ih =>
    rw [List.cons_append, lexemesFrom_of_ne hc]
    exact ih ha

theorem lexemes?_append_of_not_mem (h : mark ∉ s) :
    lexemes? mark (s ++ t) = (lexemes? mark t).map (s.map .char ++ ·) := by
  induction s with
  | nil => exact Option.map_id'.symm
  | cons c s ih =>
    obtain ⟨hc, hs⟩ := List.ne_and_not_mem_of_not_mem_cons h
    rw [List.cons_append, lexemes?, lexemesFrom_char hc.symm, ih hs, Option.map_map]
    rfl

theorem lexemes?_of_not_mem (h : mark ∉ s) : lexemes? mark s = some (s.map .char) := by
  have hread := lexemes?_append_of_not_mem (t := []) h
  have hnil : lexemes? mark [] = some [] := rfl
  rwa [List.append_nil, hnil, Option.map_some, List.append_nil] at hread

theorem lexemesFrom_doubled (said s : List Char) :
    lexemesFrom mark (some said) (doubled mark s ++ [mark]) = some [.quoted (said ++ s)] := by
  induction s generalizing said with
  | nil =>
    rw [List.append_nil]
    exact lexemesFrom_end (by simp) said
  | cons c s ih =>
    rw [doubled_cons, List.append_assoc]
    by_cases hc : c = mark
    · subst hc
      rw [doubled_mark, List.cons_append, List.singleton_append, lexemesFrom_pair, ih,
        List.append_assoc, List.singleton_append]
    · rw [doubled_of_ne hc, List.singleton_append, lexemesFrom_of_ne hc, ih, List.append_assoc,
        List.singleton_append]

theorem lexemes?_quoted (s : List Char) :
    lexemes? mark ((Lexeme.quoted s).text mark) = some [.quoted s] := by
  rw [lexemes?, Lexeme.text, lexemesFrom_mark, lexemesFrom_doubled, List.nil_append]

example : lexemes? '\'' "'O''x'".toList = some [.quoted "O'x".toList] := by decide

theorem flatMap_text_chars : (s.map Lexeme.char).flatMap (Lexeme.text mark) = s := by
  rw [List.flatMap_map]
  exact List.flatMap_singleton' s

/-- Between two marks a text is read back as it is if it holds no mark, and only then. -/
theorem lexemes?_between_iff (ht : mark ∉ t) :
    lexemes? mark (mark :: (s ++ mark :: t)) = some (.quoted s :: t.map .char) ↔ mark ∉ s := by
  rw [← doubled_eq_self_iff]
  constructor
  · intro h
    have htext := flatMap_text_of_lexemesFrom h
    rw [List.flatMap_cons, flatMap_text_chars, Lexeme.text, opened, List.cons_append,
      List.append_assoc, List.singleton_append, List.nil_append] at htext
    exact List.append_cancel_right (List.cons.inj htext).2
  · intro hs
    have hend : t.head? ≠ some mark := fun h => ht (List.mem_of_head? h)
    have hread := lexemesFrom_append (lexemes?_quoted s) (lexemes?_of_not_mem ht) hend
    rw [Lexeme.text, hs, List.cons_append, List.append_assoc, List.singleton_append,
      List.singleton_append] at hread
    exact hread

end Reading

end KeyspaceLink

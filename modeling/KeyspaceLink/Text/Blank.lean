import KeyspaceLink.Text.Split

/-! White space in the sense of Unicode: twenty-five characters. Texts are
trimmed of it at their ends, and commands are split at it. -/

namespace KeyspaceLink

/-- Holds of the characters that have the property White_Space. -/
def isBlank (c : Char) : Bool :=
  let n := c.toNat
  (9 ≤ n && n ≤ 13) || n == 0x20 || n == 0x85 || n == 0xA0 || n == 0x1680 ||
    (0x2000 ≤ n && n ≤ 0x200A) || n == 0x2028 || n == 0x2029 || n == 0x202F ||
    n == 0x205F || n == 0x3000

def trimStart (s : List Char) : List Char := s.dropWhile isBlank

def trimEnd (s : List Char) : List Char := (s.reverse.dropWhile isBlank).reverse

def trim (s : List Char) : List Char := trimEnd (trimStart s)

/-- No blank at either end. -/
def Trimmed (t : List Char) : Prop :=
  (∀ c ∈ t.head?, isBlank c = false) ∧ ∀ c ∈ t.getLast?, isBlank c = false

theorem isBlank_of_isDigit {c : Char} (h : c.isDigit = true) : isBlank c = false := by
  simp only [Char.isDigit, Bool.and_eq_true, decide_eq_true_eq] at h
  have h1 : 48 ≤ c.toNat := h.1
  have h2 : c.toNat ≤ 57 := h.2
  simp only [isBlank, Bool.or_eq_false_iff, Bool.and_eq_false_iff, decide_eq_false_iff_not,
    beq_eq_false_iff_ne]
  omega

section Ends

variable {s t r left core right gap : List Char} {c : Char}

theorem trimStart_of_blanks (h : ∀ c ∈ s, isBlank c = true) : trimStart s = [] := by
  have hdrop : (s ++ []).dropWhile isBlank = [] := List.dropWhile_append_of_pos h
  rwa [List.append_nil] at hdrop

theorem trimEnd_append (ht : ∀ c ∈ t.getLast?, isBlank c = false)
    (hgap : ∀ c ∈ gap, isBlank c = true) : trimEnd (t ++ gap) = t := by
  rw [trimEnd, List.reverse_append]
  have hend : (gap.reverse ++ t.reverse).dropWhile isBlank = t.reverse := by
    refine (takeWhile_run (by simpa using hgap) ?_).2
    rwa [List.head?_reverse]
  rw [hend, List.reverse_reverse]

theorem trimEnd_cons (h : isBlank c = false) : trimEnd (c :: r) = c :: trimEnd r := by
  rw [trimEnd, List.reverse_cons, List.dropWhile_append]
  split
  · next hr =>
    rw [List.isEmpty_iff] at hr
    simp [trimEnd, hr, h]
  · simp [trimEnd]

theorem exists_trimEnd (s : List Char) : ∃ gap, s = trimEnd s ++ gap ∧
    (∀ c ∈ gap, isBlank c = true) ∧ ∀ c ∈ (trimEnd s).getLast?, isBlank c = false := by
  refine ⟨(s.reverse.takeWhile isBlank).reverse, ?_, fun c hc => ?_, fun c hc => ?_⟩
  · rw [trimEnd, ← List.reverse_append, List.takeWhile_append_dropWhile, List.reverse_reverse]
  · have hrun := List.all_takeWhile (p := isBlank) (l := s.reverse)
    exact List.all_eq_true.mp hrun c (List.mem_reverse.mp hc)
  · rw [trimEnd, List.getLast?_reverse] at hc
    have hnot := List.head?_dropWhile_not isBlank s.reverse
    rw [hc] at hnot
    exact hnot

theorem head?_of_append (h : s = t ++ right) (hc : t.head? = some c) : s.head? = some c := by
  rw [h, List.head?_append, hc, Option.some_or]

theorem trimmed_trim (s : List Char) : Trimmed (trim s) := by
  obtain ⟨gap, hsplit, -, hlast⟩ := exists_trimEnd (trimStart s)
  refine ⟨fun c hc => ?_, hlast⟩
  have hhead := head?_of_append hsplit hc
  have hnot := List.head?_dropWhile_not isBlank s
  rw [← trimStart, hhead] at hnot
  exact hnot

theorem trim_of_trimmed (hleft : ∀ c ∈ left, isBlank c = true) (hcore : Trimmed core)
    (hright : ∀ c ∈ right, isBlank c = true) : trim (left ++ core ++ right) = core := by
  have hstart : trimStart (left ++ core ++ right) = trimStart (core ++ right) := by
    rw [trimStart, List.append_assoc, List.dropWhile_append_of_pos hleft, trimStart]
  rw [trim, hstart]
  cases core with
  | nil =>
    rw [List.nil_append, trimStart_of_blanks hright]
    rfl
  | cons c core =>
    have hc : isBlank c = false := hcore.1 c rfl
    rw [trimStart, List.cons_append, List.dropWhile_cons_of_neg (by simp [hc]),
      ← List.cons_append, trimEnd_append hcore.2 hright]

theorem Trimmed.trim_eq (h : Trimmed core) : trim core = core := by
  have hsame : trim ([] ++ core ++ []) = core :=
    trim_of_trimmed (List.forall_mem_nil _) h (List.forall_mem_nil _)
  rwa [List.nil_append, List.append_nil] at hsame

theorem trimmed_of_plain (h : ∀ c ∈ core, isBlank c = false) : Trimmed core :=
  ⟨fun c hc => h c (List.mem_of_head? hc), fun c hc => h c (List.mem_of_getLast? hc)⟩

theorem exists_blanks (s : List Char) : ∃ left right, s = left ++ trim s ++ right ∧
    (∀ c ∈ left, isBlank c = true) ∧ ∀ c ∈ right, isBlank c = true := by
  obtain ⟨right, hsplit, hright, -⟩ := exists_trimEnd (trimStart s)
  have hrun := List.all_takeWhile (p := isBlank) (l := s)
  refine ⟨s.takeWhile isBlank, right, ?_, List.all_eq_true.mp hrun, hright⟩
  rw [trim, List.append_assoc, ← hsplit]
  exact List.takeWhile_append_dropWhile.symm

theorem isEmpty_trim (s : List Char) : (trim s).isEmpty = s.all isBlank := by
  obtain ⟨left, right, hs, hleft, hright⟩ := exists_blanks s
  rw [Bool.eq_iff_iff, List.isEmpty_iff, List.all_eq_true]
  constructor
  · intro hnone
    rw [hnone, List.append_nil] at hs
    rw [hs]
    exact fun c hc => (List.mem_append.mp hc).elim (hleft c) (hright c)
  · intro hblank
    rw [trim, trimStart_of_blanks hblank]
    rfl

end Ends

end KeyspaceLink

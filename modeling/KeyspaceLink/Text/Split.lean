/-! Cutting a text at separators. -/

namespace KeyspaceLink

/-- The pieces between separators; there is one more of them than of separators. -/
def pieces (isSeparator : Char → Bool) : List Char → List (List Char)
  | [] => [[]]
  | c :: s =>
    if isSeparator c then [] :: pieces isSeparator s
    else match pieces isSeparator s with
      | [] => [[c]]
      | p :: ps => (c :: p) :: ps

def cutFirst? (separator : Char) : List Char → Option (List Char × List Char)
  | [] => none
  | c :: s =>
    if c == separator then some ([], s)
    else (cutFirst? separator s).map fun (before, after) => (c :: before, after)

def cutLast? (separator : Char) : List Char → Option (List Char × List Char)
  | [] => none
  | c :: s =>
    match cutLast? separator s with
    | some (before, after) => some (c :: before, after)
    | none => if c == separator then some ([], s) else none

theorem cutFirst?_eq_some {separator : Char} {s before after : List Char}
    (h : cutFirst? separator s = some (before, after)) : s = before ++ separator :: after := by
  induction s generalizing before with
  | nil => simp [cutFirst?] at h
  | cons c s ih =>
    simp only [cutFirst?] at h
    split at h
    · next hc => simp_all
    · cases hs : cutFirst? separator s with
      | none => simp [hs] at h
      | some p => simp [hs] at h; obtain ⟨rfl, rfl⟩ := h; simp [ih hs]

section Pieces

variable {isSeparator : Char → Bool}

theorem pieces_of_none {s : List Char} (h : ∀ c ∈ s, isSeparator c = false) :
    pieces isSeparator s = [s] := by
  induction s with
  | nil => rfl
  | cons c s ih =>
    have hs := ih fun d hd => h d (List.mem_cons_of_mem c hd)
    simp [pieces, h c List.mem_cons_self, hs]

theorem pieces_append {s : List Char} {c : Char} (h : ∀ d ∈ s, isSeparator d = false)
    (hc : isSeparator c = true) (r : List Char) :
    pieces isSeparator (s ++ c :: r) = s :: pieces isSeparator r := by
  induction s with
  | nil => simp [pieces, hc]
  | cons d s ih =>
    have hs := ih fun e he => h e (List.mem_cons_of_mem d he)
    simp [pieces, h d List.mem_cons_self, hs]

/-- Pieces put together with a separator come apart again. -/
theorem pieces_intercalate {c : Char} (hc : isSeparator c = true) {ps : List (List Char)}
    (hne : ps ≠ []) (h : ∀ p ∈ ps, ∀ d ∈ p, isSeparator d = false) :
    pieces isSeparator (List.intercalate [c] ps) = ps := by
  induction ps with
  | nil => exact absurd rfl hne
  | cons p ps ih =>
    have hp := h p List.mem_cons_self
    cases ps with
    | nil => rw [List.intercalate_singleton, pieces_of_none hp]
    | cons q ps =>
      have hrest := ih (List.cons_ne_nil q ps) fun r hr => h r (List.mem_cons_of_mem p hr)
      rw [List.intercalate_cons_cons, List.append_assoc, List.singleton_append,
        pieces_append hp hc, hrest]

theorem mem_intercalate {c mark : Char} {ps : List (List Char)}
    (h : c ∈ List.intercalate [mark] ps) : c = mark ∨ ∃ p ∈ ps, c ∈ p := by
  induction ps with
  | nil => cases h
  | cons p ps ih =>
    cases ps with
    | nil => exact .inr ⟨p, by simp, by simpa using h⟩
    | cons q ps =>
      rw [List.intercalate_cons_cons, List.mem_append, List.mem_append, List.mem_singleton] at h
      rcases h with (h | h) | h
      · exact .inr ⟨p, by simp, h⟩
      · exact .inl h
      · rcases ih h with h | ⟨r, hr, hc⟩
        · exact .inl h
        · exact .inr ⟨r, by simp [hr], hc⟩

end Pieces

section Cuts

variable {c : Char} {s before after : List Char}

theorem cutFirst?_append (h : c ∉ s) (r : List Char) :
    cutFirst? c (s ++ c :: r) = some (s, r) := by
  induction s with
  | nil => simp [cutFirst?]
  | cons d s ih =>
    have hd : d ≠ c := fun hd => h (hd ▸ List.mem_cons_self)
    have hs := ih fun hs => h (List.mem_cons_of_mem d hs)
    simp [cutFirst?, hd, hs]

theorem cutFirst?_eq_none_iff : cutFirst? c s = none ↔ c ∉ s := by
  induction s with
  | nil => simp [cutFirst?]
  | cons d s ih =>
    by_cases hd : d = c
    · simp [cutFirst?, hd]
    · simp [cutFirst?, hd, ih, Ne.symm hd]

theorem not_mem_of_cutFirst? (h : cutFirst? c s = some (before, after)) : c ∉ before := by
  induction s generalizing before with
  | nil => simp [cutFirst?] at h
  | cons d s ih =>
    by_cases hd : d = c
    · simp only [cutFirst?, hd, beq_self_eq_true, if_true, Option.some.injEq, Prod.mk.injEq] at h
      rw [← h.1]
      exact List.not_mem_nil
    · cases hs : cutFirst? c s with
      | none => simp [cutFirst?, hd, hs] at h
      | some p =>
        simp [cutFirst?, hd, hs] at h
        obtain ⟨rfl, rfl⟩ := h
        have hp := ih hs
        simp [hp, Ne.symm hd]

theorem cutLast?_eq_none_iff : cutLast? c s = none ↔ c ∉ s := by
  induction s with
  | nil => simp [cutLast?]
  | cons d s ih =>
    cases hs : cutLast? c s with
    | none =>
      have hc := ih.mp hs
      by_cases hd : d = c
      · simp [cutLast?, hs, hd]
      · simp [cutLast?, hs, hd, hc, Ne.symm hd]
    | some p =>
      have hc : c ∈ s := Decidable.not_not.mp fun hc => by simp [ih.mpr hc] at hs
      simp [cutLast?, hs, hc]

theorem cutLast?_eq_some (h : cutLast? c s = some (before, after)) :
    s = before ++ c :: after := by
  induction s generalizing before with
  | nil => simp [cutLast?] at h
  | cons d s ih =>
    cases hs : cutLast? c s with
    | none =>
      simp [cutLast?, hs] at h
      obtain ⟨rfl, rfl, rfl⟩ := h
      rfl
    | some p =>
      simp [cutLast?, hs] at h
      obtain ⟨rfl, rfl⟩ := h
      rw [ih hs, List.cons_append]

theorem cutLast?_append (h : c ∉ after) (before : List Char) :
    cutLast? c (before ++ c :: after) = some (before, after) := by
  induction before with
  | nil => simp [cutLast?, cutLast?_eq_none_iff.mpr h]
  | cons d before ih => simp [cutLast?, ih]

theorem not_mem_of_cutLast? (h : cutLast? c s = some (before, after)) : c ∉ after := by
  induction s generalizing before with
  | nil => simp [cutLast?] at h
  | cons d s ih =>
    cases hs : cutLast? c s with
    | none =>
      simp [cutLast?, hs] at h
      obtain ⟨rfl, rfl, rfl⟩ := h
      exact cutLast?_eq_none_iff.mp hs
    | some p =>
      simp [cutLast?, hs] at h
      obtain ⟨rfl, rfl⟩ := h
      exact ih hs

end Cuts

section Classes

variable {p : Char → Bool} {c d : Char} {s r : List Char}

theorem ne_of_class (hc : p c = true) (hd : p d = false) : c ≠ d := by
  rintro rfl
  rw [hc] at hd
  cases hd

/-- A run of a class ends where a character of another class follows. -/
theorem takeWhile_run (hs : ∀ c ∈ s, p c = true) (hr : ∀ c ∈ r.head?, p c = false) :
    (s ++ r).takeWhile p = s ∧ (s ++ r).dropWhile p = r := by
  rw [List.takeWhile_append_of_pos hs, List.dropWhile_append_of_pos hs]
  cases r with
  | nil => exact ⟨List.append_nil s, rfl⟩
  | cons c r => simp [hr c rfl]

end Classes

end KeyspaceLink

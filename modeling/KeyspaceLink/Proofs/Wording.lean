import Mathlib
import KeyspaceLink.Command.Grammar
import KeyspaceLink.Text.Split

/-! The wording of commands: blanks, words in any case, clauses, names and the end of a command,
each said without a reader. What the readers of the grammar take from the front of a text is
exactly such a piece. -/

namespace KeyspaceLink.Grammar

/-- A small letter of a keyword, or what folds to it. -/
def WrittenAs (letter c : Char) : Prop :=
  c = letter ∨ c = letter.toUpper ∨ letter = 's' ∧ c = '\u017f' ∨ letter = 'k' ∧ c = '\u212a'

def Spells (word written : List Char) : Prop := List.Forall₂ WrittenAs word written

def Blanks (b : List Char) : Prop := b ≠ [] ∧ ∀ c ∈ b, isBlank c = true

/-- Words in any case, with blanks before each. -/
inductive Clause : List (List Char) → List Char → Prop
  | nil : Clause [] []
  | cons {word b written rest : List Char} {words : List (List Char)} (hb : Blanks b)
      (hword : Spells word written) (hrest : Clause words rest) :
      Clause (word :: words) (b ++ (written ++ rest))

inductive Optionally (clause : List (List Char)) : Bool → List Char → Prop
  | absent : Optionally clause false []
  | present {t : List Char} (h : Clause clause t) : Optionally clause true t

def Letter (c : Char) : Prop := c.isAlpha = true ∨ c = '\u017f' ∨ c = '\u212a'

def NameCharacter (c : Char) : Prop :=
  Letter c ∨ c.isDigit = true ∨ c ∈ ['_', '.', '%', '-']

inductive NameText : String → List Char → Prop
  | plain {n : List Char} (hne : n ≠ []) (h : ∀ c ∈ n, NameCharacter c) : NameText (.ofList n) n
  | quoted {n : List Char} (hne : n ≠ []) (h : ∀ c ∈ n, NameCharacter c) :
      NameText (.ofList n) ('\x60' :: (n ++ ['\x60']))

inductive KeyspaceText : Keyspace → List Char → Prop
  | unqualified {n : String} {t : List Char} (h : NameText n t) : KeyspaceText ⟨none, n⟩ t
  | qualified {schema t : List Char} {n : String} (hne : schema ≠ [])
      (hschema : ∀ c ∈ schema, Letter c) (h : NameText n t) :
      KeyspaceText ⟨some (.ofList schema), n⟩ (schema ++ ':' :: t)

/-- Blanks, and perhaps a semicolon among them. -/
inductive EndText : List Char → Prop
  | blank {b : List Char} (h : ∀ c ∈ b, isBlank c = true) : EndText b
  | semicolon {b b' : List Char} (h : ∀ c ∈ b, isBlank c = true)
      (h' : ∀ c ∈ b', isBlank c = true) : EndText (b ++ ';' :: b')

section Characters

variable {c l : Char}

theorem toLower_eq_iff (hl : l.isLower = true) : c.toLower = l ↔ c = l ∨ c = l.toUpper := by
  have hnot : ¬ l.isUpper = true := Char.not_isUpper_of_isLower hl
  constructor
  · rintro rfl
    by_cases hc : c.isUpper = true
    · have hlower := Char.not_isLower_of_isUpper hc
      exact .inr (by rw [Char.toUpper_toLower_eq_toUpper, Char.toUpper_eq_of_not_isLower hlower])
    · exact .inl (Char.toLower_eq_of_not_isUpper hc).symm
  · rintro (rfl | rfl)
    · exact Char.toLower_eq_of_not_isUpper hnot
    · rw [Char.toLower_toUpper_eq_toLower, Char.toLower_eq_of_not_isUpper hnot]

theorem foldLetter_longS : foldLetter '\u017f' = 's' := by decide

theorem foldLetter_kelvin : foldLetter '\u212a' = 'k' := by decide

theorem foldLetter_of_ne (hs : c ≠ '\u017f') (hk : c ≠ '\u212a') : foldLetter c = c.toLower := by
  have hs' : c.toNat ≠ 0x17F := fun h => hs (Char.toNat_inj.mp h)
  have hk' : c.toNat ≠ 0x212A := fun h => hk (Char.toNat_inj.mp h)
  simp [foldLetter, hs', hk']

theorem foldLetter_eq_iff (hl : l.isLower = true) : foldLetter c = l ↔ WrittenAs l c := by
  rw [WrittenAs, ← or_assoc, ← toLower_eq_iff hl]
  by_cases hs : c = '\u017f'
  · subst hs
    have hlower : '\u017f'.toLower ≠ l := (ne_of_class hl (by decide)).symm
    rw [foldLetter_longS]
    constructor
    · rintro rfl
      exact .inr (.inl ⟨rfl, rfl⟩)
    · rintro (h | ⟨rfl, -⟩ | ⟨-, h⟩)
      · exact absurd h hlower
      · rfl
      · exact absurd h (by decide)
  by_cases hk : c = '\u212a'
  · subst hk
    have hlower : '\u212a'.toLower ≠ l := (ne_of_class hl (by decide)).symm
    rw [foldLetter_kelvin]
    constructor
    · rintro rfl
      exact .inr (.inr ⟨rfl, rfl⟩)
    · rintro (h | ⟨-, h⟩ | ⟨rfl, -⟩)
      · exact absurd h hlower
      · exact absurd h (by decide)
      · rfl
  simp [foldLetter_of_ne hs hk, hs, hk]

theorem isLetter_iff : isLetter c = true ↔ Letter c := by
  unfold isLetter Letter
  by_cases hs : c = '\u017f'
  · simp [hs, foldLetter_longS]
  by_cases hk : c = '\u212a'
  · simp [hk, foldLetter_kelvin]
  simp [foldLetter_of_ne hs hk, hs, hk]

theorem isNameChar_iff : isNameChar c = true ↔ NameCharacter c := by
  simp only [isNameChar, NameCharacter, Bool.or_eq_true, beq_iff_eq, isLetter_iff, List.mem_cons,
    List.not_mem_nil, or_false, or_assoc]

theorem toNat_of_isBlank (h : isBlank c = true) :
    c.toNat ≤ 32 ∨ 133 ≤ c.toNat ∧ c.toNat ≠ 0x17F ∧ c.toNat ≠ 0x212A := by
  simp only [isBlank, Bool.or_eq_true, Bool.and_eq_true, decide_eq_true_eq, beq_iff_eq] at h
  omega

theorem NameCharacter.toNat (h : NameCharacter c) :
    45 ≤ c.toNat ∧ c.toNat ≤ 57 ∧ c.toNat ≠ 47 ∨ c.toNat = 37 ∨
      65 ≤ c.toNat ∧ c.toNat ≤ 122 ∧ c.toNat ≠ 96 ∨ c.toNat = 0x17F ∨ c.toNat = 0x212A := by
  have hval : c.val.toNat = c.toNat := rfl
  rcases h with (h | rfl | rfl) | h | h
  · simp only [Char.isAlpha, Char.isUpper, Char.isLower, Bool.or_eq_true, Bool.and_eq_true,
      decide_eq_true_eq, ge_iff_le, UInt32.le_iff_toNat_le, hval] at h
    have hupper : 'A'.val.toNat = 65 ∧ 'Z'.val.toNat = 90 := ⟨rfl, rfl⟩
    have hlower : 'a'.val.toNat = 97 ∧ 'z'.val.toNat = 122 := ⟨rfl, rfl⟩
    omega
  · decide
  · decide
  · simp only [Char.isDigit, Bool.and_eq_true, decide_eq_true_eq, ge_iff_le,
      UInt32.le_iff_toNat_le, hval] at h
    have hdigit : '0'.val.toNat = 48 ∧ '9'.val.toNat = 57 := ⟨rfl, rfl⟩
    omega
  · fin_cases h <;> decide

theorem NameCharacter.not_isBlank (h : NameCharacter c) : isBlank c = false := by
  by_contra hblank
  have hlow := toNat_of_isBlank (Bool.not_eq_false _ ▸ hblank)
  have hname := h.toNat
  omega

theorem NameCharacter.ne {d : Char} (h : NameCharacter c) (hd : d ∈ [';', ':', '\x60', '\x7b']) :
    c ≠ d := by
  rintro rfl
  have hname := h.toNat
  fin_cases hd <;> revert hname <;> decide

theorem WrittenAs.letter (h : WrittenAs l c) (hl : l.isLower = true) : Letter c := by
  rw [← isLetter_iff, isLetter, (foldLetter_eq_iff hl).mpr h]
  exact hl

end Characters

section Words

variable {word other written s r t b : List Char} {words : List (List Char)}

/-- Small letters, one or more. -/
abbrev Keyword (word : List Char) : Prop := word ≠ [] ∧ ∀ l ∈ word, l.isLower = true

theorem Spells.map_foldLetter (h : Spells word written) (hword : ∀ l ∈ word, l.isLower = true) :
    written.map foldLetter = word := by
  induction h with
  | nil => rfl
  | cons hc _ ih =>
    obtain ⟨hl, hword⟩ := List.forall_mem_cons.mp hword
    rw [List.map_cons, (foldLetter_eq_iff hl).mpr hc, ih hword]

theorem Spells.letter (h : Spells word written) (hword : ∀ l ∈ word, l.isLower = true) :
    ∀ c ∈ written, Letter c := by
  induction h with
  | nil => simp
  | cons hc _ ih =>
    obtain ⟨hl, hword⟩ := List.forall_mem_cons.mp hword
    exact List.forall_mem_cons.mpr ⟨hc.letter hl, ih hword⟩

theorem dropWord_append (h : Spells word written) (hword : ∀ l ∈ word, l.isLower = true) :
    dropWord word (written ++ r) = some r := by
  induction h with
  | nil => rfl
  | cons hc _ ih =>
    obtain ⟨hl, hword⟩ := List.forall_mem_cons.mp hword
    simp [dropWord, (foldLetter_eq_iff hl).mpr hc, ih hword]

theorem dropWord_eq_some (h : dropWord word s = some r) (hword : ∀ l ∈ word, l.isLower = true) :
    ∃ written, Spells word written ∧ s = written ++ r := by
  induction word generalizing s with
  | nil => exact ⟨[], .nil, Option.some.inj h⟩
  | cons l word ih =>
    obtain ⟨hl, hword⟩ := List.forall_mem_cons.mp hword
    cases s with
    | nil => cases h
    | cons c s =>
      simp only [dropWord, Option.ite_none_right_eq_some, beq_iff_eq] at h
      obtain ⟨written, hwritten, rfl⟩ := ih h.2 hword
      exact ⟨c :: written, .cons ((foldLetter_eq_iff hl).mp h.1) hwritten, rfl⟩

theorem spells_of_dropWord (h : dropWord word s = some []) (hword : ∀ l ∈ word, l.isLower = true) :
    Spells word s := by
  obtain ⟨written, hwritten, rfl⟩ := dropWord_eq_some h hword
  rwa [List.append_nil]

/-- Two words begin one text only if one of them begins the other. -/
theorem prefix_or_prefix_of_dropWord (hword : ∀ l ∈ word, l.isLower = true)
    (hother : ∀ l ∈ other, l.isLower = true) (h : dropWord word s = some r)
    (h' : dropWord other s = some t) : word <+: other ∨ other <+: word := by
  obtain ⟨written, hw, rfl⟩ := dropWord_eq_some h hword
  obtain ⟨written', hw', happend⟩ := dropWord_eq_some h' hother
  rw [← hw.map_foldLetter hword, ← hw'.map_foldLetter hother]
  rcases List.prefix_or_prefix_of_prefix ⟨r, rfl⟩ ⟨t, happend.symm⟩ with hinit | hinit
  · exact .inl (hinit.map foldLetter)
  · exact .inr (hinit.map foldLetter)

theorem gap_append (hb : Blanks b) (hr : ∀ c ∈ r.head?, isBlank c = false) :
    gap (b ++ r) = some r := by
  obtain ⟨hne, hb⟩ := hb
  cases b with
  | nil => exact absurd rfl hne
  | cons c b =>
    obtain ⟨hc, hb⟩ := List.forall_mem_cons.mp hb
    have hstop : r.dropWhile isBlank = r := by
      cases r with
      | nil => rfl
      | cons d r => exact List.dropWhile_cons_of_neg (by simp [hr d rfl])
    simp [gap, hc, List.dropWhile_append_of_pos hb, hstop]

theorem gap_eq_some (h : gap s = some r) : ∃ b, Blanks b ∧ s = b ++ r := by
  cases s with
  | nil => cases h
  | cons c s =>
    simp only [gap, Option.ite_none_right_eq_some, Option.some.injEq] at h
    obtain ⟨hc, rfl⟩ := h
    refine ⟨c :: s.takeWhile isBlank, ⟨nofun, List.forall_mem_cons.mpr ⟨hc, ?_⟩⟩, ?_⟩
    · exact fun d hd => List.mem_takeWhile_imp hd
    · rw [List.cons_append, List.takeWhile_append_dropWhile]

theorem gap_eq_none (h : ∀ c ∈ s.head?, isBlank c = false) : gap s = none := by
  cases s with
  | nil => rfl
  | cons c s => simp [gap, h c rfl]

theorem head?_written (hword : Keyword word) (h : Spells word written) :
    ∀ c ∈ (written ++ r).head?, isBlank c = false := by
  have hletter := h.letter hword.2
  cases h with
  | nil => exact absurd rfl hword.1
  | cons hc hrest =>
    intro c hc
    cases hc
    exact NameCharacter.not_isBlank (.inl (hletter _ List.mem_cons_self))

theorem nextWord_append (hword : Keyword word) (hb : Blanks b) (h : Spells word written) :
    nextWord word (b ++ (written ++ r)) = some r := by
  rw [nextWord, gap_append hb (head?_written hword h)]
  exact dropWord_append h hword.2

theorem nextWord_eq_some (hword : Keyword word) (h : nextWord word s = some r) :
    ∃ b written, Blanks b ∧ Spells word written ∧ s = b ++ (written ++ r) := by
  obtain ⟨s', hgap, hdrop⟩ := Option.bind_eq_some_iff.mp h
  obtain ⟨b, hb, rfl⟩ := gap_eq_some hgap
  obtain ⟨written, hwritten, rfl⟩ := dropWord_eq_some hdrop hword.2
  exact ⟨b, written, hb, hwritten, rfl⟩

/-- A word stands where another does only if one begins the other. -/
theorem nextWord_eq_none_of_other (hword : Keyword word) (hother : Keyword other)
    (h : ¬ word <+: other) (h' : ¬ other <+: word) (hb : Blanks b) (hw : Spells other written) :
    nextWord word (b ++ (written ++ r)) = none := by
  rw [nextWord, gap_append hb (head?_written hother hw), Option.bind_some]
  by_contra hne
  obtain ⟨r', hr'⟩ := Option.ne_none_iff_exists'.mp hne
  rcases prefix_or_prefix_of_dropWord hword.2 hother.2 hr' (dropWord_append hw hother.2) with
    hprefix | hprefix
  · exact h hprefix
  · exact h' hprefix

theorem Clause.nextWord_eq_none (h : Clause (other :: words) t) (hword : Keyword word)
    (hother : Keyword other) (hne : ¬ word <+: other) (hne' : ¬ other <+: word) :
    nextWord word (t ++ r) = none := by
  cases h with
  | cons hb hw hrest =>
    rw [List.append_assoc, List.append_assoc]
    exact nextWord_eq_none_of_other hword hother hne hne' hb hw

theorem nextWords_append (hwords : ∀ w ∈ words, Keyword w) (h : Clause words t) :
    nextWords words (t ++ r) = some r := by
  induction h with
  | nil => rfl
  | cons hb hword hrest ih =>
    obtain ⟨hkeyword, hwords⟩ := List.forall_mem_cons.mp hwords
    rw [nextWords, List.append_assoc, List.append_assoc, nextWord_append hkeyword hb hword]
    exact ih hwords

theorem nextWords_eq_some (hwords : ∀ w ∈ words, Keyword w) (h : nextWords words s = some r) :
    ∃ t, Clause words t ∧ s = t ++ r := by
  induction words generalizing s with
  | nil => exact ⟨[], .nil, Option.some.inj h⟩
  | cons word words ih =>
    obtain ⟨hword, hwords⟩ := List.forall_mem_cons.mp hwords
    obtain ⟨s', hfirst, hrest⟩ := Option.bind_eq_some_iff.mp h
    obtain ⟨b, written, hb, hwritten, rfl⟩ := nextWord_eq_some hword hfirst
    obtain ⟨t, ht, rfl⟩ := ih hwords hrest
    exact ⟨_, .cons hb hwritten ht, by simp⟩

theorem optional_of_clause (hwords : ∀ w ∈ words, Keyword w) (h : Clause words t) :
    optional words (t ++ r) = (true, r) := by
  rw [optional, nextWords_append hwords h]

theorem optional_of_none (h : nextWord word s = none) :
    optional (word :: words) s = (false, s) := by
  rw [optional, nextWords, h]
  rfl

theorem optional_eq (hwords : ∀ w ∈ words, Keyword w) {present : Bool}
    (h : optional words s = (present, r)) : ∃ t, Optionally words present t ∧ s = t ++ r := by
  unfold optional at h
  split at h
  · next rest hrest =>
    cases h
    obtain ⟨t, ht, rfl⟩ := nextWords_eq_some hwords hrest
    exact ⟨t, .present ht, rfl⟩
  · cases h
    exact ⟨[], .absent, rfl⟩

end Words

section Separators

variable {word b t r s : List Char} {words : List (List Char)} {c : Char}

/-- What can follow a word or a name: a blank, a semicolon or nothing. -/
def Separated (r : List Char) : Prop := ∀ c ∈ r.head?, isBlank c = true ∨ c = ';'

theorem isNameChar_of_separated (h : Separated r) : ∀ c ∈ r.head?, isNameChar c = false := by
  intro c hc
  by_contra hname
  have hname := isNameChar_iff.mp (Bool.not_eq_false _ ▸ hname)
  rcases h c hc with hblank | rfl
  · rw [hname.not_isBlank] at hblank
    cases hblank
  · exact hname.ne (by simp) rfl

theorem Blanks.separated (hb : Blanks b) : Separated (b ++ r) := by
  obtain ⟨hne, hb⟩ := hb
  cases b with
  | nil => exact absurd rfl hne
  | cons c b =>
    intro d hd
    cases hd
    exact .inl (hb c List.mem_cons_self)

theorem Clause.separated (h : Clause words t) (hr : Separated r) : Separated (t ++ r) := by
  cases h with
  | nil => exact hr
  | cons hb =>
    rw [List.append_assoc]
    exact hb.separated

theorem Optionally.separated {present : Bool} (h : Optionally words present t)
    (hr : Separated r) : Separated (t ++ r) := by
  cases h with
  | absent => exact hr
  | present h => exact h.separated hr

theorem EndText.blank_or_semicolon (h : EndText t) : ∀ c ∈ t, isBlank c = true ∨ c = ';' := by
  cases h with
  | blank h => exact fun c hc => .inl (h c hc)
  | semicolon h h' =>
    intro c hc
    rcases List.mem_append.mp hc with hc | hc
    · exact .inl (h c hc)
    · rcases List.mem_cons.mp hc with rfl | hc
      · exact .inr rfl
      · exact .inl (h' c hc)

theorem EndText.separated (h : EndText t) : Separated t :=
  fun c hc => h.blank_or_semicolon c (List.mem_of_mem_head? hc)

theorem dropWhile_semicolon : (';' :: r).dropWhile isBlank = ';' :: r :=
  List.dropWhile_cons_of_neg (by decide)

theorem isEnd_iff : isEnd s = true ↔ EndText s := by
  constructor
  · intro h
    have hsplit := List.takeWhile_append_dropWhile (p := isBlank) (l := s)
    have hblank : ∀ c ∈ s.takeWhile isBlank, isBlank c = true := fun c => List.mem_takeWhile_imp
    unfold isEnd at h
    split at h
    · next r hr =>
      rw [← hsplit, hr]
      exact .semicolon hblank (List.all_eq_true.mp h)
    · rw [← hsplit, List.isEmpty_iff.mp h, List.append_nil]
      exact .blank hblank
  · rintro (h | ⟨h, h'⟩)
    · have hnone := List.dropWhile_eq_nil_iff.mpr h
      simp [isEnd, hnone]
    · rw [isEnd, List.dropWhile_append_of_pos h, dropWhile_semicolon]
      exact List.all_eq_true.mpr h'

theorem NameCharacter.not_separator (h : NameCharacter c) : ¬ (isBlank c = true ∨ c = ';') := by
  rintro (hblank | rfl)
  · rw [h.not_isBlank] at hblank
    cases hblank
  · exact h.ne (by simp) rfl

theorem nextWord_eq_none_of_end (hword : Keyword word) (h : EndText s) :
    nextWord word s = none := by
  by_contra hne
  obtain ⟨r, hr⟩ := Option.ne_none_iff_exists'.mp hne
  obtain ⟨b, written, hb, hwritten, rfl⟩ := nextWord_eq_some hword hr
  have hletter := hwritten.letter hword.2
  cases hwritten with
  | nil => exact hword.1 rfl
  | @cons l c word written hc hrest =>
    have hend := h.blank_or_semicolon c (by simp)
    exact NameCharacter.not_separator (.inl (hletter c List.mem_cons_self)) hend

end Separators

section Names

variable {n : String} {t r s : List Char} {k : Keyspace}

/-- A run of characters of a class, up to one that is not in it. -/
theorem name_append (h : NameText n t) (hr : ∀ c ∈ r.head?, isNameChar c = false) :
    name (t ++ r) = some (n, r) := by
  cases h with
  | plain hne h =>
    have hname : ∀ c ∈ t, isNameChar c = true := fun c hc => isNameChar_iff.mpr (h c hc)
    obtain ⟨htake, hdrop⟩ := takeWhile_run hname hr
    cases t with
    | nil => exact absurd rfl hne
    | cons c n =>
      have hc : c ≠ '\x60' := (h c List.mem_cons_self).ne (by simp)
      unfold name
      split
      · next heq => exact absurd (List.cons.inj heq).1 hc
      · simp only [htake, hdrop]
  | @quoted n hne h =>
    have hname : ∀ c ∈ n, isNameChar c = true := fun c hc => isNameChar_iff.mpr (h c hc)
    have hquote : ∀ c ∈ ('\x60' :: r).head?, isNameChar c = false := by
      intro c hc
      cases hc
      decide
    obtain ⟨htake, hdrop⟩ := takeWhile_run hname hquote
    cases n with
    | nil => exact absurd rfl hne
    | cons c n =>
      simp only [List.cons_append, List.append_assoc, List.nil_append] at htake hdrop ⊢
      simp only [name, htake, hdrop]

theorem name_eq_some (h : name s = some (n, r)) : ∃ t, NameText n t ∧ s = t ++ r := by
  have hname : ∀ s : List Char, ∀ c ∈ s.takeWhile isNameChar, NameCharacter c :=
    fun s c hc => isNameChar_iff.mp (List.mem_takeWhile_imp hc)
  unfold name at h
  split at h
  · next q =>
    have hsplit := List.takeWhile_append_dropWhile (p := isNameChar) (l := q)
    have hq := hname q
    split at h
    · next c n' rest htake hdrop =>
      cases h
      rw [htake] at hq
      refine ⟨_, .quoted (List.cons_ne_nil c n') hq, ?_⟩
      rw [← hsplit, htake, hdrop]
      simp
    · cases h
  · have hs := hname s
    have hsplit := List.takeWhile_append_dropWhile (p := isNameChar) (l := s)
    split at h
    · cases h
    · next hne =>
      cases h
      exact ⟨_, .plain hne hs, hsplit.symm⟩

theorem NameText.characters (h : NameText n t) : ∀ c ∈ t, NameCharacter c ∨ c = '\x60' := by
  cases h with
  | plain hne h => exact fun c hc => .inl (h c hc)
  | quoted hne h =>
    intro c hc
    simp only [List.mem_cons, List.mem_append, List.not_mem_nil, or_false] at hc
    rcases hc with rfl | hc | rfl
    · exact .inr rfl
    · exact .inl (h c hc)
    · exact .inr rfl

theorem NameText.dropWhile_ne_colon (h : NameText n t) (hr : Separated r) :
    ∀ c ∈ ((t ++ r).dropWhile isLetter).head?, c ≠ ':' := by
  have hcolon : ':' ∉ t := fun hmem => by
    rcases h.characters ':' hmem with hname | heq
    · exact hname.ne (by simp) rfl
    · cases heq
  rintro c hc rfl
  rw [List.dropWhile_append] at hc
  split at hc
  · cases r with
    | nil => cases hc
    | cons d r =>
      by_cases hd : isLetter d = true
      · exact NameCharacter.not_separator (.inl (isLetter_iff.mp hd)) (hr d rfl)
      · rw [List.dropWhile_cons_of_neg hd] at hc
        cases hc
        exact absurd (hr ':' rfl) (by decide)
  · next hne =>
    rw [List.head?_append_of_ne_nil _ (by simpa using hne)] at hc
    exact hcolon ((List.dropWhile_suffix isLetter).subset (List.mem_of_mem_head? hc))

theorem keyspace_append (h : KeyspaceText k t) (hr : Separated r) :
    keyspace (t ++ r) = some (k, r) := by
  have hclear := isNameChar_of_separated hr
  cases h with
  | unqualified h =>
    unfold keyspace
    split
    · next c schema r' htake hdrop =>
      have hcolon := h.dropWhile_ne_colon hr
      rw [hdrop] at hcolon
      exact absurd rfl (hcolon ':' rfl)
    · rw [name_append h hclear]
      rfl
  | @qualified schema t n hne hschema h =>
    have hletter : ∀ c ∈ schema, isLetter c = true := fun c hc => isLetter_iff.mpr (hschema c hc)
    have hcolon : ∀ c ∈ (':' :: (t ++ r)).head?, isLetter c = false := by
      intro c hc
      cases hc
      decide
    obtain ⟨htake, hdrop⟩ := takeWhile_run hletter hcolon
    cases schema with
    | nil => exact absurd rfl hne
    | cons c schema =>
      simp only [List.append_assoc, List.cons_append] at htake hdrop ⊢
      simp only [keyspace, htake, hdrop, name_append h hclear, Option.map_some]

theorem keyspace_eq_some (h : keyspace s = some (k, r)) : ∃ t, KeyspaceText k t ∧ s = t ++ r := by
  have hletter : ∀ c ∈ s.takeWhile isLetter, Letter c :=
    fun c hc => isLetter_iff.mp (List.mem_takeWhile_imp hc)
  have hsplit := List.takeWhile_append_dropWhile (p := isLetter) (l := s)
  unfold keyspace at h
  split at h
  · next c schema r' htake hdrop =>
    obtain ⟨⟨n, rest⟩, hn, he⟩ := Option.map_eq_some_iff.mp h
    cases he
    obtain ⟨t, ht, rfl⟩ := name_eq_some hn
    rw [htake] at hletter
    refine ⟨_, .qualified (List.cons_ne_nil c schema) hletter ht, ?_⟩
    rw [← hsplit, htake, hdrop]
    simp
  · obtain ⟨⟨n, rest⟩, hn, he⟩ := Option.map_eq_some_iff.mp h
    cases he
    obtain ⟨t, ht, rfl⟩ := name_eq_some hn
    exact ⟨t, .unqualified ht, rfl⟩

theorem KeyspaceText.not_isBlank (h : KeyspaceText k t) : ∀ c ∈ t, isBlank c = false := by
  have hname : ∀ {n : String} {t : List Char}, NameText n t → ∀ c ∈ t, isBlank c = false := by
    intro n t h c hc
    rcases h.characters c hc with hname | rfl
    · exact hname.not_isBlank
    · decide
  cases h with
  | unqualified h => exact hname h
  | qualified hne hschema h =>
    intro c hc
    rcases List.mem_append.mp hc with hc | hc
    · exact NameCharacter.not_isBlank (.inl (hschema c hc))
    · rcases List.mem_cons.mp hc with rfl | hc
      · decide
      · exact hname h c hc

theorem KeyspaceText.ne_nil (h : KeyspaceText k t) : t ≠ [] := by
  rcases h with (⟨hne⟩ | ⟨hne⟩) | ⟨hne⟩
  · exact hne
  · exact List.cons_ne_nil _ _
  · simp

theorem KeyspaceText.head?_append (h : KeyspaceText k t) :
    ∀ c ∈ (t ++ r).head?, isBlank c = false := by
  rw [List.head?_append_of_ne_nil _ h.ne_nil]
  exact fun c hc => h.not_isBlank c (List.mem_of_mem_head? hc)

theorem KeyspaceText.semicolon_not_mem (h : KeyspaceText k t) : ';' ∉ t := by
  have hname : ∀ {n : String} {t : List Char}, NameText n t → ';' ∉ t := by
    intro n t h hmem
    rcases h.characters ';' hmem with hname | heq
    · exact hname.ne (by simp) rfl
    · cases heq
  cases h with
  | unqualified h => exact hname h
  | qualified hne hschema h =>
    intro hmem
    rcases List.mem_append.mp hmem with hmem | hmem
    · exact NameCharacter.ne (.inl (hschema ';' hmem)) (by simp) rfl
    · rcases List.mem_cons.mp hmem with heq | hmem
      · cases heq
      · exact hname h hmem

theorem nextKeyspace_append {b : List Char} (hb : Blanks b) (h : KeyspaceText k t)
    (hr : Separated r) : nextKeyspace (b ++ (t ++ r)) = some (k, r) := by
  rw [nextKeyspace, gap_append hb h.head?_append, Option.bind_some]
  exact keyspace_append h hr

theorem nextKeyspace_eq_some (h : nextKeyspace s = some (k, r)) :
    ∃ b t, Blanks b ∧ KeyspaceText k t ∧ s = b ++ (t ++ r) := by
  obtain ⟨s', hgap, hkeyspace⟩ := Option.bind_eq_some_iff.mp h
  obtain ⟨b, hb, rfl⟩ := gap_eq_some hgap
  obtain ⟨t, ht, rfl⟩ := keyspace_eq_some hkeyspace
  exact ⟨b, t, hb, ht, rfl⟩

/-- A word that begins a name is all of it, or else no blank follows the word. -/
theorem gap_of_name {word r' : List Char} (hword : Keyword word) (h : KeyspaceText k t)
    (hr : Separated r) (hdrop : dropWord word (t ++ r) = some r') : gap r' = none ∨ r' = r := by
  obtain ⟨written, hwritten, happend⟩ := dropWord_eq_some hdrop hword.2
  rcases List.append_eq_append_iff.mp happend with ⟨m, hm, hr'⟩ | ⟨m, hm, hr'⟩
  · cases m with
    | nil => exact .inr hr'.symm
    | cons d m =>
      have hd : Letter d := hwritten.letter hword.2 d (by simp [hm])
      exact absurd (hr d (by simp [hr'])) (NameCharacter.not_separator (.inl hd))
  · cases m with
    | nil => exact .inr hr'
    | cons d m =>
      have hd : isBlank d = false := h.not_isBlank d (by simp [hm])
      refine .inl (gap_eq_none fun c hc => ?_)
      rw [hr'] at hc
      cases hc
      exact hd

end Names

end KeyspaceLink.Grammar

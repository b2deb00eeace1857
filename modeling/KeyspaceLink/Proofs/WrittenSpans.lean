import KeyspaceLink.Duration
import Mathlib

/-! Spans of time as texts write them. A span is read from the texts of the amounts that fit, each a
number of milliseconds, seconds or minutes, and from no others; it is that amount to the
millisecond. No word is too short for what is reckoned on the way: with each sum and product
checked, the same texts give the same span. -/

namespace KeyspaceLink

section Numerals

variable {s : List Char} {c : Char} {n : Nat}

theorem digitChar_of_isDigit (h : c.isDigit = true) : Nat.digitChar (c.toNat - 48) = c := by
  have hc : 48 ≤ c.toNat ∧ c.toNat ≤ 57 := Char.isDigit_iff_toNat.mp h
  have hvalue : (Nat.digitChar (c.toNat - 48)).toNat = c.toNat := by
    rw [Nat.toNat_digitChar_of_lt_ten (by omega)]
    omega
  exact Char.toNat_inj.mp hvalue

theorem toDigits_append_digit (hn : 0 < n) (h : c.isDigit = true) :
    Nat.toDigits 10 n ++ [c] = Nat.toDigits 10 (n * 10 + (c.toNat - 48)) := by
  have hc : 48 ≤ c.toNat ∧ c.toNat ≤ 57 := Char.isDigit_iff_toNat.mp h
  have hlt : c.toNat - 48 < 10 := by omega
  have happend := Nat.toDigits_append_toDigits (by decide : 1 < 10) hn hlt
  rwa [Nat.toDigits_of_lt_base hlt, digitChar_of_isDigit h, Nat.mul_comm] at happend

theorem toDigits_append (hn : 0 < n) (hs : ∀ c ∈ s, c.isDigit = true) :
    Nat.toDigits 10 n ++ s = Nat.toDigits 10 (digitsValue n s) := by
  induction s generalizing n with
  | nil => simp [digitsValue]
  | cons c s ih =>
    have hc := hs c List.mem_cons_self
    have hnext : 0 < n * 10 + (c.toNat - 48) := by omega
    calc Nat.toDigits 10 n ++ c :: s = (Nat.toDigits 10 n ++ [c]) ++ s := by simp
      _ = Nat.toDigits 10 (n * 10 + (c.toNat - 48)) ++ s := by rw [toDigits_append_digit hn hc]
      _ = Nat.toDigits 10 (digitsValue n (c :: s)) :=
        ih hnext fun d hd => hs d (List.mem_cons_of_mem c hd)

theorem digitsValue_zeros (zeros : Nat) (s : List Char) :
    digitsValue 0 (List.replicate zeros '0' ++ s) = digitsValue 0 s := by
  induction zeros with
  | zero => rfl
  | succ zeros ih => exact ih

/-- A run of digits is its value in decimal, after zeros. -/
theorem exists_zeros (hne : s ≠ []) (hs : ∀ c ∈ s, c.isDigit = true) :
    ∃ zeros, s = List.replicate zeros '0' ++ Nat.toDigits 10 (digitsValue 0 s) := by
  induction s with
  | nil => exact absurd rfl hne
  | cons c s ih =>
    have hdigit := hs c List.mem_cons_self
    have hc : 48 ≤ c.toNat ∧ c.toNat ≤ 57 := Char.isDigit_iff_toNat.mp hdigit
    have hrest := fun d hd => hs d (List.mem_cons_of_mem c hd)
    by_cases hzero : c = '0'
    · subst hzero
      by_cases hend : s = []
      · subst hend
        exact ⟨0, by decide⟩
      · obtain ⟨zeros, hzeros⟩ := ih hend hrest
        refine ⟨zeros + 1, ?_⟩
        rw [List.replicate_succ, List.cons_append]
        exact congrArg ('0' :: ·) hzeros
    · -- the first digit that is no zero begins the decimal
      have hpos : 0 < c.toNat - 48 := by
        have hne : c.toNat ≠ 48 := fun h => hzero (Char.toNat_inj.mp h)
        omega
      have happend := toDigits_append hpos hrest
      rw [Nat.toDigits_of_lt_base (by omega), digitChar_of_isDigit hdigit] at happend
      refine ⟨0, ?_⟩
      simpa [digitsValue] using happend

end Numerals

section Words

variable {s : List Char} {m n : Nat}

/-- The numbers that a word holds. -/
def fitting? (n : Nat) : Option Nat := if n < word64 then some n else none

theorem fitting?_eq_some_iff : fitting? n = some m ↔ n < word64 ∧ n = m := by
  simp [fitting?]

theorem fitting?_eq_none_iff : fitting? n = none ↔ word64 ≤ n := by
  simp [fitting?]

/-- The word that is left of a result, unless it was cut. -/
def checked? (result : Nat) (left : UInt64) : Option UInt64 :=
  if result < word64 then some left else none

def addWords? (a b : UInt64) : Option UInt64 := checked? (a.toNat + b.toNat) (a + b)

def mulWords? (a b : UInt64) : Option UInt64 := checked? (a.toNat * b.toNat) (a * b)

def pushDigit? (n : UInt64) (c : Char) : Option UInt64 :=
  (mulWords? n 10).bind fun tens => addWords? tens (.ofNat (c.toNat - 48))

def readWord? (s : List Char) : Option UInt64 := if s.isEmpty then none else s.foldlM pushDigit? 0

theorem toNat_checked? {left : UInt64} (h : left.toNat = n % 2 ^ 64) :
    (checked? n left).map UInt64.toNat = fitting? n := by
  rw [checked?, fitting?]
  by_cases hn : n < word64
  · have hleft : left.toNat = n := h.trans (Nat.mod_eq_of_lt hn)
    simp [hn, hleft]
  · simp [hn]

theorem toNat_addWords? (a b : UInt64) :
    (addWords? a b).map UInt64.toNat = fitting? (a.toNat + b.toNat) :=
  toNat_checked? (UInt64.toNat_add a b)

theorem toNat_mulWords? (a b : UInt64) :
    (mulWords? a b).map UInt64.toNat = fitting? (a.toNat * b.toNat) :=
  toNat_checked? (UInt64.toNat_mul a b)

/-- What is too great for a word on the way is too great in the end. -/
theorem toNat_bind {x : Option UInt64} {f : UInt64 → Option UInt64}
    (hx : x.map UInt64.toNat = fitting? n) (hle : n ≤ m)
    (hf : ∀ w : UInt64, n = w.toNat → (f w).map UInt64.toNat = fitting? m) :
    (x.bind f).map UInt64.toNat = fitting? m := by
  cases x with
  | none =>
    have hpast := fitting?_eq_none_iff.mp hx.symm
    rw [fitting?_eq_none_iff.mpr (Nat.le_trans hpast hle)]
    rfl
  | some w => exact hf w (fitting?_eq_some_iff.mp hx.symm).2

theorem toNat_pushDigit? {n : UInt64} {c : Char} (hc : c.isDigit = true) :
    (pushDigit? n c).map UInt64.toNat = fitting? (n.toNat * 10 + (c.toNat - 48)) := by
  have hle : 48 ≤ c.toNat ∧ c.toNat ≤ 57 := Char.isDigit_iff_toNat.mp hc
  have hlt : c.toNat - 48 < 2 ^ 64 := by omega
  have hdigit : (UInt64.ofNat (c.toNat - 48)).toNat = c.toNat - 48 :=
    UInt64.toNat_ofNat_of_lt' hlt
  apply toNat_bind (toNat_mulWords? n 10) (Nat.le_add_right _ _)
  intro tens htens
  have hten : (10 : UInt64).toNat = 10 := rfl
  rw [toNat_addWords?, hdigit, ← htens, hten]

theorem toNat_foldlM_pushDigit? {n : UInt64} (hs : ∀ c ∈ s, c.isDigit = true) :
    (s.foldlM pushDigit? n).map UInt64.toNat = fitting? (digitsValue n.toNat s) := by
  induction s generalizing n with
  | nil => exact (fitting?_eq_some_iff.mpr ⟨n.toNat_lt, rfl⟩).symm
  | cons c s ih =>
    apply toNat_bind (toNat_pushDigit? (hs c List.mem_cons_self)) (le_digitsValue _ s)
    intro next hnext
    have hread := ih (n := next) fun d hd => hs d (List.mem_cons_of_mem c hd)
    rwa [← hnext] at hread

theorem toNat_readWord? (hs : ∀ c ∈ s, c.isDigit = true) :
    (readWord? s).map UInt64.toNat = readDigits? word64 s := by
  have hall : s.all Char.isDigit = true := List.all_eq_true.mpr hs
  rw [readWord?, readDigits?, hall]
  cases s with
  | nil => rfl
  | cons c s =>
    have hread := toNat_foldlM_pushDigit? (n := 0) hs
    simpa [fitting?] using hread

end Words

inductive TimeUnit
  | millisecond
  | second
  | minute
deriving DecidableEq

namespace TimeUnit

variable {m : String} {u : TimeUnit} {c : Char}

def millis : TimeUnit → Nat
  | millisecond => 1
  | second => 1000
  | minute => 60000

/-- Milliseconds need no mark. -/
def marks : TimeUnit → List String
  | millisecond => ["", "ms"]
  | second => ["s"]
  | minute => ["m"]

def ofMark? : List Char → Option TimeUnit
  | [] | ['m', 's'] => some millisecond
  | ['s'] => some second
  | ['m'] => some minute
  | _ => none

theorem ofMark?_eq_some_iff {mark : List Char} :
    ofMark? mark = some u ↔ ∃ m ∈ u.marks, mark = m.toList := by
  constructor
  · intro h
    rw [ofMark?.eq_def] at h
    split at h
    all_goals cases h
    · exact ⟨"", by simp [marks]⟩
    · exact ⟨"ms", by simp [marks]⟩
    · exact ⟨"s", by simp [marks]⟩
    · exact ⟨"m", by simp [marks]⟩
  · rintro ⟨m, hm, rfl⟩
    cases u <;> simp only [marks, List.mem_cons, List.not_mem_nil, or_false] at hm
    · rcases hm with rfl | rfl <;> rfl
    · subst hm
      rfl
    · subst hm
      rfl

theorem letter_of_mem_marks (h : m ∈ u.marks) (hc : c ∈ m.toList) : c = 'm' ∨ c = 's' := by
  cases u <;> simp only [marks, List.mem_cons, List.not_mem_nil, or_false] at h
  · rcases h with rfl | rfl <;> simp_all
  · simp_all
  · simp_all

theorem not_isDigit_of_mem_marks (h : m ∈ u.marks) (hc : c ∈ m.toList) : c.isDigit = false := by
  rcases letter_of_mem_marks h hc with rfl | rfl <;> rfl

theorem not_isBlank_of_mem_marks (h : m ∈ u.marks) (hc : c ∈ m.toList) : isBlank c = false := by
  rcases letter_of_mem_marks h hc with rfl | rfl <;> rfl

end TimeUnit

/-- So many units of time. -/
structure Amount where
  count : Nat
  unit : TimeUnit

namespace Amount

variable {a b : Amount} {s t : List Char}

def span (a : Amount) : Duration := ⟨a.count * a.unit.millis⟩

/-- A word holds the count, and of minutes the seconds that they are. -/
def Fits (a : Amount) : Prop := a.count < 2 ^ 64 ∧ (a.unit = .minute → 60 * a.count < 2 ^ 64)

/-- Zeros, the count in decimal and a mark of the unit. -/
def Bare (a : Amount) (t : List Char) : Prop :=
  ∃ zeros, ∃ m ∈ a.unit.marks,
    t = List.replicate zeros '0' ++ (toString a.count).toList ++ m.toList

/-- Blanks may stand around it. -/
def Written (a : Amount) (s : List Char) : Prop :=
  ∃ left t right, s = left ++ t ++ right ∧ (∀ c ∈ left, isBlank c = true) ∧
    (∀ c ∈ right, isBlank c = true) ∧ a.Bare t

theorem isDigit_of_mem_numeral {zeros n : Nat} {c : Char}
    (hc : c ∈ List.replicate zeros '0' ++ (toString n).toList) : c.isDigit = true := by
  rcases List.mem_append.mp hc with hc | hc
  · rw [List.eq_of_mem_replicate hc]
    rfl
  · exact isDigit_of_mem_toString hc

theorem bare_iff : a.Bare t ↔ t.takeWhile Char.isDigit ≠ [] ∧
    digitsValue 0 (t.takeWhile Char.isDigit) = a.count ∧
    TimeUnit.ofMark? (t.dropWhile Char.isDigit) = some a.unit := by
  constructor
  · rintro ⟨zeros, m, hm, rfl⟩
    have hends : ∀ c ∈ m.toList.head?, c.isDigit = false := fun c hc =>
      TimeUnit.not_isDigit_of_mem_marks hm (List.mem_of_mem_head? hc)
    have hnumeral : ∀ c ∈ List.replicate zeros '0' ++ (toString a.count).toList,
        c.isDigit = true := fun c hc => isDigit_of_mem_numeral hc
    obtain ⟨hdigits, hmark⟩ := takeWhile_run hnumeral hends
    rw [hdigits, hmark, toList_toString]
    refine ⟨?_, ?_, TimeUnit.ofMark?_eq_some_iff.mpr ⟨m, hm, rfl⟩⟩
    · exact List.append_ne_nil_of_right_ne_nil _ Nat.toDigits_ne_nil
    · rw [digitsValue_zeros, digitsValue_toDigits]
  · rintro ⟨hne, hvalue, hmark⟩
    have hrun := List.all_takeWhile (p := Char.isDigit) (l := t)
    obtain ⟨zeros, hzeros⟩ := exists_zeros hne (List.all_eq_true.mp hrun)
    obtain ⟨m, hm, htoList⟩ := TimeUnit.ofMark?_eq_some_iff.mp hmark
    refine ⟨zeros, m, hm, ?_⟩
    rw [toList_toString, ← hvalue, ← hzeros, ← htoList, List.takeWhile_append_dropWhile]

theorem Bare.not_isBlank (h : a.Bare t) : ∀ c ∈ t, isBlank c = false := by
  obtain ⟨zeros, m, hm, rfl⟩ := h
  intro c hc
  rcases List.mem_append.mp hc with hc | hc
  · exact isBlank_of_isDigit (isDigit_of_mem_numeral hc)
  · exact TimeUnit.not_isBlank_of_mem_marks hm hc

theorem written_iff : a.Written s ↔ a.Bare (trim s) := by
  constructor
  · rintro ⟨left, t, right, rfl, hleft, hright, hbare⟩
    rwa [trim_of_trimmed hleft (trimmed_of_plain hbare.not_isBlank) hright]
  · intro hbare
    obtain ⟨left, right, hs, hleft, hright⟩ := exists_blanks s
    exact ⟨left, trim s, right, hs, hleft, hright, hbare⟩

theorem Written.unique (ha : a.Written s) (hb : b.Written s) : a = b := by
  obtain ⟨-, hcount, hunit⟩ := bare_iff.mp (written_iff.mp ha)
  obtain ⟨-, hcount', hunit'⟩ := bare_iff.mp (written_iff.mp hb)
  have hsame : a.count = b.count ∧ a.unit = b.unit :=
    ⟨hcount.symm.trans hcount', Option.some.inj (hunit.symm.trans hunit')⟩
  cases a
  cases b
  obtain ⟨rfl, rfl⟩ := hsame
  rfl

end Amount

def TimeUnit.times? (n : Nat) : TimeUnit → Option Duration
  | millisecond => some ⟨n⟩
  | second => some ⟨n * 1000⟩
  | minute => if n * 60 < word64 then some ⟨n * 60 * 1000⟩ else none

theorem TimeUnit.times?_eq_some_iff {n : Nat} {u : TimeUnit} {d : Duration} (hn : n < word64) :
    u.times? n = some d ↔ Amount.Fits ⟨n, u⟩ ∧ d = Amount.span ⟨n, u⟩ := by
  cases u with
  | millisecond => simp [times?, Amount.Fits, Amount.span, millis, hn, eq_comm]
  | second => simp [times?, Amount.Fits, Amount.span, millis, hn, eq_comm]
  | minute =>
    have hmillis : n * 60 * 1000 = n * 60000 := by omega
    simp [times?, Amount.Fits, Amount.span, millis, hn, hmillis, Nat.mul_comm, eq_comm]

/-- A span of time in two words: whole seconds, and the rest in billionths of one. -/
structure WordSpan where
  seconds : UInt64
  nanos : UInt32
  nanos_lt : nanos.toNat < 1000000000

namespace WordSpan

theorem toNat_nanos (n : UInt64) :
    ((n % 1000).toUInt32 * 1000000).toNat = n.toNat % 1000 * 1000000 := by
  have hmillis : (n % 1000).toUInt32.toNat = n.toNat % 1000 % 2 ^ 32 := by
    rw [UInt64.toNat_toUInt32, UInt64.toNat_mod]
    rfl
  have hfactor : (1000000 : UInt32).toNat = 1000000 := rfl
  rw [UInt32.toNat_mul, hmillis, hfactor]
  omega

def ofMillis (n : UInt64) : WordSpan where
  seconds := n / 1000
  nanos := (n % 1000).toUInt32 * 1000000
  nanos_lt := by
    rw [toNat_nanos]
    omega

def ofSeconds (n : UInt64) : WordSpan := ⟨n, 0, by decide⟩

/-- In billionths of a second. -/
def total (w : WordSpan) : Nat := w.seconds.toNat * 1000000000 + w.nanos.toNat

theorem total_ofMillis (n : UInt64) : (ofMillis n).total = n.toNat * 1000000 := by
  have hseconds : (n / 1000).toNat = n.toNat / 1000 := UInt64.toNat_div n 1000
  simp only [total, ofMillis, toNat_nanos, hseconds]
  omega

theorem total_ofSeconds (n : UInt64) : (ofSeconds n).total = n.toNat * 1000000000 := by
  simp [total, ofSeconds]

def times? (n : UInt64) : TimeUnit → Option WordSpan
  | .millisecond => some (ofMillis n)
  | .second => some (ofSeconds n)
  | .minute => (mulWords? n 60).map ofSeconds

/-- The text read with nothing but words, each sum and product checked. -/
def read? (s : List Char) : Option WordSpan :=
  let body := trim s
  (readWord? (body.takeWhile Char.isDigit)).bind fun n =>
    (TimeUnit.ofMark? (body.dropWhile Char.isDigit)).bind (times? n)

theorem total_times? (n : UInt64) (u : TimeUnit) :
    (times? n u).map total = (u.times? n.toNat).map fun d => d.millis * 1000000 := by
  cases u with
  | millisecond => simp [times?, TimeUnit.times?, total_ofMillis]
  | second =>
    have hmillis : n.toNat * 1000 * 1000000 = n.toNat * 1000000000 := by omega
    simp [times?, TimeUnit.times?, total_ofSeconds, hmillis]
  | minute =>
    have hmul : (mulWords? n 60).map UInt64.toNat = fitting? (n.toNat * 60) := toNat_mulWords? n 60
    cases hminutes : mulWords? n 60 with
    | none =>
      rw [hminutes] at hmul
      have hpast := fitting?_eq_none_iff.mp hmul.symm
      simp [times?, TimeUnit.times?, hminutes, Nat.not_lt.mpr hpast]
    | some seconds =>
      rw [hminutes] at hmul
      obtain ⟨hlt, hseconds⟩ := fitting?_eq_some_iff.mp hmul.symm
      have hmillis : n.toNat * 60 * 1000 * 1000000 = seconds.toNat * 1000000000 := by omega
      simp [times?, TimeUnit.times?, hminutes, hlt, total_ofSeconds, hmillis]

end WordSpan

namespace Duration

variable {d : Duration}

theorem read?_eq (s : List Char) :
    read? s = (readDigits? word64 ((trim s).takeWhile Char.isDigit)).bind fun n =>
      (TimeUnit.ofMark? ((trim s).dropWhile Char.isDigit)).bind (TimeUnit.times? n) := by
  rw [read?]
  congr 1
  funext n
  generalize (trim s).dropWhile Char.isDigit = mark
  split
  · rfl
  · rfl
  · rfl
  · rfl
  · rw [TimeUnit.ofMark?]
    · rfl
    all_goals assumption

theorem read?_eq_some_iff {s : List Char} :
    read? s = some d ↔ ∃ a : Amount, a.Written s ∧ a.Fits ∧ d = a.span := by
  rw [read?_eq, Option.bind_eq_some_iff]
  constructor
  · rintro ⟨n, hread, h⟩
    obtain ⟨u, hmark, htimes⟩ := Option.bind_eq_some_iff.mp h
    obtain ⟨hne, -, hvalue, hn⟩ := readDigits?_eq_some_iff.mp hread
    have hbare : Amount.Bare ⟨n, u⟩ (trim s) := Amount.bare_iff.mpr ⟨hne, hvalue, hmark⟩
    exact ⟨⟨n, u⟩, Amount.written_iff.mpr hbare, (TimeUnit.times?_eq_some_iff hn).mp htimes⟩
  · rintro ⟨a, hwritten, hfits, hspan⟩
    obtain ⟨hne, hvalue, hmark⟩ := Amount.bare_iff.mp (Amount.written_iff.mp hwritten)
    have hrun := List.all_takeWhile (p := Char.isDigit) (l := trim s)
    have hread := readDigits?_eq_some_iff.mpr ⟨hne, List.all_eq_true.mp hrun, hvalue, hfits.1⟩
    have htimes := (TimeUnit.times?_eq_some_iff hfits.1).mpr ⟨hfits, hspan⟩
    exact ⟨a.count, hread, Option.bind_eq_some_iff.mpr ⟨a.unit, hmark, htimes⟩⟩

theorem total_read? (s : List Char) :
    (WordSpan.read? s).map WordSpan.total = (read? s).map fun d => d.millis * 1000000 := by
  have hrun := List.all_takeWhile (p := Char.isDigit) (l := trim s)
  rw [read?_eq, ← toNat_readWord? (List.all_eq_true.mp hrun), WordSpan.read?]
  cases readWord? ((trim s).takeWhile Char.isDigit) with
  | none => rfl
  | some n =>
    cases TimeUnit.ofMark? ((trim s).dropWhile Char.isDigit) with
    | none => rfl
    | some u => exact WordSpan.total_times? n u

/-- A text is read where it writes an amount that fits, and as that amount; it writes one at most.
Words hold all of it: with nothing but words it is the same, to the billionth of a second. -/
theorem spans_are_read_exactly :
    (∀ s d, read? s = some d ↔ ∃ a : Amount, a.Written s ∧ a.Fits ∧ d = a.span) ∧
      (∀ s, {a : Amount | a.Written s}.Subsingleton) ∧
      ∀ s, (WordSpan.read? s).map WordSpan.total = (read? s).map fun d => d.millis * 1000000 :=
  ⟨fun _ _ => read?_eq_some_iff, fun _ _ ha _ hb => ha.unique hb, total_read?⟩

example : read? " 00307445734561825860m\n".toList = some ⟨18446744073709551600000⟩ ∧
    read? "307445734561825861m".toList = none := by decide +kernel

end Duration

end KeyspaceLink

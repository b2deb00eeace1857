import KeyspaceLink.Proofs.GrammarReading

/-! Mending, part by part. A relaxed text becomes a strict one that says the same, and of a
strict text nothing changes. -/

namespace KeyspaceLink.Json

variable {c : Char} {b r t : List Char} {ps : List Piece} {style : Style}

section Marks

theorem relaxFrom_mark (hdouble : c ≠ '"') (hsingle : c ≠ '\'') (hname : startsName c = false)
    (r : List Char) : relaxFrom .outside (c :: r) = c :: relaxFrom .outside r :=
  (if_neg (by simpa using hdouble)).trans
    ((if_neg (by simpa using hsingle)).trans (if_neg (by simp [hname])))

theorem relaxFrom_blanks (hb : Blanks b) (r : List Char) :
    relaxFrom .outside (b ++ r) = b ++ relaxFrom .outside r := by
  induction b with
  | nil => rfl
  | cons c b ih =>
    obtain ⟨hc, hb⟩ := List.forall_mem_cons.mp hb
    have hmark : relaxFrom .outside (c :: (b ++ r)) = c :: relaxFrom .outside (b ++ r) := by
      rcases isSpace_iff.mp hc with rfl | rfl | rfl | rfl <;>
        exact relaxFrom_mark (by decide) (by decide) (by decide) _
    rw [List.cons_append, hmark, ih hb]
    rfl

end Marks

section Words

theorem isBlank_of_isSpace (h : isSpace c = true) : isBlank c = true := by
  rcases isSpace_iff.mp h with rfl | rfl | rfl | rfl <;> decide

theorem not_continuesName_of_isSpace (h : isSpace c = true) : continuesName c = false := by
  rcases isSpace_iff.mp h with rfl | rfl | rfl | rfl <;> decide

/-- Before a character that no name has, a name ends. -/
def EndsName (r : List Char) : Prop := ∀ c ∈ r.head?, continuesName c = false

theorem EndsName.blanks (hb : Blanks b) (hr : EndsName r) : EndsName (b ++ r) := by
  cases b with
  | nil => exact hr
  | cons c b =>
    intro d hd
    cases hd
    exact not_continuesName_of_isSpace (hb c List.mem_cons_self)

theorem EndsName.any (hr : EndsName r) : r.head?.any continuesName = false := by
  cases r with
  | nil => rfl
  | cons c r => exact hr c rfl

theorem namesMember_blanks (hb : Blanks b) (hr : EndsName r) :
    namesMember (b ++ r) = ((r.dropWhile isBlank).head? == some ':') := by
  have hword : (b ++ r).dropWhile continuesName = b ++ r :=
    (takeWhile_run (s := []) (by simp) (hr.blanks hb)).2
  have hblanks : (b ++ r).dropWhile isBlank = r.dropWhile isBlank :=
    List.dropWhile_append_of_pos fun c hc => isBlank_of_isSpace (hb c hc)
  rw [namesMember, hword, hblanks]

theorem After.endsName (hr : After r) : EndsName r := by
  obtain ⟨b, hb, hsplit⟩ := exists_blanks_skip r
  rw [hsplit]
  refine EndsName.blanks hb fun c hc => ?_
  rcases hr c hc with rfl | rfl | rfl <;> decide

theorem After.not_named (hr : After r) : namesMember r = false := by
  obtain ⟨b, hb, hsplit⟩ := exists_blanks_skip r
  have hends : EndsName (skip r) := by
    intro c hc
    rcases hr c hc with rfl | rfl | rfl <;> decide
  rw [hsplit, namesMember_blanks hb hends]
  cases hskip : skip r with
  | nil => rfl
  | cons c s =>
    have hc : c = ',' ∨ c = ']' ∨ c = '\x7d' := hr c (by rw [hskip]; rfl)
    have hblank : isBlank c = false := by rcases hc with rfl | rfl | rfl <;> decide
    rw [List.dropWhile_cons_of_neg (by simp [hblank])]
    rcases hc with rfl | rfl | rfl <;> rfl

theorem relaxFrom_inWord (names : Bool) (c : Char) (r : List Char) :
    relaxFrom (.word names) (c :: r) =
      c :: (if r.head?.any continuesName then relaxFrom (.word names) r
        else nameQuote names ++ relaxFrom .outside r) :=
  rfl

theorem relaxFrom_restOfWord {names : Bool} (ht : ∀ d ∈ c :: t, continuesName d = true)
    (hr : EndsName r) : relaxFrom (.word names) (c :: (t ++ r)) =
      c :: (t ++ (nameQuote names ++ relaxFrom .outside r)) := by
  induction t generalizing c with
  | nil =>
    rw [List.nil_append, relaxFrom_inWord, if_neg (by simp [hr.any])]
    rfl
  | cons d t ih =>
    have hd : continuesName d = true := ht d (by simp)
    rw [List.cons_append, relaxFrom_inWord, if_pos (by simp [hd]),
      ih (List.forall_mem_cons.mp ht).2]
    rfl

/-- A word is quoted if a colon follows it, and else kept. -/
theorem relaxFrom_word {names : Bool} (hc : startsName c = true)
    (ht : ∀ d ∈ t, continuesName d = true) (hr : EndsName r) (hnames : namesMember r = names) :
    relaxFrom .outside (c :: (t ++ r)) =
      nameQuote names ++ c :: (t ++ (nameQuote names ++ relaxFrom .outside r)) := by
  have hdouble : c ≠ '"' := ne_of_class hc (by decide)
  have hsingle : c ≠ '\'' := ne_of_class hc (by decide)
  have hcolon : namesMember (t ++ r) = names := by
    rw [← hnames, namesMember, namesMember, List.dropWhile_append_of_pos ht]
  have hrest : (if (t ++ r).head?.any continuesName = true then relaxFrom (.word names) (t ++ r)
      else nameQuote names ++ relaxFrom .outside (t ++ r)) =
        t ++ (nameQuote names ++ relaxFrom .outside r) := by
    cases t with
    | nil =>
      rw [List.nil_append, if_neg (by simp [hr.any])]
      rfl
    | cons d t =>
      rw [List.cons_append, if_pos (by simp [ht d List.mem_cons_self])]
      exact relaxFrom_restOfWord ht hr
  have hstart : relaxFrom .outside (c :: (t ++ r)) = nameQuote (namesMember (t ++ r)) ++
      c :: (if (t ++ r).head?.any continuesName then
          relaxFrom (.word (namesMember (t ++ r))) (t ++ r)
        else nameQuote (namesMember (t ++ r)) ++ relaxFrom .outside (t ++ r)) :=
    (if_neg (by simpa using hdouble)).trans ((if_neg (by simpa using hsingle)).trans (if_pos hc))
  rw [hstart, hcolon, hrest]

end Words

section Texts

theorem ne_of_hexValue4? {a b c d q : Char} {n : Nat} (h : hexValue4? a b c d = some n)
    (hq : hexValue? q = none) : a ≠ q ∧ b ≠ q ∧ c ≠ q ∧ d ≠ q := by
  simp only [hexValue4?, Option.bind_eq_bind, Option.bind_eq_some_iff] at h
  obtain ⟨_, ha, _, hb, _, hc, _, hd, -⟩ := h
  refine ⟨?_, ?_, ?_, ?_⟩ <;> rintro rfl <;> simp_all

theorem relaxFrom_doubleQuoted (hquote : c ≠ '"') (hslash : c ≠ '\\') (s : List Char) :
    relaxFrom .doubleQuoted (c :: s) = c :: relaxFrom .doubleQuoted s := by
  rw [relaxFrom.eq_def]
  split <;> simp_all

theorem relaxFrom_singleQuoted (hquote : c ≠ '\'') (hdouble : c ≠ '"') (hslash : c ≠ '\\')
    (s : List Char) : relaxFrom .singleQuoted (c :: s) = c :: relaxFrom .singleQuoted s := by
  rw [relaxFrom.eq_def]
  split <;> simp_all

theorem relaxFrom_doubleQuoted_escape (c : Char) (s : List Char) :
    relaxFrom .doubleQuoted ('\\' :: c :: s) = '\\' :: c :: relaxFrom .doubleQuoted s :=
  rfl

theorem relaxFrom_singleQuoted_escape (hquote : c ≠ '\'') (s : List Char) :
    relaxFrom .singleQuoted ('\\' :: c :: s) = '\\' :: c :: relaxFrom .singleQuoted s :=
  if_neg (by simpa using hquote)

theorem Contents.kept (h : Contents '"' ps t) (r : List Char) :
    relaxFrom .doubleQuoted (t ++ '"' :: r) = t ++ '"' :: relaxFrom .outside r := by
  induction h with
  | nil => rfl
  | plain hvisible hquote hslash hrest ih =>
    rw [List.cons_append, relaxFrom_doubleQuoted hquote hslash, ih]
    rfl
  | escape h hrest ih =>
    rw [List.cons_append, List.cons_append, relaxFrom_doubleQuoted_escape, ih]
    rfl
  | single hquote hrest ih => exact absurd hquote (by decide)
  | unit h hrest ih =>
    obtain ⟨ha, hb, hc, hd⟩ := ne_of_hexValue4? (q := '"') h (by decide)
    obtain ⟨ha', hb', hc', hd'⟩ := ne_of_hexValue4? (q := '\\') h (by decide)
    simp only [List.cons_append, relaxFrom_doubleQuoted_escape, relaxFrom_doubleQuoted ha ha',
      relaxFrom_doubleQuoted hb hb', relaxFrom_doubleQuoted hc hc',
      relaxFrom_doubleQuoted hd hd', ih]

/-- A text in single quotes becomes one in double quotes that says the same. -/
theorem Contents.mended (h : Contents '\'' ps t) : ∃ t', Contents '"' ps t' ∧
    ∀ r, relaxFrom .singleQuoted (t ++ '\'' :: r) = t' ++ '"' :: relaxFrom .outside r := by
  induction h with
  | nil => exact ⟨[], .nil, fun _ => rfl⟩
  | @plain c ps t hvisible hquote hslash hrest ih =>
    obtain ⟨t', ht', hmended⟩ := ih
    by_cases hdouble : c = '"'
    · subst hdouble
      exact ⟨'\\' :: '"' :: t', .escape (by decide) ht',
        fun r => congrArg ('\\' :: '"' :: ·) (hmended r)⟩
    · refine ⟨c :: t', .plain hvisible hdouble hslash ht', fun r => ?_⟩
      rw [List.cons_append, relaxFrom_singleQuoted hquote hdouble hslash, hmended]
      rfl
  | @escape e c ps t h hrest ih =>
    obtain ⟨t', ht', hmended⟩ := ih
    have hquote : e ≠ '\'' := by
      rintro rfl
      cases h
    refine ⟨'\\' :: e :: t', .escape h ht', fun r => ?_⟩
    rw [List.cons_append, List.cons_append, relaxFrom_singleQuoted_escape hquote, hmended]
    rfl
  | single hquote hrest ih =>
    obtain ⟨t', ht', hmended⟩ := ih
    exact ⟨'\'' :: t', .plain (by decide) (by decide) (by decide) ht',
      fun r => congrArg ('\'' :: ·) (hmended r)⟩
  | @unit a b c d n ps t h hrest ih =>
    obtain ⟨t', ht', hmended⟩ := ih
    obtain ⟨ha, hb, hc, hd⟩ := ne_of_hexValue4? (q := '\'') h (by decide)
    obtain ⟨ha', hb', hc', hd'⟩ := ne_of_hexValue4? (q := '"') h (by decide)
    obtain ⟨ha'', hb'', hc'', hd''⟩ := ne_of_hexValue4? (q := '\\') h (by decide)
    have hunit : 'u' ≠ '\'' := by decide
    refine ⟨'\\' :: 'u' :: a :: b :: c :: d :: t', .unit h ht', fun r => ?_⟩
    simp only [List.cons_append, relaxFrom_singleQuoted_escape hunit,
      relaxFrom_singleQuoted ha ha' ha'', relaxFrom_singleQuoted hb hb' hb'',
      relaxFrom_singleQuoted hc hc' hc'', relaxFrom_singleQuoted hd hd' hd'', hmended]

theorem Quoted.mended (h : Quoted style ps t) : ∃ t', Quoted .strict ps t' ∧
    (style = .strict → t' = t) ∧
      ∀ r, relaxFrom .outside (t ++ r) = t' ++ relaxFrom .outside r := by
  cases h with
  | @double _ _ t h =>
    refine ⟨'"' :: (t ++ ['"']), .double h, fun _ => rfl, fun r => ?_⟩
    have hopened : ∀ u, relaxFrom .outside ('"' :: u) = '"' :: relaxFrom .doubleQuoted u :=
      fun _ => rfl
    simp [hopened, h.kept]
  | @single _ t h =>
    obtain ⟨t', ht', hmended⟩ := h.mended
    refine ⟨'"' :: (t' ++ ['"']), .double ht', fun hs => absurd hs (by simp), fun r => ?_⟩
    have hopened : ∀ u, relaxFrom .outside ('\'' :: u) = '"' :: relaxFrom .singleQuoted u :=
      fun _ => rfl
    simp [hopened, hmended]

theorem visible_of_continuesName (h : continuesName c = true) :
    32 ≤ c.toNat ∧ c ≠ '"' ∧ c ≠ '\\' := by
  refine ⟨?_, ne_of_class h (by decide), ne_of_class h (by decide)⟩
  have hval : c.val.toNat = c.toNat := rfl
  have hupper : 'A'.val.toNat = 65 := rfl
  have hlower : 'a'.val.toNat = 97 := rfl
  have hdigit : '0'.val.toNat = 48 := rfl
  simp only [continuesName, startsName, Char.isAlpha, Char.isUpper, Char.isLower, Char.isDigit,
    Bool.or_eq_true, Bool.and_eq_true, decide_eq_true_eq, beq_iff_eq, ge_iff_le,
    UInt32.le_iff_toNat_le, hval] at h
  rcases h with (((h | h) | rfl) | rfl) | h
  · omega
  · omega
  · decide
  · decide
  · omega

theorem contents_of_name (ht : ∀ d ∈ t, continuesName d = true) : Contents '"' (t.map .char) t := by
  induction t with
  | nil => exact .nil
  | cons d t ih =>
    obtain ⟨hd, ht⟩ := List.forall_mem_cons.mp ht
    obtain ⟨hvisible, hquote, hslash⟩ := visible_of_continuesName hd
    exact .plain hvisible hquote hslash (ih ht)

theorem Named.mended (h : Named style ps t) : ∃ t', Quoted .strict ps t' ∧
    (style = .strict → t' = t) ∧ ∀ r, EndsName r → namesMember r = true →
      relaxFrom .outside (t ++ r) = t' ++ relaxFrom .outside r := by
  cases h with
  | quoted h =>
    obtain ⟨t', ht', hsame, hmended⟩ := h.mended
    exact ⟨t', ht', hsame, fun r _ _ => hmended r⟩
  | @bare c t hc ht =>
    have hname : ∀ d ∈ c :: t, continuesName d = true :=
      List.forall_mem_cons.mpr ⟨by simp [continuesName, hc], ht⟩
    refine ⟨_, .double (contents_of_name hname), fun hs => absurd hs (by simp), ?_⟩
    intro r hr hcolon
    rw [List.cons_append, relaxFrom_word hc ht hr hcolon]
    simp [nameQuote]

end Texts

section Numbers

theorem startsName_of_isDigit (h : c.isDigit = true) : startsName c = false := by
  have hval : c.val.toNat = c.toNat := rfl
  have halpha : c.isAlpha = false := by
    by_contra halpha
    simp only [Char.isDigit, Char.isAlpha, Char.isUpper, Char.isLower, Bool.not_eq_false,
      Bool.or_eq_true, Bool.and_eq_true, decide_eq_true_eq, ge_iff_le, UInt32.le_iff_toNat_le,
      hval] at h halpha
    have hdigit : '0'.val.toNat = 48 ∧ '9'.val.toNat = 57 := ⟨rfl, rfl⟩
    have hupper : 'A'.val.toNat = 65 ∧ 'Z'.val.toNat = 90 := ⟨rfl, rfl⟩
    have hlower : 'a'.val.toNat = 97 ∧ 'z'.val.toNat = 122 := ⟨rfl, rfl⟩
    omega
  have hmark : c ≠ '_' ∧ c ≠ '$' := ⟨ne_of_class h (by decide), ne_of_class h (by decide)⟩
  simp [startsName, halpha, hmark]

theorem relaxFrom_digits (h : ∀ d ∈ t, d.isDigit = true) (r : List Char) :
    relaxFrom .outside (t ++ r) = t ++ relaxFrom .outside r := by
  induction t with
  | nil => rfl
  | cons d t ih =>
    obtain ⟨hd, ht⟩ := List.forall_mem_cons.mp h
    have hdouble : d ≠ '"' := ne_of_class hd (by decide)
    have hsingle : d ≠ '\'' := ne_of_class hd (by decide)
    rw [List.cons_append, relaxFrom_mark hdouble hsingle (startsName_of_isDigit hd), ih ht]
    rfl

theorem Fraction.kept {f : Option (List Char)} (h : Fraction f t) (r : List Char) :
    relaxFrom .outside (t ++ r) = t ++ relaxFrom .outside r := by
  cases h with
  | absent => rfl
  | digits h =>
    rw [List.cons_append, relaxFrom_mark (by decide) (by decide) (by decide), relaxFrom_digits h.2]
    rfl

theorem startsName_of_isPowerMark (h : isPowerMark c = true) : startsName c = true := by
  rcases isPowerMark_iff.mp h with rfl | rfl <;> decide

theorem Power.kept {p : Option (Bool × List Char)} (h : Power p t) (hr : After r) :
    relaxFrom .outside (t ++ r) = t ++ relaxFrom .outside r := by
  -- the letter begins a word, which the sign ends or the digits go on
  have hsigned : ∀ {mark sign : Char} {ds : List Char}, isPowerMark mark = true →
      sign = '+' ∨ sign = '-' → Digits ds →
      relaxFrom .outside (mark :: sign :: (ds ++ r)) =
        mark :: sign :: (ds ++ relaxFrom .outside r) := by
    intro mark sign ds hmark hsign h
    have hends : EndsName (sign :: (ds ++ r)) := by
      intro d hd
      cases hd
      rcases hsign with rfl | rfl <;> decide
    have hcolon : namesMember (sign :: (ds ++ r)) = false := by
      rcases hsign with rfl | rfl <;> rfl
    have hkept := relaxFrom_word (t := []) (startsName_of_isPowerMark hmark) (by simp) hends hcolon
    have hdigits : relaxFrom .outside (sign :: (ds ++ r)) =
        sign :: (ds ++ relaxFrom .outside r) := by
      rw [← relaxFrom_digits h.2]
      rcases hsign with rfl | rfl <;> exact relaxFrom_mark (by decide) (by decide) (by decide) _
    rw [hdigits] at hkept
    exact hkept
  cases h with
  | absent => rfl
  | @up mark ds hmark h =>
    have hname : ∀ d ∈ ds, continuesName d = true := fun d hd => by simp [continuesName, h.2 d hd]
    exact relaxFrom_word (startsName_of_isPowerMark hmark) hname hr.endsName hr.not_named
  | plus hmark h => exact hsigned hmark (.inl rfl) h
  | minus hmark h => exact hsigned hmark (.inr rfl) h

theorem Numeral.kept {l : Literal} (h : Numeral l t) (hr : After r) :
    relaxFrom .outside (t ++ r) = t ++ relaxFrom .outside r := by
  cases h with
  | mk negative hwhole hzero hf hp =>
    have hmagnitude := (relaxFrom_digits hwhole.2 _).trans
      (congrArg _ ((hf.kept _).trans (congrArg _ (hp.kept hr))))
    cases negative with
    | false => simpa using hmagnitude
    | true =>
      have hminus := relaxFrom_mark (c := '-') (by decide) (by decide) (by decide)
      simp [hminus, hmagnitude]

end Numbers

section Values

/-- Mending turns one text into the other, wherever a value can end after it. -/
def MendsTo (t t' : List Char) : Prop :=
  ∀ r, After r → relaxFrom .outside (t ++ r) = t' ++ relaxFrom .outside r

/-- The text becomes a strict one that is well formed too, and is left alone if it is strict. -/
def Mended (style : Style) (P : List Char → Prop) (t : List Char) : Prop :=
  ∃ t', P t' ∧ (style = .strict → t' = t) ∧ MendsTo t t'

variable {P Q : List Char → Prop}

theorem mended_of_kept (hP : P t)
    (h : ∀ r, After r → relaxFrom .outside (t ++ r) = t ++ relaxFrom .outside r) :
    Mended style P t :=
  ⟨t, hP, fun _ => rfl, h⟩

theorem mended_word (hP : P (c :: t)) (hc : startsName c = true)
    (ht : ∀ d ∈ t, continuesName d = true) : Mended style P (c :: t) :=
  mended_of_kept hP fun _ hr => relaxFrom_word hc ht hr.endsName hr.not_named

theorem Mended.padded {a : List Char} (h : Mended style P t) (hb : Blanks b) (ha : Blanks a)
    (hQ : ∀ t', P t' → Q (b ++ (t' ++ a))) : Mended style Q (b ++ (t ++ a)) := by
  obtain ⟨t', hP, hsame, hmends⟩ := h
  refine ⟨b ++ (t' ++ a), hQ t' hP, fun hs => by rw [hsame hs], fun r hr => ?_⟩
  simp only [List.append_assoc]
  rw [relaxFrom_blanks hb, hmends _ (hr.blanks ha), relaxFrom_blanks ha]

theorem Mended.enclosed {opening closing : Char} (h : Mended style P t)
    (hopening : opening = '[' ∨ opening = '\x7b') (hclosing : closing = ']' ∨ closing = '\x7d')
    (hQ : ∀ t', P t' → Q (opening :: (t' ++ [closing]))) :
    Mended style Q (opening :: (t ++ [closing])) := by
  obtain ⟨t', hP, hsame, hmends⟩ := h
  refine ⟨opening :: (t' ++ [closing]), hQ t' hP, fun hs => by rw [hsame hs], fun r _ => ?_⟩
  have hopened : ∀ s, relaxFrom .outside (opening :: s) = opening :: relaxFrom .outside s := by
    rcases hopening with rfl | rfl <;> exact relaxFrom_mark (by decide) (by decide) (by decide)
  have hclosed : relaxFrom .outside (closing :: r) = closing :: relaxFrom .outside r := by
    rcases hclosing with rfl | rfl <;> exact relaxFrom_mark (by decide) (by decide) (by decide) r
  have hmended := hmends (closing :: r) (after_mark (.inr hclosing) r)
  simp only [List.cons_append, List.append_assoc, List.nil_append, hopened, hmended, hclosed]

theorem Mended.separated {P' : List Char → Prop} {s : List Char} (h : Mended style P t)
    (h' : Mended style P' s) (hQ : ∀ t' s', P t' → P' s' → Q (t' ++ ',' :: s')) :
    Mended style Q (t ++ ',' :: s) := by
  obtain ⟨t', hP, hsame, hmends⟩ := h
  obtain ⟨s', hP', hsame', hmends'⟩ := h'
  refine ⟨t' ++ ',' :: s', hQ t' s' hP hP', fun hs => by rw [hsame hs, hsame' hs], fun r hr => ?_⟩
  have hcomma := relaxFrom_mark (c := ',') (by decide) (by decide) (by decide) (s ++ r)
  simp only [List.append_assoc, List.cons_append]
  rw [hmends _ (after_mark (.inl rfl) _), hcomma, hmends' r hr]

theorem Mended.member {n : List Char} (h : Mended style P t) (hn : Label style ps n)
    (hQ : ∀ n' t', Label .strict ps n' → P t' → Q (n' ++ ':' :: t')) :
    Mended style Q (n ++ ':' :: t) := by
  obtain ⟨t', hP, hsame, hmends⟩ := h
  cases hn with
  | @mk b n a _ hb hn ha =>
    obtain ⟨n', hn', hsame', hmends'⟩ := hn.mended
    refine ⟨_, hQ _ t' (.mk hb (.quoted hn') ha) hP, fun hs => by rw [hsame hs, hsame' hs], ?_⟩
    intro r hr
    -- blanks may stand between the name and the colon that makes it one
    have hends : EndsName (':' :: (t ++ r)) := by
      intro d hd
      cases hd
      decide
    have hcolon : namesMember (a ++ ':' :: (t ++ r)) = true := by
      rw [namesMember_blanks ha hends]
      rfl
    have hmark := relaxFrom_mark (c := ':') (by decide) (by decide) (by decide) (t ++ r)
    simp only [List.append_assoc, List.cons_append]
    rw [relaxFrom_blanks hb, hmends' _ (hends.blanks ha) hcolon, relaxFrom_blanks ha, hmark,
      hmends r hr]

/-- Part by part, a relaxed text becomes a strict one that says the same. -/
theorem Written.mended {part : Part} (h : Written style part t) :
    Mended style (Written .strict part) t := by
  induction h with
  | null => exact mended_word .null (by decide) (List.all_eq_true.mp (by decide))
  | yes => exact mended_word .yes (by decide) (List.all_eq_true.mp (by decide))
  | no => exact mended_word .no (by decide) (List.all_eq_true.mp (by decide))
  | number h => exact mended_of_kept (.number h) fun r hr => h.kept hr
  | text h =>
    obtain ⟨t', ht', hsame, hmended⟩ := h.mended
    exact ⟨t', .text ht', hsame, fun r _ => hmended r⟩
  | emptyList hb =>
    have hblanks : Mended style Blanks _ := mended_of_kept hb fun r _ => relaxFrom_blanks hb r
    exact hblanks.enclosed (.inl rfl) (.inl rfl) fun t' => .emptyList
  | list h ih => exact ih.enclosed (.inl rfl) (.inl rfl) fun t' => .list
  | emptyObject hb =>
    have hblanks : Mended style Blanks _ := mended_of_kept hb fun r _ => relaxFrom_blanks hb r
    exact hblanks.enclosed (.inr rfl) (.inr rfl) fun t' => .emptyObject
  | object h ih => exact ih.enclosed (.inr rfl) (.inr rfl) fun t' => .object
  | padded hb h ha ih => exact ih.padded hb ha fun t' ht' => .padded hb ht' ha
  | lastItem h ih =>
    obtain ⟨t', ht', hrest⟩ := ih
    exact ⟨t', .lastItem ht', hrest⟩
  | item h hrest ih ihrest => exact ih.separated ihrest fun t' s' => .item
  | lastMember hn h ih => exact ih.member hn fun n' t' => .lastMember
  | @member ps x ms n t s hn h hrest ih ihrest =>
    -- the name stands before all the rest, so the rest is mended first
    have hafter : Mended style (fun u => ∃ t' s', u = t' ++ ',' :: s' ∧ Document .strict x t' ∧
        Written .strict (.members ms) s') (t ++ ',' :: s) :=
      ih.separated ihrest fun t' s' ht' hs' => ⟨t', s', rfl, ht', hs'⟩
    refine hafter.member hn fun n' u hn' hu => ?_
    obtain ⟨t', s', rfl, ht', hs'⟩ := hu
    exact .member hn' ht' hs'

theorem document_relax {x : Tree} (h : Document style x t) :
    Document .strict x (relax t) ∧ (style = .strict → relax t = t) := by
  obtain ⟨t', ht', hsame, hmends⟩ := h.mended
  have hend : relaxFrom .outside [] = [] := rfl
  have hrelax : relax t = t' := by simpa [relax, hend] using hmends [] after_nil
  rw [hrelax]
  exact ⟨ht', hsame⟩

/-- Mending makes of a relaxed document a strict one that is read as the value it denotes, and
leaves a strict one as it is. -/
theorem relaxed_document_is_read :
    (∀ x t, Document .relaxed x t → Document .strict x (relax t) ∧
      ∀ v, x.Denotes v → x.Nests depthLimit → parseChars (relax t) = .ok v) ∧
    ∀ x t, Document .strict x t → relax t = t := by
  refine ⟨fun x t h => ?_, fun x t h => (document_relax h).2 rfl⟩
  have hstrict := (document_relax h).1
  exact ⟨hstrict, fun v hv hnests => parseChars_document hstrict hv hnests⟩

/-- A bare name, an apostrophe and a double quote between single quotes, and strict parts. -/
theorem relaxed_object_is_read :
    let x : Tree := .object [([.char 'a'], .text [.char '\'', .char '"']),
      ([.char '$', .char 'b'], .list [.bool true, .number ⟨true, ['1'], none, none⟩])]
    let t := ['\x7b', 'a', ':', ' ', '\'', '\\', '\'', '"', '\'', ',', '$', 'b', ' ', ':', '[',
      't', 'r', 'u', 'e', ',', '-', '1', ']', '\x7d']
    let named : List (String × Json) :=
      [("a", .text (.ofList ['\'', '"'])), ("$b", .list [.bool true, .int (-1)])]
    let v : Json := .object named
    Document .relaxed x t ∧ x.Denotes v ∧ x.Nests depthLimit ∧ Document .strict x (relax t) ∧
      parseChars (relax t) = .ok v ∧ relax (relax t) = relax t := by
  intro x t named v
  have hnone : Blanks [] := by simp [Blanks]
  have hspace : Blanks [' '] := by simp [Blanks, isSpace]
  have hquoted : Quoted .relaxed [.char '\'', .char '"'] ['\'', '\\', '\'', '"', '\''] :=
    .single (.single rfl (.plain (by decide) (by decide) (by decide) .nil))
  have hdigits : Digits ['1'] := ⟨by simp, by simp⟩
  have hone : Numeral ⟨true, ['1'], none, none⟩ ['-', '1'] :=
    .mk true hdigits (by simp) .absent .absent
  have hlist : Document .relaxed (.list [.bool true, .number ⟨true, ['1'], none, none⟩])
      ['[', 't', 'r', 'u', 'e', ',', '-', '1', ']'] :=
    (Written.list (.item Written.yes.document (.lastItem (Written.number hone).document))).document
  have ha : Named .relaxed [.char 'a'] ['a'] := .bare (t := []) (by decide) (by simp)
  have hb : Named .relaxed [.char '$', .char 'b'] ['$', 'b'] :=
    .bare (t := ['b']) (by decide) (List.all_eq_true.mp (by decide))
  have ht : Document .relaxed x t := by
    have hlast := Written.lastMember (.mk hnone hb hspace) hlist
    have htext := Written.padded hspace (.text hquoted) hnone
    exact (Written.object (.member (.mk hnone ha hnone) htext hlast)).document
  have hv : x.Denotes v := by
    have hminus : Literal.Denotes ⟨true, ['1'], none, none⟩ (.int (-1)) :=
      .negative (by decide) (by decide)
    have hitems := List.Forall₂.cons (Tree.Denotes.bool true) (.cons (.number hminus) .nil)
    have htext : Joins [.char '\'', .char '"'] ['\'', '"'] := .char _ (.char _ .nil)
    have hobject : x.Denotes (.object (collect named)) :=
      .object (.cons (.char 'a' .nil) (.cons (.char '$' (.char 'b' .nil)) .nil))
        (.cons (.text htext) (.cons (.list hitems) .nil))
    exact hobject
  have hnests : x.Nests depthLimit := by
    refine .object (List.forall_mem_cons.mpr ⟨.text _, List.forall_mem_cons.mpr
      ⟨.list ?_, by simp⟩⟩)
    exact List.forall_mem_cons.mpr ⟨.bool true, List.forall_mem_cons.mpr ⟨.number _, by simp⟩⟩
  obtain ⟨hstrict, hread⟩ := relaxed_document_is_read.1 x t ht
  exact ⟨ht, hv, hnests, hstrict, hread v hv hnests, relaxed_document_is_read.2 x _ hstrict⟩

end Values

end KeyspaceLink.Json

import KeyspaceLink.Proofs.JsonGrammar
import KeyspaceLink.Text.Split

/-! Strict texts are read: whatever a text of the grammar denotes is found in it. -/

namespace KeyspaceLink.Json

variable {c : Char} {r s t : List Char} {ps : List Piece}

section Texts

theorem textPieces_plain (hvisible : 32 ≤ c.toNat) (hquote : c ≠ '"') (hslash : c ≠ '\\')
    (s : List Char) : textPieces (c :: s) =
      textPieces s >>= fun p => .ok (.char c :: p.1, p.2) := by
  have hcontrol : ¬ c.toNat < 32 := by omega
  rw [textPieces.eq_def]
  split <;> simp_all

theorem Contents.pieces (h : Contents '"' ps t) (r : List Char) :
    textPieces (t ++ '"' :: r) = .ok (ps, r) := by
  induction h with
  | nil => rfl
  | plain hvisible hquote hslash hrest ih =>
    rw [List.cons_append, textPieces_plain hvisible hquote hslash, ih]
    rfl
  | @escape e c ps t h hrest ih =>
    have hu : e ≠ 'u' := by
      rintro rfl
      cases h
    simp [textPieces, hu, h, ih]
    rfl
  | single hquote hrest ih => exact absurd hquote (by decide)
  | unit h hrest ih =>
    simp only [List.cons_append, textPieces, h, ih]
    rfl

theorem Joins.joinPieces {cs : List Char} (h : Joins ps cs) : Json.joinPieces ps = .ok cs := by
  induction h with
  | nil => rfl
  | char c h ih =>
    rw [Json.joinPieces, ih]
    rfl
  | @unit n ps cs hn h ih =>
    have htrail : (0xDC00 ≤ n && n ≤ 0xDFFF) = false := by simp; omega
    have hlead : (0xD800 ≤ n && n ≤ 0xDBFF) = false := by simp; omega
    rw [joinPieces.eq_def]
    simp only [htrail, hlead, Bool.false_eq_true, if_false, ih, ok_bind]
  | @pair n m ps cs hn hm h ih =>
    have htrail : (0xDC00 ≤ n && n ≤ 0xDFFF) = false := by simp; omega
    have hlead : (0xD800 ≤ n && n ≤ 0xDBFF) = true := by simp; omega
    have hnext : (0xDC00 ≤ m && m ≤ 0xDFFF) = true := by simp; omega
    rw [joinPieces.eq_def]
    simp [htrail, hlead, hnext, ih, ok_bind]

theorem readText_contents {cs : List Char} (h : Contents '"' ps t) (hcs : Joins ps cs)
    (r : List Char) : readText (t ++ '"' :: r) = .ok (.ok (.ofList cs), r) := by
  rw [readText, h.pieces, ok_bind]
  simp [hcs.joinPieces]

end Texts

section Numbers

theorem fittingDigits_eq {acc : Nat} (h : digitsValue acc s < word64) :
    fittingDigits acc s = (digitsValue acc s, []) := by
  induction s generalizing acc with
  | nil => rfl
  | cons c s ih =>
    rw [digitsValue, List.foldl_cons, ← digitsValue] at h ⊢
    have hnext := le_digitsValue (acc * 10 + (c.toNat - 48)) s
    simp only [fittingDigits]
    rw [if_pos (by omega), ih h]

theorem Literal.Denotes.value? {l : Literal} {v : Json} (h : l.Denotes v) : l.value? = some v := by
  cases h with
  | natural hlimit => simp [Literal.value?, fittingDigits_eq hlimit]
  | negative hpos hlimit =>
    have hfits := fittingDigits_eq (Nat.lt_of_le_of_lt hlimit (by decide : word63 < word64))
    simp [Literal.value?, hfits, hpos, hlimit]
  | double h => exact h

def EndsDigits (r : List Char) : Prop := ∀ c ∈ r.head?, c.isDigit = false

theorem someDigits_append {ds : List Char} (h : Digits ds) (hr : EndsDigits r) :
    someDigits (ds ++ r) = .ok (ds, r) := by
  obtain ⟨htake, hdrop⟩ := takeWhile_run h.2 hr
  have hspan : spanDigits (ds ++ r) = (ds, r) := by
    rw [spanDigits, List.span_eq_takeWhile_dropWhile, htake, hdrop]
  rw [someDigits, hspan]
  cases hds : ds with
  | nil => exact absurd hds h.1
  | cons d ds => rfl

theorem wholeDigits_append {ds : List Char} (h : Digits ds)
    (hzero : ds.head? = some '0' → ds = ['0']) (hr : EndsDigits r) :
    wholeDigits (ds ++ r) = .ok (ds, r) := by
  have hsome := someDigits_append h hr
  unfold wholeDigits
  split
  · next heq => exact absurd (List.append_eq_nil_iff.mp heq).1 h.1
  · next c s heq =>
    have hds : ds = ['0'] := by
      refine hzero ?_
      rw [← List.head?_append_of_ne_nil ds h.1, heq]
      rfl
    subst hds
    obtain ⟨-, rfl⟩ := List.cons.inj heq
    rw [if_neg (by simp [hr c rfl])]
  · exact hsome

theorem isPowerMark_iff : isPowerMark c = true ↔ c = 'e' ∨ c = 'E' := by simp [isPowerMark]

theorem After.head (hr : After r) :
    ∀ c ∈ r.head?, c.isDigit = false ∧ c ≠ '.' ∧ isPowerMark c = false := by
  obtain ⟨b, hb, hsplit⟩ := exists_blanks_skip r
  intro c hc
  rw [hsplit] at hc
  cases b with
  | nil => rcases hr c hc with rfl | rfl | rfl <;> decide
  | cons d b =>
    cases hc
    rcases isSpace_iff.mp (hb c List.mem_cons_self) with rfl | rfl | rfl | rfl <;> decide

theorem Power.head {p : Option (Bool × List Char)} (h : Power p t) (hr : After r) :
    ∀ c ∈ (t ++ r).head?, c.isDigit = false ∧ c ≠ '.' := by
  have hmark : ∀ {mark : Char}, isPowerMark mark = true → mark.isDigit = false ∧ mark ≠ '.' := by
    intro mark h
    rcases isPowerMark_iff.mp h with rfl | rfl <;> decide
  intro c hc
  cases h with
  | absent => exact ⟨(hr.head c hc).1, (hr.head c hc).2.1⟩
  | up hm h =>
    cases hc
    exact hmark hm
  | plus hm h =>
    cases hc
    exact hmark hm
  | minus hm h =>
    cases hc
    exact hmark hm

theorem Power.part {p : Option (Bool × List Char)} (h : Power p t) (hr : After r)
    (negative : Bool) (whole : List Char) (f : Option (List Char)) :
    powerPart negative whole f (t ++ r) = .ok (⟨negative, whole, f, p⟩, r) := by
  have hends : EndsDigits r := fun c hc => (hr.head c hc).1
  cases h with
  | absent =>
    cases r with
    | nil => rfl
    | cons c r => simp [powerPart, (hr.head c rfl).2.2]
  | @up mark ds hmark h =>
    have hread := someDigits_append h hends
    cases ds with
    | nil => exact absurd rfl h.1
    | cons d ds =>
      have hd : d.isDigit = true := h.2 d List.mem_cons_self
      have hplus : d ≠ '+' := ne_of_class hd (by decide)
      have hminus : d ≠ '-' := ne_of_class hd (by decide)
      rw [List.cons_append] at hread
      simp [powerPart, hmark, hplus, hminus, hread, ok_bind]
  | plus hmark h => simp [powerPart, hmark, someDigits_append h hends, ok_bind]
  | minus hmark h => simp [powerPart, hmark, someDigits_append h hends, ok_bind]

theorem readLiteral_parts {whole fraction power : List Char} {f : Option (List Char)}
    {p : Option (Bool × List Char)} (negative : Bool) (hwhole : Digits whole)
    (hzero : whole.head? = some '0' → whole = ['0']) (hf : Fraction f fraction)
    (hp : Power p power) (hr : After r) :
    readLiteral negative (whole ++ (fraction ++ (power ++ r))) =
      .ok (⟨negative, whole, f, p⟩, r) := by
  have hpower := hp.part hr negative whole
  have hends : EndsDigits (power ++ r) := fun c hc => (hp.head hr c hc).1
  cases hf with
  | absent =>
    rw [List.nil_append, readLiteral, wholeDigits_append hwhole hzero hends, ok_bind]
    dsimp only
    split
    · next r' heq => exact absurd rfl (hp.head hr '.' (by rw [heq]; rfl)).2
    · exact hpower none
  | @digits ds h =>
    have hpoint : EndsDigits ('.' :: (ds ++ (power ++ r))) := by
      intro c hc
      cases hc
      decide
    rw [List.cons_append, readLiteral, wholeDigits_append hwhole hzero hpoint, ok_bind]
    simp only [someDigits_append h hends, ok_bind, hpower]

theorem readNumber_parts {l : Literal} {v : Json} (h : readLiteral l.negative s = .ok (l, r))
    (hv : l.Denotes v) : readNumber l.negative s = .ok (.number (.ok v), r) := by
  rw [readNumber, h, ok_bind]
  simp only [hv.value?]

end Numbers

section Values

variable {fuel depth : Nat} {o : Outline} {os : List Outline} {rest rest' : List Char}
  {key : Except Refusal String} {ms : List (Except Refusal String × Outline)}

theorem readValue_congr (h : skip s = skip t) (fuel : Nat) :
    readValue (fuel + 1) s = readValue (fuel + 1) t := by
  rw [readValue, readValue, h]

theorem skip_skip (s : List Char) : skip (skip s) = skip s := List.dropWhile_idempotent _ s

theorem readValue_skip (h : readValue fuel s = .ok (o, rest)) :
    readValue fuel (skip s) = .ok (o, rest) := by
  cases fuel with
  | zero => cases h
  | succ fuel => rwa [readValue_congr (skip_skip s)]

theorem readItems_skip (h : readItems fuel s = .ok (os, rest)) :
    readItems fuel (skip s) = .ok (os, rest) := by
  cases fuel with
  | zero => cases h
  | succ fuel => rwa [readItems, skip_skip, ← readItems]

theorem readMembers_skip (h : readMembers fuel s = .ok (ms, rest)) :
    readMembers fuel (skip s) = .ok (ms, rest) := by
  cases fuel with
  | zero => cases h
  | succ fuel => rwa [readMembers, skip_skip, ← readMembers]

theorem readItems_last (h : readValue fuel s = .ok (o, rest)) (hclose : skip rest = ']' :: r) :
    readItems (fuel + 1) s = .ok ([o], r) := by
  have hread := readValue_skip h
  rw [readItems]
  cases hs : skip s with
  | nil =>
    rw [hs] at hread
    cases fuel <;> cases hread
  | cons c t =>
    rw [hs] at hread
    simp only [hread, ok_bind, hclose]

theorem readItems_more (h : readValue fuel s = .ok (o, rest)) (hcomma : skip rest = ',' :: t)
    (hne : ∀ u, skip t ≠ ']' :: u) (hmore : readItems fuel t = .ok (os, r)) :
    readItems (fuel + 1) s = .ok (o :: os, r) := by
  have hread := readValue_skip h
  have hreads := readItems_skip hmore
  rw [readItems]
  cases hs : skip s with
  | nil =>
    rw [hs] at hread
    cases fuel <;> cases hread
  | cons c t =>
    rw [hs] at hread
    simp only [hread, ok_bind, hcomma]
    split
    · next heq =>
      rw [heq] at hreads
      cases fuel <;> cases hreads
    · next u heq => exact absurd heq (hne u)
    · rw [hreads]
      rfl

theorem readMembers_last {k : List Char} (hquote : skip s = '"' :: k)
    (hkey : readText k = .ok (key, rest)) (hcolon : skip rest = ':' :: t)
    (h : readValue fuel t = .ok (o, rest')) (hclose : skip rest' = '\x7d' :: r) :
    readMembers (fuel + 1) s = .ok ([(key, o)], r) := by
  rw [readMembers, hquote]
  simp only [hkey, ok_bind, hcolon, h, hclose]

theorem readMembers_more {k u : List Char} (hquote : skip s = '"' :: k)
    (hkey : readText k = .ok (key, rest)) (hcolon : skip rest = ':' :: t)
    (h : readValue fuel t = .ok (o, rest')) (hcomma : skip rest' = ',' :: u)
    (hne : ∀ w, skip u ≠ '\x7d' :: w) (hmore : readMembers fuel u = .ok (ms, r)) :
    readMembers (fuel + 1) s = .ok ((key, o) :: ms, r) := by
  have hreads := readMembers_skip hmore
  rw [readMembers, hquote]
  simp only [hkey, ok_bind, hcolon, h, hcomma]
  split
  · next heq =>
    rw [heq] at hreads
    cases fuel <;> cases hreads
  · next w heq => exact absurd heq (hne w)
  · rw [hreads]
    rfl

theorem readValue_bracket (fuel : Nat) (s : List Char) : readValue (fuel + 1) ('[' :: s) =
    match skip s with
    | ']' :: r => .ok (.list [], r)
    | r => readItems fuel r >>= fun p => .ok (.list p.1, p.2) := by
  rw [readValue, skip_cons (by decide)]
  rfl

theorem readValue_brace (fuel : Nat) (s : List Char) : readValue (fuel + 1) ('\x7b' :: s) =
    match skip s with
    | '\x7d' :: r => .ok (.object [], r)
    | r => readMembers fuel r >>= fun p => .ok (.object p.1, p.2) := by
  rw [readValue, skip_cons (by decide)]
  rfl

theorem readValue_list (hne : ∀ u, skip s ≠ ']' :: u) (h : readItems fuel s = .ok (os, r)) :
    readValue (fuel + 1) ('[' :: s) = .ok (.list os, r) := by
  rw [readValue_bracket]
  split
  · next u heq => exact absurd heq (hne u)
  · rw [readItems_skip h]
    rfl

theorem readValue_object (hne : ∀ u, skip s ≠ '\x7d' :: u) (h : readMembers fuel s = .ok (ms, r)) :
    readValue (fuel + 1) ('\x7b' :: s) = .ok (.object ms, r) := by
  rw [readValue_brace]
  split
  · next u heq => exact absurd heq (hne u)
  · rw [readMembers_skip h]
    rfl

theorem readValue_minus (fuel : Nat) (t : List Char) :
    readValue (fuel + 1) ('-' :: t) = readNumber true t := by
  rw [readValue, skip_cons (by decide)]
  rfl

theorem head_of_isDigit (h : c.isDigit = true) : isSpace c = false ∧ c ≠ ']' ∧ c ≠ '\x7d' := by
  have hspace : isSpace c = false := by
    by_contra hspace
    rcases isSpace_iff.mp (by simpa using hspace) with rfl | rfl | rfl | rfl <;>
      revert h <;> decide
  exact ⟨hspace, ne_of_class h (by decide), ne_of_class h (by decide)⟩

theorem readValue_digit (h : c.isDigit = true) (fuel : Nat) (t : List Char) :
    readValue (fuel + 1) (c :: t) = readNumber false (c :: t) := by
  have hne : ∀ d : Char, d.isDigit = false → c ≠ d := fun _ => ne_of_class h
  rw [readValue, skip_cons (head_of_isDigit h).1]
  split
  · next heq => cases heq
  · next heq => exact absurd (List.cons.inj heq).1 (hne _ (by decide))
  · next heq => exact absurd (List.cons.inj heq).1 (hne _ (by decide))
  · next heq => exact absurd (List.cons.inj heq).1 (hne _ (by decide))
  · next heq => exact absurd (List.cons.inj heq).1 (hne _ (by decide))
  · next heq => exact absurd (List.cons.inj heq).1 (hne _ (by decide))
  · next heq => exact absurd (List.cons.inj heq).1 (hne _ (by decide))
  · next heq => exact absurd (List.cons.inj heq).1 (hne _ (by decide))
  · next heq =>
    cases heq
    exact if_pos h

/-- A value begins with a character that closes nothing. -/
def Begins (t : List Char) : Prop :=
  ∃ c u, t = c :: u ∧ isSpace c = false ∧ c ≠ ']' ∧ c ≠ '\x7d'

theorem Numeral.begins {l : Literal} (h : Numeral l t) : Begins t := by
  cases h with
  | @mk whole fraction power _ _ negative hwhole hzero hf hp =>
    cases negative with
    | true => exact ⟨'-', _, rfl, by decide, by decide, by decide⟩
    | false =>
      cases whole with
      | nil => exact absurd rfl hwhole.1
      | cons d ds => exact ⟨d, _, rfl, head_of_isDigit (hwhole.2 d List.mem_cons_self)⟩

theorem Numeral.read {l : Literal} {v : Json} (h : Numeral l t) (hv : l.Denotes v) (hr : After r)
    (fuel : Nat) : readValue (fuel + 1) (t ++ r) = .ok (.number (.ok v), r) := by
  cases h with
  | @mk whole fraction power _ _ negative hwhole hzero hf hp =>
    have hliteral := readLiteral_parts negative hwhole hzero hf hp hr
    have hread := readNumber_parts hliteral hv
    cases negative with
    | true =>
      simp only [if_true, List.cons_append, List.nil_append, List.append_assoc]
      rw [readValue_minus]
      exact hread
    | false =>
      simp only [Bool.false_eq_true, if_false, List.nil_append, List.append_assoc]
      cases whole with
      | nil => exact absurd rfl hwhole.1
      | cons d ds =>
        rw [List.cons_append, readValue_digit (hwhole.2 d List.mem_cons_self)]
        exact hread

theorem Quoted.contents (h : Quoted .strict ps t) :
    ∃ u, Contents '"' ps u ∧ t = '"' :: (u ++ ['"']) := by
  cases h with
  | double h => exact ⟨_, h, rfl⟩

theorem Label.quote {n : List Char} (h : Label .strict ps n) (r : List Char) : ∃ u a,
    Contents '"' ps u ∧ Blanks a ∧ skip (n ++ r) = '"' :: (u ++ '"' :: (a ++ r)) := by
  cases h with
  | @mk b n a _ hb h ha =>
    cases h with
    | quoted h =>
      obtain ⟨u, hu, rfl⟩ := h.contents
      refine ⟨u, a, hu, ha, ?_⟩
      simp only [List.append_assoc, List.cons_append, List.nil_append]
      rw [skip_blanks hb, skip_cons (by decide)]

/-- After its blanks a part begins with what closes nothing. -/
theorem Written.starts {part : Part} (h : Written .strict part t) (r : List Char) :
    ∃ c u, skip (t ++ r) = c :: u ∧ c ≠ ']' ∧ c ≠ '\x7d' := by
  have hmark : ∀ {c : Char} (u : List Char), isSpace c = false → c ≠ ']' → c ≠ '\x7d' →
      ∃ d w, skip (c :: u) = d :: w ∧ d ≠ ']' ∧ d ≠ '\x7d' :=
    fun u hspace hbracket hbrace => ⟨_, u, skip_cons hspace u, hbracket, hbrace⟩
  induction h generalizing r with
  | null => exact hmark _ (by decide) (by decide) (by decide)
  | yes => exact hmark _ (by decide) (by decide) (by decide)
  | no => exact hmark _ (by decide) (by decide) (by decide)
  | number h =>
    obtain ⟨c, u, rfl, hspace, hbracket, hbrace⟩ := h.begins
    exact hmark _ hspace hbracket hbrace
  | text h =>
    obtain ⟨u, -, rfl⟩ := h.contents
    exact hmark _ (by decide) (by decide) (by decide)
  | emptyList hb => exact hmark _ (by decide) (by decide) (by decide)
  | list h ih => exact hmark _ (by decide) (by decide) (by decide)
  | emptyObject hb => exact hmark _ (by decide) (by decide) (by decide)
  | object h ih => exact hmark _ (by decide) (by decide) (by decide)
  | @padded x b t a hb h ha ih =>
    rw [List.append_assoc, List.append_assoc, skip_blanks hb]
    exact ih (a ++ r)
  | lastItem h ih => exact ih r
  | @item x xs t s h hrest ih ihrest =>
    rw [List.append_assoc]
    exact ih (',' :: s ++ r)
  | lastMember hn h ih =>
    rw [List.append_assoc]
    obtain ⟨u, a, -, -, hquote⟩ := hn.quote (':' :: _ ++ r)
    exact ⟨_, _, hquote, by decide, by decide⟩
  | member hn h hrest ih ihrest =>
    rw [List.append_assoc]
    obtain ⟨u, a, -, -, hquote⟩ := hn.quote (':' :: (_ ++ ',' :: _) ++ r)
    exact ⟨_, _, hquote, by decide, by decide⟩

theorem Written.not_closed {part : Part} (h : Written .strict part t) (r u : List Char) :
    skip (t ++ r) ≠ ']' :: u ∧ skip (t ++ r) ≠ '\x7d' :: u := by
  obtain ⟨c, w, hskip, hbracket, hbrace⟩ := h.starts r
  rw [hskip]
  exact ⟨fun he => hbracket (List.cons.inj he).1, fun he => hbrace (List.cons.inj he).1⟩

theorem Written.length_pos {part : Part} (h : Written .strict part t) : 0 < t.length := by
  obtain ⟨c, u, hskip, -, -⟩ := h.starts []
  rw [List.append_nil] at hskip
  rw [List.length_pos_iff]
  rintro rfl
  cases hskip

/-- Wherever the part stands and however deep it may nest, what it denotes is read from it. -/
def Part.Reads (t : List Char) : Part → Prop
  | .value x => ∀ depth v, x.Nests depth → x.Denotes v → ∀ fuel r, 2 * t.length ≤ fuel + 1 →
      After r → ∃ o, readValue fuel (t ++ r) = .ok (o, r) ∧ o.value depth = .ok v
  | .document x => ∀ depth v, x.Nests depth → x.Denotes v → ∀ fuel r, 2 * t.length ≤ fuel + 1 →
      After r → ∃ o rest, readValue fuel (t ++ r) = .ok (o, rest) ∧ skip rest = skip r ∧
        o.value depth = .ok v
  | .items xs => ∀ depth vs, (∀ x ∈ xs, x.Nests depth) → List.Forall₂ Tree.Denotes xs vs →
      ∀ fuel r, 2 * t.length ≤ fuel → ∃ os, readItems fuel (t ++ ']' :: r) = .ok (os, r) ∧
        Outline.values depth os = .ok vs
  | .members ms => ∀ depth named, (∀ m ∈ ms, m.2.Nests depth) →
      List.Forall₂ (fun m n => Joins m.1 n.1.toList) ms named →
      List.Forall₂ (fun m n => m.2.Denotes n.2) ms named →
      ∀ fuel r, 2 * t.length ≤ fuel → ∃ os, readMembers fuel (t ++ '\x7d' :: r) = .ok (os, r) ∧
        Outline.members depth os = .ok named

theorem reads_word {x : Tree} {c : Char}
    (hread : ∀ fuel r, readValue (fuel + 1) (c :: t ++ r) = .ok (o, r))
    (hv : ∀ depth v, x.Denotes v → o.value depth = .ok v) : (Part.value x).Reads (c :: t) := by
  intro depth v _ hdenotes fuel r hfuel _
  rw [List.length_cons] at hfuel
  obtain ⟨fuel, rfl⟩ := Nat.exists_eq_succ_of_ne_zero (by omega : fuel ≠ 0)
  exact ⟨o, hread fuel r, hv depth v hdenotes⟩

theorem reads_emptyList {b : List Char} (hb : Blanks b) :
    (Part.value (.list [])).Reads ('[' :: (b ++ [']'])) := by
  intro depth v hnests hv fuel r hfuel _
  rw [List.length_cons] at hfuel
  obtain ⟨fuel, rfl⟩ := Nat.exists_eq_succ_of_ne_zero (by omega : fuel ≠ 0)
  cases hnests
  cases hv with
  | list hvs =>
    cases hvs
    refine ⟨.list [], ?_, by simp only [Outline.value, Outline.values, ok_bind]⟩
    rw [List.cons_append, List.append_assoc, readValue_bracket, skip_blanks hb,
      List.singleton_append, skip_cons (by decide)]
    rfl

theorem reads_emptyObject {b : List Char} (hb : Blanks b) :
    (Part.value (.object [])).Reads ('\x7b' :: (b ++ ['\x7d'])) := by
  intro depth v hnests hv fuel r hfuel _
  rw [List.length_cons] at hfuel
  obtain ⟨fuel, rfl⟩ := Nat.exists_eq_succ_of_ne_zero (by omega : fuel ≠ 0)
  cases hnests
  cases hv with
  | object hnames hvs =>
    cases hvs
    refine ⟨.object [], ?_, by simp only [Outline.value, Outline.members, ok_bind]⟩
    rw [List.cons_append, List.append_assoc, readValue_brace, skip_blanks hb,
      List.singleton_append, skip_cons (by decide)]
    rfl

theorem reads_number {l : Literal} (h : Numeral l t) : (Part.value (.number l)).Reads t := by
  intro depth v _ hv fuel r hfuel hr
  have hwritten : Written .strict (.value (.number l)) t := .number h
  have hpos := hwritten.length_pos
  obtain ⟨fuel, rfl⟩ := Nat.exists_eq_succ_of_ne_zero (by omega : fuel ≠ 0)
  cases hv with
  | number hv => exact ⟨_, h.read hv hr fuel, by rw [Outline.value]⟩

theorem reads_text (h : Quoted .strict ps t) : (Part.value (.text ps)).Reads t := by
  intro depth v _ hv fuel r hfuel _
  have hpos := (Written.text h).length_pos
  obtain ⟨fuel, rfl⟩ := Nat.exists_eq_succ_of_ne_zero (by omega : fuel ≠ 0)
  obtain ⟨u, hu, rfl⟩ := h.contents
  cases hv with
  | @text _ cs hcs =>
    refine ⟨.text (.ok (.ofList cs)), ?_, by rw [Outline.value]; rfl⟩
    rw [List.cons_append, List.append_assoc, readValue, skip_cons (by decide)]
    simp only [List.cons_append, List.nil_append, readText_contents hu hcs, ok_bind]

theorem reads_padded {x : Tree} {b a : List Char} (hb : Blanks b) (ha : Blanks a)
    (ht : 0 < t.length) (h : (Part.value x).Reads t) :
    (Part.document x).Reads (b ++ (t ++ a)) := by
  intro depth v hnests hv fuel r hfuel hr
  simp only [List.length_append] at hfuel
  obtain ⟨fuel, rfl⟩ := Nat.exists_eq_succ_of_ne_zero (by omega : fuel ≠ 0)
  obtain ⟨o, hread, ho⟩ := h depth v hnests hv (fuel + 1) (a ++ r) (by omega) (hr.blanks ha)
  refine ⟨o, a ++ r, ?_, skip_blanks ha r, ho⟩
  rw [List.append_assoc, List.append_assoc, readValue_congr (skip_blanks hb _), hread]

theorem reads_lastItem {x : Tree} (ht : 0 < t.length) (h : (Part.document x).Reads t) :
    (Part.items [x]).Reads t := by
  intro depth vs hnests hvs fuel r hfuel
  obtain ⟨fuel, rfl⟩ := Nat.exists_eq_succ_of_ne_zero (by omega : fuel ≠ 0)
  obtain ⟨v, rfl, hv⟩ : ∃ v, vs = [v] ∧ x.Denotes v := by
    cases hvs with
    | cons hv hnil =>
      cases hnil
      exact ⟨_, rfl, hv⟩
  obtain ⟨o, rest, hread, hrest, ho⟩ := h depth v (hnests x List.mem_cons_self) hv fuel (']' :: r)
    hfuel (after_mark (.inr (.inl rfl)) r)
  rw [skip_cons (by decide)] at hrest
  exact ⟨[o], readItems_last hread hrest, by simp only [Outline.values, ho, ok_bind]⟩

theorem reads_item {x : Tree} {xs : List Tree} (h : (Part.document x).Reads t)
    (hs : Written .strict (.items xs) s) (hrest : (Part.items xs).Reads s) :
    (Part.items (x :: xs)).Reads (t ++ ',' :: s) := by
  intro depth vs hnests hvs fuel r hfuel
  rw [List.length_append, List.length_cons] at hfuel
  obtain ⟨fuel, rfl⟩ := Nat.exists_eq_succ_of_ne_zero (by omega : fuel ≠ 0)
  cases hvs with
  | @cons _ v _ vs hv hvs =>
    obtain ⟨hx, hxs⟩ := List.forall_mem_cons.mp hnests
    obtain ⟨o, rest, hread, hskip, ho⟩ := h depth v hx hv fuel (',' :: (s ++ ']' :: r)) (by omega)
      (after_mark (.inl rfl) _)
    obtain ⟨os, hreads, hos⟩ := hrest depth vs hxs hvs fuel r (by omega)
    have hne : ∀ u, skip (s ++ ']' :: r) ≠ ']' :: u := fun u => (hs.not_closed _ u).1
    rw [skip_cons (by decide)] at hskip
    refine ⟨o :: os, ?_, by simp only [Outline.values, ho, hos, ok_bind]⟩
    rw [List.append_assoc, List.cons_append]
    exact readItems_more hread hskip hne hreads

theorem reads_lastMember {x : Tree} {n : List Char} (hn : Label .strict ps n)
    (ht : 0 < t.length) (h : (Part.document x).Reads t) :
    (Part.members [(ps, x)]).Reads (n ++ ':' :: t) := by
  intro depth named hnests hnames hvs fuel r hfuel
  rw [List.length_append, List.length_cons] at hfuel
  obtain ⟨fuel, rfl⟩ := Nat.exists_eq_succ_of_ne_zero (by omega : fuel ≠ 0)
  cases hvs with
  | @cons _ m _ _ hv hnil =>
    cases hnil
    obtain ⟨hname, -⟩ := List.forall₂_cons.mp hnames
    obtain ⟨u, a, hu, ha, hquote⟩ := hn.quote (':' :: (t ++ '\x7d' :: r))
    obtain ⟨o, rest, hread, hskip, ho⟩ := h depth m.2 (hnests _ List.mem_cons_self) hv fuel
      ('\x7d' :: r) (by omega) (after_mark (.inr (.inr rfl)) r)
    have hcolon : skip (a ++ ':' :: (t ++ '\x7d' :: r)) = ':' :: (t ++ '\x7d' :: r) := by
      rw [skip_blanks ha, skip_cons (by decide)]
    rw [skip_cons (by decide)] at hskip
    refine ⟨[(.ok (.ofList m.1.toList), o)], ?_, by
      simp only [Outline.members, ho, ok_bind, String.ofList_toList]⟩
    rw [List.append_assoc, List.cons_append]
    exact readMembers_last hquote (readText_contents hu hname _) hcolon hread hskip

theorem reads_member {x : Tree} {ms : List (List Piece × Tree)} {n : List Char}
    (hn : Label .strict ps n) (h : (Part.document x).Reads t)
    (hs : Written .strict (.members ms) s) (hrest : (Part.members ms).Reads s) :
    (Part.members ((ps, x) :: ms)).Reads (n ++ ':' :: (t ++ ',' :: s)) := by
  intro depth named hnests hnames hvs fuel r hfuel
  simp only [List.length_append, List.length_cons] at hfuel
  obtain ⟨fuel, rfl⟩ := Nat.exists_eq_succ_of_ne_zero (by omega : fuel ≠ 0)
  cases hvs with
  | @cons _ m _ named hv hvs =>
    obtain ⟨hx, hms⟩ := List.forall_mem_cons.mp hnests
    obtain ⟨hname, hnames⟩ := List.forall₂_cons.mp hnames
    obtain ⟨u, a, hu, ha, hquote⟩ := hn.quote (':' :: (t ++ ',' :: (s ++ '\x7d' :: r)))
    obtain ⟨o, rest, hread, hskip, ho⟩ := h depth m.2 hx hv fuel (',' :: (s ++ '\x7d' :: r))
      (by omega) (after_mark (.inl rfl) _)
    obtain ⟨os, hreads, hos⟩ := hrest depth named hms hnames hvs fuel r (by omega)
    have hne : ∀ w, skip (s ++ '\x7d' :: r) ≠ '\x7d' :: w := fun w => (hs.not_closed _ w).2
    have hcolon : skip (a ++ ':' :: (t ++ ',' :: (s ++ '\x7d' :: r))) =
        ':' :: (t ++ ',' :: (s ++ '\x7d' :: r)) := by
      rw [skip_blanks ha, skip_cons (by decide)]
    rw [skip_cons (by decide)] at hskip
    refine ⟨(.ok (.ofList m.1.toList), o) :: os, ?_, by
      simp only [Outline.members, ho, hos, ok_bind, String.ofList_toList]⟩
    simp only [List.append_assoc, List.cons_append]
    exact readMembers_more hquote (readText_contents hu hname _) hcolon hread hskip hne hreads

theorem reads_list {xs : List Tree} (ht : Written .strict (.items xs) t)
    (h : (Part.items xs).Reads t) : (Part.value (.list xs)).Reads ('[' :: (t ++ [']'])) := by
  intro depth v hnests hv fuel r hfuel _
  simp only [List.length_cons, List.length_append] at hfuel
  obtain ⟨fuel, rfl⟩ := Nat.exists_eq_succ_of_ne_zero (by omega : fuel ≠ 0)
  cases hnests with
  | @list depth _ hnests =>
    cases hv with
    | @list _ vs hvs =>
      obtain ⟨os, hreads, hos⟩ := h depth vs hnests hvs fuel r (by omega)
      have hne : ∀ u, skip (t ++ ']' :: r) ≠ ']' :: u := fun u => (ht.not_closed _ u).1
      refine ⟨.list os, ?_, by simp only [Outline.value, hos, ok_bind]⟩
      rw [List.cons_append, List.append_assoc]
      exact readValue_list hne hreads

theorem reads_object {ms : List (List Piece × Tree)} (ht : Written .strict (.members ms) t)
    (h : (Part.members ms).Reads t) :
    (Part.value (.object ms)).Reads ('\x7b' :: (t ++ ['\x7d'])) := by
  intro depth v hnests hv fuel r hfuel _
  simp only [List.length_cons, List.length_append] at hfuel
  obtain ⟨fuel, rfl⟩ := Nat.exists_eq_succ_of_ne_zero (by omega : fuel ≠ 0)
  cases hnests with
  | @object depth _ hnests =>
    cases hv with
    | @object _ named hnames hvs =>
      obtain ⟨os, hreads, hos⟩ := h depth named hnests hnames hvs fuel r (by omega)
      have hne : ∀ u, skip (t ++ '\x7d' :: r) ≠ '\x7d' :: u := fun u => (ht.not_closed _ u).2
      refine ⟨.object os, ?_, by simp only [Outline.value, hos, ok_bind]⟩
      rw [List.cons_append, List.append_assoc]
      exact readValue_object hne hreads

/-- Part by part, strict texts are read. -/
theorem Written.reads {part : Part} (h : Written .strict part t) : part.Reads t := by
  -- on the grammar, for every depth, fuel and rest at once
  induction h with
  | null =>
    refine reads_word (fun _ _ => rfl) fun depth v hv => ?_
    cases hv
    rw [Outline.value]
  | yes =>
    refine reads_word (fun _ _ => rfl) fun depth v hv => ?_
    cases hv
    rw [Outline.value]
  | no =>
    refine reads_word (fun _ _ => rfl) fun depth v hv => ?_
    cases hv
    rw [Outline.value]
  | number h => exact reads_number h
  | text h => exact reads_text h
  | emptyList hb => exact reads_emptyList hb
  | list h ih => exact reads_list h ih
  | emptyObject hb => exact reads_emptyObject hb
  | object h ih => exact reads_object h ih
  | padded hb h ha ih => exact reads_padded hb ha h.length_pos ih
  | lastItem h ih => exact reads_lastItem h.length_pos ih
  | item h hrest ih ihrest => exact reads_item ih hrest ihrest
  | lastMember hn h ih => exact reads_lastMember hn h.length_pos ih
  | member hn h hrest ih ihrest => exact reads_member hn ih hrest ihrest

theorem parseChars_document {x : Tree} {v : Json} (h : Document .strict x t) (hv : x.Denotes v)
    (hnests : x.Nests depthLimit) : parseChars t = .ok v := by
  obtain ⟨o, rest, hread, hskip, ho⟩ :=
    h.reads depthLimit v hnests hv (2 * t.length + 1) [] (by omega) after_nil
  rw [List.append_nil] at hread
  have houtline : outline t = .ok o := by
    rw [outline, hread, ok_bind]
    simp only [hskip]
    rfl
  rw [parseChars, houtline]
  exact ho

end Values

end KeyspaceLink.Json

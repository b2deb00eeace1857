import KeyspaceLink.Text.Percent

/-! Every text is read back from its octets and from its percent escapes, whatever
characters it holds and whichever of the harmless octets the writer keeps. -/

namespace KeyspaceLink

theorem toNat_octet {n : Nat} (h : n < 256) : (UInt8.ofNat n).toNat = n := by
  rw [UInt8.toNat_ofNat']
  exact Nat.mod_eq_of_lt h

theorem isTail_iff {b : UInt8} : isTail b = true ↔ 128 ≤ b.toNat ∧ b.toNat ≤ 191 := by
  simp [isTail, UInt8.le_iff_toNat_le]

theorem isTail_octet (n : Nat) : isTail (UInt8.ofNat (n % 64 + 128)) = true := by
  rw [isTail_iff, toNat_octet (by omega)]
  omega

theorem sextet_octet (n : Nat) : sextet (UInt8.ofNat (n % 64 + 128)) = n % 64 := by
  rw [sextet, toNat_octet (by omega)]
  omega

theorem isSecond_of {a b : UInt8} (hb : isTail b = true)
    (hE0 : a.toNat = 0xE0 → 0xA0 ≤ b.toNat) (hED : a.toNat = 0xED → b.toNat ≤ 0x9F)
    (hF0 : a.toNat = 0xF0 → 0x90 ≤ b.toNat) (hF4 : a.toNat = 0xF4 → b.toNat ≤ 0x8F) :
    isSecond a b = true := by
  have hbounds := isTail_iff.mp hb
  simp only [isSecond, beq_iff_eq, ← UInt8.toNat_inj]
  split
  · next h =>
    have hlow := hE0 h
    simp [UInt8.le_iff_toNat_le]
    omega
  split
  · next h =>
    have hhigh := hED h
    simp [UInt8.le_iff_toNat_le]
    omega
  split
  · next h =>
    have hlow := hF0 h
    simp [UInt8.le_iff_toNat_le]
    omega
  split
  · next h =>
    have hhigh := hF4 h
    simp [UInt8.le_iff_toNat_le]
    omega
  · exact hb

section Sequences

variable {a b c d : UInt8} (r : List UInt8)

theorem readOctets_one (ha : a.toNat < 0x80) :
    readOctets (a :: r) = Char.ofNat a.toNat :: readOctets r := by
  rw [readOctets.eq_def]
  exact if_pos (by simpa [UInt8.lt_iff_toNat_lt] using ha)

theorem readOctets_two (ha : 0xC2 ≤ a.toNat ∧ a.toNat ≤ 0xDF) (hb : isTail b = true) :
    readOctets (a :: b :: r) =
      Char.ofNat (a.toNat % 32 * 64 + sextet b) :: readOctets r := by
  have h1 : ¬ a < 0x80 := by simp [UInt8.lt_iff_toNat_lt]; omega
  have h2 : (0xC2 ≤ a && a ≤ 0xDF) = true := by simp [UInt8.le_iff_toNat_le]; omega
  rw [readOctets.eq_def]
  simp only [if_neg h1, if_pos h2, hb, if_true]

theorem readOctets_three (ha : 0xE0 ≤ a.toNat ∧ a.toNat ≤ 0xEF) (hb : isSecond a b = true)
    (hc : isTail c = true) :
    readOctets (a :: b :: c :: r) =
      Char.ofNat (a.toNat % 16 * 4096 + sextet b * 64 + sextet c) :: readOctets r := by
  have h1 : ¬ a < 0x80 := by simp [UInt8.lt_iff_toNat_lt]; omega
  have h2 : ¬ (0xC2 ≤ a && a ≤ 0xDF) = true := by simp [UInt8.le_iff_toNat_le]; omega
  have h3 : (0xE0 ≤ a && a ≤ 0xEF) = true := by simp [UInt8.le_iff_toNat_le]; omega
  rw [readOctets.eq_def]
  simp only [if_neg h1, if_neg h2, if_pos h3, hb, hc, if_true]

theorem readOctets_four (ha : 0xF0 ≤ a.toNat ∧ a.toNat ≤ 0xF4) (hb : isSecond a b = true)
    (hc : isTail c = true) (hd : isTail d = true) :
    readOctets (a :: b :: c :: d :: r) =
      Char.ofNat (a.toNat % 8 * 262144 + sextet b * 4096 + sextet c * 64 + sextet d)
        :: readOctets r := by
  have h1 : ¬ a < 0x80 := by simp [UInt8.lt_iff_toNat_lt]; omega
  have h2 : ¬ (0xC2 ≤ a && a ≤ 0xDF) = true := by simp [UInt8.le_iff_toNat_le]; omega
  have h3 : ¬ (0xE0 ≤ a && a ≤ 0xEF) = true := by simp [UInt8.le_iff_toNat_le]; omega
  have h4 : (0xF0 ≤ a && a ≤ 0xF4) = true := by simp [UInt8.le_iff_toNat_le]; omega
  rw [readOctets.eq_def]
  simp only [if_neg h1, if_neg h2, if_neg h3, if_pos h4, hb, hc, hd, if_true]

theorem readOctets_utf8EncodeChar (c : Char) :
    readOctets (String.utf8EncodeChar c ++ r) = c :: readOctets r := by
  have hc : Char.ofNat c.val.toNat = c := Char.ofNat_toNat c
  have hvalid : c.val.toNat < 0xD800 ∨ 0xDFFF < c.val.toNat ∧ c.val.toNat < 0x110000 := c.valid
  generalize hv : c.val.toNat = v at hc hvalid
  simp only [String.utf8EncodeChar, hv]
  -- one case for each length of the sequence
  split
  · have ha : (UInt8.ofNat v).toNat = v := toNat_octet (by omega)
    rw [List.cons_append, List.nil_append, readOctets_one r (by omega), ha, hc]
  split
  · have ha : (UInt8.ofNat (v / 64 % 32 + 192)).toNat = v / 64 + 192 := by
      rw [toNat_octet (by omega)]
      omega
    have hsum : (v / 64 + 192) % 32 * 64 + v % 64 = v := by omega
    simp only [List.cons_append, List.nil_append]
    rw [readOctets_two r (by omega) (isTail_octet v), ha, sextet_octet, hsum, hc]
  split
  · have ha : (UInt8.ofNat (v / 4096 % 16 + 224)).toNat = v / 4096 + 224 := by
      rw [toNat_octet (by omega)]
      omega
    have hb : (UInt8.ofNat (v / 64 % 64 + 128)).toNat = v / 64 % 64 + 128 :=
      toNat_octet (by omega)
    have hsum : (v / 4096 + 224) % 16 * 4096 + v / 64 % 64 * 64 + v % 64 = v := by omega
    have hsecond : isSecond (UInt8.ofNat (v / 4096 % 16 + 224)) (UInt8.ofNat (v / 64 % 64 + 128))
        = true := by
      apply isSecond_of (isTail_octet _) <;> omega
    simp only [List.cons_append, List.nil_append]
    rw [readOctets_three r (by omega) hsecond (isTail_octet v), ha, sextet_octet, sextet_octet,
      hsum, hc]
  · have ha : (UInt8.ofNat (v / 262144 % 8 + 240)).toNat = v / 262144 + 240 := by
      rw [toNat_octet (by omega)]
      omega
    have hb : (UInt8.ofNat (v / 4096 % 64 + 128)).toNat = v / 4096 % 64 + 128 :=
      toNat_octet (by omega)
    have hsum : (v / 262144 + 240) % 8 * 262144 + v / 4096 % 64 * 4096 + v / 64 % 64 * 64 + v % 64
        = v := by omega
    have hsecond : isSecond (UInt8.ofNat (v / 262144 % 8 + 240))
        (UInt8.ofNat (v / 4096 % 64 + 128)) = true := by
      apply isSecond_of (isTail_octet _) <;> omega
    simp only [List.cons_append, List.nil_append]
    rw [readOctets_four r (by omega) hsecond (isTail_octet _) (isTail_octet v), ha, sextet_octet,
      sextet_octet, sextet_octet, hsum, hc]

end Sequences

theorem readOctets_octets (s : List Char) : readOctets (octets s) = s := by
  induction s with
  | nil => rfl
  | cons c s ih =>
    have hstep : octets (c :: s) = String.utf8EncodeChar c ++ octets s := List.flatMap_cons
    rw [hstep, readOctets_utf8EncodeChar, ih]

theorem utf8EncodeChar_of_lt {c : Char} (h : c.toNat < 128) :
    String.utf8EncodeChar c = [UInt8.ofNat c.toNat] := by
  have hle : c.val.toNat ≤ 127 := Nat.le_of_lt_succ h
  simp only [String.utf8EncodeChar, if_pos hle]
  rfl

theorem hexValue?_upperHex : ∀ n < 16, hexValue? (upperHex n) = some n := by decide

theorem unescapeOctets_escape (b : UInt8) (r : List Char) :
    unescapeOctets ('%' :: upperHex (b.toNat / 16) :: upperHex (b.toNat % 16) :: r) =
      b :: unescapeOctets r := by
  have hb : b.toNat < 256 := b.toNat_lt
  have hhigh : hexValue? (upperHex (b.toNat / 16)) = some (b.toNat / 16) :=
    hexValue?_upperHex _ (by omega)
  have hlow : hexValue? (upperHex (b.toNat % 16)) = some (b.toNat % 16) :=
    hexValue?_upperHex _ (by omega)
  have hsum : b.toNat / 16 * 16 + b.toNat % 16 = b.toNat := by omega
  simp only [unescapeOctets, hhigh, hlow, hsum, UInt8.ofNat_toNat]

theorem unescapeOctets_cons {c : Char} (h : c ≠ '%') (r : List Char) :
    unescapeOctets (c :: r) = String.utf8EncodeChar c ++ unescapeOctets r := by
  rw [unescapeOctets.eq_2]
  intro _ _ _ hc _
  exact h hc

section Escapes

variable {keep : UInt8 → Bool}

/-- The percent sign is never kept, and nothing beyond ASCII is. -/
def KeepsPlain (keep : UInt8 → Bool) : Prop := ∀ b, keep b = true → b.toNat < 128 ∧ b ≠ 37

theorem toNat_ofNat_octet (b : UInt8) : (Char.ofNat b.toNat).toNat = b.toNat := by
  have hb : b.toNat < 256 := b.toNat_lt
  have hvalid : b.toNat.isValidChar := Or.inl (by omega)
  rw [Char.ofNat, dif_pos hvalid]
  rfl

theorem unescapeOctets_escapeOctet (hkeep : KeepsPlain keep) (b : UInt8) (r : List Char) :
    unescapeOctets (escapeOctet keep b ++ r) = b :: unescapeOctets r := by
  rw [escapeOctet]
  split
  · next hb =>
    obtain ⟨hlt, hne⟩ := hkeep b hb
    have hc : Char.ofNat b.toNat ≠ '%' := by
      intro h
      have hnat : b.toNat = 37 := by rw [← toNat_ofNat_octet, h]; rfl
      exact hne (UInt8.toNat_inj.mp hnat)
    have hascii : (Char.ofNat b.toNat).toNat < 128 := by rwa [toNat_ofNat_octet]
    rw [List.cons_append, List.nil_append, unescapeOctets_cons hc, utf8EncodeChar_of_lt hascii,
      toNat_ofNat_octet, UInt8.ofNat_toNat]
    rfl
  · exact unescapeOctets_escape b r

theorem unescapeOctets_escapeOctets (hkeep : KeepsPlain keep) (bs : List UInt8) :
    unescapeOctets (bs.flatMap (escapeOctet keep)) = bs := by
  induction bs with
  | nil => rfl
  | cons b bs ih => rw [List.flatMap_cons, unescapeOctets_escapeOctet hkeep, ih]

theorem unescapeText_escapeText (hkeep : KeepsPlain keep) (s : List Char) :
    unescapeText (escapeText keep s) = s := by
  rw [unescapeText, escapeText, unescapeOctets_escapeOctets hkeep, readOctets_octets]

/-- A mark that is no percent sign, no hexadecimal digit and not kept does not occur in what
is written. -/
theorem not_mem_escapeText (mark : UInt8) (hkeep : keep mark = false)
    (hmark : mark.toNat < 37 ∨ mark.toNat = 38 ∨ 57 < mark.toNat ∧ mark.toNat < 65)
    (s : List Char) : Char.ofNat mark.toNat ∉ escapeText keep s := by
  intro hmem
  obtain ⟨b, -, hb⟩ := List.mem_flatMap.mp hmem
  have hhex : ∀ n < 16, Char.ofNat mark.toNat ≠ upperHex n := by
    intro n hn h
    have hnat := congrArg Char.toNat h
    rw [toNat_ofNat_octet] at hnat
    have hrange : ∀ m < 16, 48 ≤ (upperHex m).toNat ∧ (upperHex m).toNat ≤ 57 ∨
        65 ≤ (upperHex m).toNat := by decide
    rcases hrange n hn with hr | hr <;> omega
  have hlt : b.toNat < 256 := b.toNat_lt
  rw [escapeOctet] at hb
  split at hb
  · next hkept =>
    have hnat := congrArg Char.toNat (List.mem_singleton.mp hb)
    rw [toNat_ofNat_octet, toNat_ofNat_octet] at hnat
    rw [UInt8.toNat_inj.mp hnat, hkept] at hkeep
    cases hkeep
  · simp only [List.mem_cons, List.not_mem_nil, or_false] at hb
    rcases hb with h | h | h
    · have hnat := congrArg Char.toNat h
      rw [toNat_ofNat_octet] at hnat
      have h37 : '%'.toNat = 37 := rfl
      omega
    · exact hhex _ (by omega) h
    · exact hhex _ (by omega) h

end Escapes

end KeyspaceLink

import KeyspaceLink.Json.Printer
import KeyspaceLink.Proofs.MendedText

/-! Written JSON is read back: a value without doubles, whose objects have no name twice, is
what its own text denotes. That text is strict, so mending keeps it. -/

namespace KeyspaceLink.Json

/-- Values that are read back from their text: integers of a word, no doubles, no name twice in
an object, at most `depth` levels of lists and objects. -/
inductive Legible : Nat → Json → Prop
  | null {depth : Nat} : Legible depth .null
  | bool {depth : Nat} (b : Bool) : Legible depth (.bool b)
  | int {depth : Nat} {i : Int} (hlow : -(word63 : Int) ≤ i) (hhigh : i < (word64 : Int)) :
      Legible depth (.int i)
  | text {depth : Nat} (s : String) : Legible depth (.text s)
  | list {depth : Nat} {items : List Json} (h : ∀ v ∈ items, Legible depth v) :
      Legible (depth + 1) (.list items)
  | object {depth : Nat} {members : List (String × Json)} (hnames : (members.map Prod.fst).Nodup)
      (h : ∀ m ∈ members, Legible depth m.2) : Legible (depth + 1) (.object members)

section Numbers

variable {n : Nat}

theorem digits_digitsOf : Digits (digitsOf n) :=
  ⟨Nat.toDigits_ne_nil, fun _ => Nat.isDigit_of_mem_toDigits (by omega) (by omega)⟩

theorem head?_digitsOf (h : n ≠ 0) : (digitsOf n).head? ≠ some '0' := by
  induction n using Nat.strongRecOn with
  | ind n ih =>
    rw [digitsOf, Nat.toDigits_eq_if (by omega)]
    by_cases hn : n < 10
    · rw [if_pos hn]
      interval_cases n <;> simp_all
    · have hhead := ih (n / 10) (by omega) (by omega)
      rw [if_neg hn, List.head?_append_of_ne_nil _ Nat.toDigits_ne_nil]
      exact hhead

theorem numeral_digitsOf (negative : Bool) (n : Nat) :
    Numeral ⟨negative, digitsOf n, none, none⟩
      ((if negative then ['-'] else []) ++ digitsOf n) := by
  have hzero : (digitsOf n).head? = some '0' → digitsOf n = ['0'] := by
    intro hhead
    by_cases hn : n = 0
    · subst hn
      rfl
    · exact absurd hhead (head?_digitsOf hn)
  simpa using Numeral.mk negative digits_digitsOf hzero .absent .absent

/-- Integers of a word are written as numbers that denote them. -/
theorem numeral_writeInt {i : Int} (hlow : -(word63 : Int) ≤ i) (hhigh : i < (word64 : Int)) :
    ∃ l, Numeral l (writeInt i) ∧ l.Denotes (.int i) := by
  by_cases hi : 0 ≤ i
  · have hvalue : digitsValue 0 (digitsOf i.toNat) = i.toNat := digitsValue_toDigits _
    have hdenotes : Literal.Denotes ⟨false, digitsOf i.toNat, none, none⟩ _ :=
      .natural (by omega)
    rw [hvalue, Int.toNat_of_nonneg hi] at hdenotes
    exact ⟨_, by simpa [writeInt, hi] using numeral_digitsOf false i.toNat, hdenotes⟩
  · have hvalue : digitsValue 0 (digitsOf i.natAbs) = i.natAbs := digitsValue_toDigits _
    have hdenotes : Literal.Denotes ⟨true, digitsOf i.natAbs, none, none⟩ _ :=
      .negative (by omega) (by omega)
    have habs : -(i.natAbs : Int) = i := by omega
    rw [hvalue, habs] at hdenotes
    exact ⟨_, by simpa [writeInt, hi] using numeral_digitsOf true i.natAbs, hdenotes⟩

end Numbers

section Texts

theorem hexValue?_lowerHex : ∀ n < 16, hexValue? (lowerHex n) = some n := by decide

/-- A character is written with its own escape, by its number, or as it is. -/
theorem escapeChar_cases (c : Char) :
    (∃ e, simpleEscape? e = some c ∧ escapeChar c = ['\\', e]) ∨
      (c.toNat < 32 ∧ escapeChar c =
        ['\\', 'u', '0', '0', lowerHex (c.toNat / 16), lowerHex (c.toNat % 16)]) ∨
      (32 ≤ c.toNat ∧ c ≠ '"' ∧ c ≠ '\\' ∧ escapeChar c = [c]) := by
  by_cases hspecial : c ∈ ['"', '\\', '\x08', '\x0c', '\n', '\r', '\t']
  · fin_cases hspecial <;> exact .inl ⟨_, rfl, rfl⟩
  simp only [List.mem_cons, List.not_mem_nil, or_false, not_or] at hspecial
  obtain ⟨hquote, hslash, hback, hform, hline, hreturn, htab⟩ := hspecial
  by_cases hcontrol : c.toNat < 32
  · refine .inr (.inl ⟨hcontrol, ?_⟩)
    simp [escapeChar, hquote, hslash, hback, hform, hline, hreturn, htab, hcontrol]
  · refine .inr (.inr ⟨by omega, hquote, hslash, ?_⟩)
    simp [escapeChar, hquote, hslash, hback, hform, hline, hreturn, htab, hcontrol]

theorem contents_written (cs : List Char) :
    ∃ ps, Contents '"' ps (cs.flatMap escapeChar) ∧ Joins ps cs := by
  induction cs with
  | nil => exact ⟨[], .nil, .nil⟩
  | cons c cs ih =>
    obtain ⟨ps, hps, hcs⟩ := ih
    rw [List.flatMap_cons]
    rcases escapeChar_cases c with ⟨e, hsimple, hwritten⟩ | ⟨hcontrol, hwritten⟩ |
      ⟨hvisible, hquote, hslash, hwritten⟩
    · rw [hwritten]
      exact ⟨_, .escape hsimple hps, .char c hcs⟩
    · have hhigh := hexValue?_lowerHex (c.toNat / 16) (by omega)
      have hlow := hexValue?_lowerHex (c.toNat % 16) (by omega)
      have hzero : hexValue? '0' = some 0 := by decide
      have hunit : hexValue4? '0' '0' (lowerHex (c.toNat / 16)) (lowerHex (c.toNat % 16)) =
          some c.toNat := by
        simp only [hexValue4?, hzero, hhigh, hlow, Option.bind_eq_bind, Option.bind_some]
        congr 1
        omega
      have hjoins := Joins.unit (.inl (by omega : c.toNat < 0xD800)) hcs
      rw [Char.ofNat_toNat] at hjoins
      rw [hwritten]
      exact ⟨_, .unit hunit hps, hjoins⟩
    · rw [hwritten]
      exact ⟨_, .plain hvisible hquote hslash hps, .char c hcs⟩

theorem quoted_writeText (s : String) :
    ∃ ps, Quoted .strict ps (writeText s) ∧ Joins ps s.toList := by
  obtain ⟨ps, hps, hcs⟩ := contents_written s.toList
  exact ⟨ps, .double hps, hcs⟩

end Texts

section Objects

variable {done members : List (String × Json)} {name : String} {v : Json}

theorem put_of_not_mem (h : name ∉ done.map Prod.fst) : put name v done = done ++ [(name, v)] := by
  induction done with
  | nil => rfl
  | cons p done ih =>
    obtain ⟨k, w⟩ := p
    simp only [List.map_cons, List.mem_cons, not_or] at h
    have hk : k ≠ name := Ne.symm h.1
    simp [put, hk, ih h.2]

/-- Members of different names stay as they are. -/
theorem collect_of_nodup (h : (members.map Prod.fst).Nodup) : collect members = members := by
  have hfold : ∀ done : List (String × Json), ((done ++ members).map Prod.fst).Nodup →
      members.foldl (fun done p => put p.1 p.2 done) done = done ++ members := by
    intro done hdone
    induction members generalizing done with
    | nil => simp
    | cons m members ih =>
      have hm : m.1 ∉ done.map Prod.fst := by
        intro hmem
        rw [List.map_append, List.map_cons] at hdone
        exact (List.nodup_append.mp hdone).2.2 _ hmem _ List.mem_cons_self rfl
      rw [List.foldl_cons, put_of_not_mem hm, ih (List.nodup_cons.mp h).2 _ (by simpa using hdone)]
      simp
  exact hfold [] (by simpa using h)

end Objects

section Values

variable {depth : Nat} {v : Json}

/-- Some tree is written in the text and denotes the value. -/
def HasText (depth : Nat) (v : Json) : Prop :=
  ∃ x : Tree, Written .strict (.value x) v.write ∧ x.Denotes v ∧ x.Nests depth

theorem written_items {items : List Json} (hne : items ≠ [])
    (h : ∀ v ∈ items, HasText depth v) : ∃ xs, Written .strict (.items xs) (writeItems items) ∧
      List.Forall₂ Tree.Denotes xs items ∧ ∀ x ∈ xs, x.Nests depth := by
  induction items with
  | nil => exact absurd rfl hne
  | cons v rest ih =>
    obtain ⟨⟨x, hx, hv, hnests⟩, hrest⟩ := List.forall_mem_cons.mp h
    cases rest with
    | nil =>
      refine ⟨[x], ?_, .cons hv .nil, by simpa using hnests⟩
      rw [writeItems, List.append_nil]
      exact .lastItem hx.document
    | cons w more =>
      obtain ⟨xs, hxs, hvs, hall⟩ := ih (List.cons_ne_nil w more) hrest
      refine ⟨x :: xs, ?_, .cons hv hvs, List.forall_mem_cons.mpr ⟨hnests, hall⟩⟩
      rw [writeItems]
      exact .item hx.document hxs

theorem label_writeText {ps : List Piece} {s : String} (h : Quoted .strict ps (writeText s)) :
    Label .strict ps (writeText s) := by
  have hnone : Blanks [] := by simp [Blanks]
  simpa using Label.mk hnone (.quoted h) hnone

theorem written_members {members : List (String × Json)} (hne : members ≠ [])
    (h : ∀ m ∈ members, HasText depth m.2) :
    ∃ ms, Written .strict (.members ms) (writeMembers members) ∧
      List.Forall₂ (fun m n => Joins m.1 n.1.toList) ms members ∧
      List.Forall₂ (fun m n => m.2.Denotes n.2) ms members ∧ ∀ m ∈ ms, m.2.Nests depth := by
  induction members with
  | nil => exact absurd rfl hne
  | cons m rest ih =>
    obtain ⟨k, v⟩ := m
    obtain ⟨⟨x, hx, hv, hnests⟩, hrest⟩ := List.forall_mem_cons.mp h
    obtain ⟨ps, hps, hk⟩ := quoted_writeText k
    have hlabel := label_writeText hps
    cases rest with
    | nil =>
      refine ⟨[(ps, x)], ?_, .cons hk .nil, .cons hv .nil, by simpa using hnests⟩
      rw [writeMembers, List.append_nil]
      exact .lastMember hlabel hx.document
    | cons m more =>
      obtain ⟨ms, hms, hnames, hvs, hall⟩ := ih (List.cons_ne_nil m more) hrest
      refine ⟨(ps, x) :: ms, ?_, .cons hk hnames, .cons hv hvs,
        List.forall_mem_cons.mpr ⟨hnests, hall⟩⟩
      rw [writeMembers, List.append_assoc]
      exact .member hlabel hx.document hms

theorem hasText_list {items : List Json} (h : ∀ v ∈ items, HasText depth v) :
    HasText (depth + 1) (.list items) := by
  rw [HasText, write]
  cases items with
  | nil => exact ⟨.list [], .emptyList (b := []) (by simp [Blanks]), .list .nil, .list (by simp)⟩
  | cons v rest =>
    obtain ⟨xs, hxs, hvs, hnests⟩ := written_items (List.cons_ne_nil v rest) h
    exact ⟨.list xs, .list hxs, .list hvs, .list hnests⟩

theorem hasText_object {members : List (String × Json)} (hnodup : (members.map Prod.fst).Nodup)
    (h : ∀ m ∈ members, HasText depth m.2) : HasText (depth + 1) (.object members) := by
  rw [HasText, write]
  cases members with
  | nil =>
    exact ⟨.object [], .emptyObject (b := []) (by simp [Blanks]), .object .nil .nil,
      .object (by simp)⟩
  | cons m rest =>
    obtain ⟨ms, hms, hnames, hvs, hnests⟩ := written_members (List.cons_ne_nil m rest) h
    have hdenotes := Tree.Denotes.object hnames hvs
    rw [collect_of_nodup hnodup] at hdenotes
    exact ⟨.object ms, .object hms, hdenotes, .object hnests⟩

theorem Legible.hasText (h : Legible depth v) : HasText depth v := by
  induction h with
  | null => exact ⟨.null, .null, .null, .null⟩
  | bool b =>
    cases b with
    | true => exact ⟨.bool true, .yes, .bool true, .bool true⟩
    | false => exact ⟨.bool false, .no, .bool false, .bool false⟩
  | int hlow hhigh =>
    obtain ⟨l, hl, hdenotes⟩ := numeral_writeInt hlow hhigh
    exact ⟨.number l, .number (by rwa [write]), .number hdenotes, .number l⟩
  | text s =>
    obtain ⟨ps, hps, hs⟩ := quoted_writeText s
    have hdenotes := Tree.Denotes.text hs
    rw [String.ofList_toList] at hdenotes
    exact ⟨.text ps, .text (by rwa [write]), hdenotes, .text ps⟩
  | list _ ih => exact hasText_list ih
  | object hnodup _ ih => exact hasText_object hnodup ih

/-- What is written is read back. -/
theorem parseChars_write (h : Legible depthLimit v) : parseChars v.write = .ok v := by
  obtain ⟨x, hx, hv, hnests⟩ := h.hasText
  exact parseChars_document hx.document hv hnests

/-- What is written is strict, and mending keeps it. -/
theorem relax_write (h : Legible depth v) : relax v.write = v.write := by
  obtain ⟨x, hx, -⟩ := h.hasText
  exact (document_relax hx.document).2 rfl

end Values

end KeyspaceLink.Json

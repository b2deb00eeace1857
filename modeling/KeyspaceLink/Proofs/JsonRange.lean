import KeyspaceLink.Json.Outline

/-! The integers of a value that was read fit a word, signed or not: longer numbers are doubles. -/

namespace KeyspaceLink.Json

/-- Every integer in the value fits a word. -/
inductive Bounded : Json → Prop
  | null : Bounded .null
  | bool (b : Bool) : Bounded (.bool b)
  | int {i : Int} (hlow : -(word63 : Int) ≤ i) (hhigh : i < (word64 : Int)) : Bounded (.int i)
  | float (x : Float) : Bounded (.float x)
  | text (s : String) : Bounded (.text s)
  | list {items : List Json} (h : ∀ v ∈ items, Bounded v) : Bounded (.list items)
  | object {members : List (String × Json)} (h : ∀ m ∈ members, Bounded m.2) :
      Bounded (.object members)

inductive Outline.Bounded : Outline → Prop
  | null : Outline.Bounded .null
  | bool (b : Bool) : Outline.Bounded (.bool b)
  | number {x : Except Refusal Json} (h : ∀ v, x = .ok v → v.Bounded) :
      Outline.Bounded (.number x)
  | text (t : Except Refusal String) : Outline.Bounded (.text t)
  | list {items : List Outline} (h : ∀ o ∈ items, Outline.Bounded o) : Outline.Bounded (.list items)
  | object {members : List (Except Refusal String × Outline)}
      (h : ∀ m ∈ members, Outline.Bounded m.2) : Outline.Bounded (.object members)

section Members

variable {v w : Json} {name : String} {n : Nat}

theorem Bounded.get? (h : v.Bounded) (hw : v.get? name = some w) : w.Bounded := by
  cases h with
  | @object members h =>
    have hlookup : members.lookup name = some w := hw
    obtain ⟨before, after, rfl, -⟩ := List.lookup_eq_some_iff.mp hlookup
    exact h (name, w) (List.mem_append_right before List.mem_cons_self)
  | _ => cases hw

theorem Bounded.natural?_lt (h : v.Bounded) (hn : v.natural? = some n) : n < word64 := by
  cases h with
  | @int i hlow hhigh =>
    simp only [natural?, Option.ite_none_right_eq_some, Option.some.injEq] at hn
    omega
  | _ => cases hn

end Members

section Reading

variable {s r : List Char} {o : Outline} {v : Json}

theorem fittingDigits_lt {acc : Nat} (h : acc < word64) : (fittingDigits acc s).1 < word64 := by
  induction s generalizing acc with
  | nil => exact h
  | cons c s ih =>
    simp only [fittingDigits]
    split
    · next hnext => exact ih hnext
    · exact h

theorem Literal.bounded_value? {l : Literal} (h : l.value? = some v) : v.Bounded := by
  have hfloat : ∀ {x : Option Float}, x.map Json.float = some v → v.Bounded := by
    intro x hx
    obtain ⟨f, -, rfl⟩ := Option.map_eq_some_iff.mp hx
    exact .float f
  have hfits : (fittingDigits 0 l.whole).1 < word64 := fittingDigits_lt (by decide)
  unfold value? at h
  split at h
  · dsimp only at h
    split at h
    · split at h
      · cases h
        exact .int (by omega) (by omega)
      · split at h
        · next hsmall =>
          cases h
          simp only [Bool.and_eq_true, decide_eq_true_eq] at hsmall
          exact .int (by omega) (by omega)
        · cases h
          exact .float _
    · exact hfloat h
  · exact hfloat h

theorem bounded_readNumber {negative : Bool} (h : readNumber negative s = .ok (o, r)) :
    o.Bounded := by
  obtain ⟨⟨l, rest⟩, -, h⟩ := bind_eq_ok_iff.mp h
  cases h
  refine .number fun v hv => ?_
  cases hvalue : l.value? with
  | none =>
    rw [hvalue] at hv
    cases hv
  | some w =>
    rw [hvalue] at hv
    cases hv
    exact Literal.bounded_value? hvalue

theorem eq_of_readWord {value : Outline} {word : List Char}
    (h : readWord value word s = .ok (o, r)) : o = value := by
  induction word generalizing s with
  | nil =>
    cases h
    rfl
  | cons w word ih =>
    cases s with
    | nil => cases h
    | cons c s =>
      simp only [readWord] at h
      split at h
      · exact ih h
      · cases h

/-- What the readers give, with any fuel. -/
structure Bounding (fuel : Nat) : Prop where
  value : ∀ {s o r}, readValue fuel s = .ok (o, r) → o.Bounded
  items : ∀ {s os r}, readItems fuel s = .ok (os, r) → ∀ o ∈ os, o.Bounded
  members : ∀ {s ms r}, readMembers fuel s = .ok (ms, r) → ∀ m ∈ ms, m.2.Bounded

theorem Bounding.value_succ {fuel : Nat} (ih : Bounding fuel)
    (h : readValue (fuel + 1) s = .ok (o, r)) : o.Bounded := by
  rw [readValue] at h
  split at h
  · cases h
  · exact eq_of_readWord h ▸ .null
  · exact eq_of_readWord h ▸ .bool true
  · exact eq_of_readWord h ▸ .bool false
  · exact bounded_readNumber h
  · obtain ⟨⟨t, rest⟩, -, h⟩ := bind_eq_ok_iff.mp h
    cases h
    exact .text t
  · split at h
    · cases h
      exact .list nofun
    · obtain ⟨⟨os, rest⟩, hitems, h⟩ := bind_eq_ok_iff.mp h
      cases h
      exact .list (ih.items hitems)
  · split at h
    · cases h
      exact .object nofun
    · obtain ⟨⟨ms, rest⟩, hmembers, h⟩ := bind_eq_ok_iff.mp h
      cases h
      exact .object (ih.members hmembers)
  · split at h
    · exact bounded_readNumber h
    · cases h

theorem Bounding.items_succ {fuel : Nat} (ih : Bounding fuel) {os : List Outline}
    (h : readItems (fuel + 1) s = .ok (os, r)) : ∀ o ∈ os, o.Bounded := by
  rw [readItems] at h
  split at h
  · cases h
  · obtain ⟨⟨o, rest⟩, hvalue, h⟩ := bind_eq_ok_iff.mp h
    have ho : o.Bounded := ih.value hvalue
    dsimp only at h
    split at h
    · cases h
    · cases h
      exact List.forall_mem_singleton.mpr ho
    · split at h
      · cases h
      · cases h
      · obtain ⟨⟨rest', r'⟩, hitems, h⟩ := bind_eq_ok_iff.mp h
        cases h
        exact List.forall_mem_cons.mpr ⟨ho, ih.items hitems⟩
    · cases h

theorem Bounding.members_succ {fuel : Nat} (ih : Bounding fuel)
    {ms : List (Except Refusal String × Outline)} (h : readMembers (fuel + 1) s = .ok (ms, r)) :
    ∀ m ∈ ms, m.2.Bounded := by
  rw [readMembers] at h
  split at h
  · cases h
  · obtain ⟨⟨key, rest⟩, -, h⟩ := bind_eq_ok_iff.mp h
    dsimp only at h
    split at h
    · cases h
    · obtain ⟨⟨o, rest'⟩, hvalue, h⟩ := bind_eq_ok_iff.mp h
      have ho : o.Bounded := ih.value hvalue
      dsimp only at h
      split at h
      · cases h
      · cases h
        exact List.forall_mem_singleton.mpr ho
      · split at h
        · cases h
        · cases h
        · obtain ⟨⟨more, r'⟩, hmembers, h⟩ := bind_eq_ok_iff.mp h
          cases h
          exact List.forall_mem_cons.mpr ⟨ho, ih.members hmembers⟩
      · cases h
    · cases h
  · cases h

theorem bounding (fuel : Nat) : Bounding fuel := by
  induction fuel with
  | zero => exact ⟨nofun, nofun, nofun⟩
  | succ fuel ih => exact ⟨ih.value_succ, ih.items_succ, ih.members_succ⟩

theorem mem_put {name : String} {done : List (String × Json)} {m : String × Json}
    (h : m ∈ put name v done) : m.2 = v ∨ m ∈ done := by
  induction done with
  | nil => exact .inl (congrArg Prod.snd (List.mem_singleton.mp h))
  | cons p done ih =>
    obtain ⟨k, w⟩ := p
    simp only [put] at h
    split at h
    · rcases List.mem_cons.mp h with rfl | h
      · exact .inl rfl
      · exact .inr (List.mem_cons_of_mem _ h)
    · rcases List.mem_cons.mp h with rfl | h
      · exact .inr List.mem_cons_self
      · exact (ih h).imp_right (List.mem_cons_of_mem _)

theorem mem_foldl_put {members done : List (String × Json)} {m : String × Json}
    (h : m ∈ members.foldl (fun done p => put p.1 p.2 done) done) :
    (∃ m' ∈ members, m.2 = m'.2) ∨ m ∈ done := by
  induction members generalizing done with
  | nil => exact .inr h
  | cons p members ih =>
    rcases ih h with ⟨m', hm', hvalue⟩ | hdone
    · exact .inl ⟨m', List.mem_cons_of_mem p hm', hvalue⟩
    · rcases mem_put hdone with hvalue | hdone
      · exact .inl ⟨p, List.mem_cons_self, hvalue⟩
      · exact .inr hdone

/-- The members of an object have values that were put. -/
theorem mem_collect {members : List (String × Json)} {m : String × Json}
    (h : m ∈ collect members) : ∃ m' ∈ members, m.2 = m'.2 :=
  (mem_foldl_put h).resolve_right List.not_mem_nil

theorem bounded_values {depth : Nat} {items : List Outline} {vs : List Json}
    (h : ∀ o ∈ items, ∀ v, o.value depth = .ok v → v.Bounded)
    (hvs : Outline.values depth items = .ok vs) : ∀ v ∈ vs, v.Bounded := by
  induction items generalizing vs with
  | nil =>
    cases hvs
    nofun
  | cons o items ih =>
    obtain ⟨ho, hitems⟩ := List.forall_mem_cons.mp h
    rw [Outline.values] at hvs
    obtain ⟨v, hv, hvs⟩ := bind_eq_ok_iff.mp hvs
    obtain ⟨rest, hrest, hvs⟩ := bind_eq_ok_iff.mp hvs
    cases hvs
    exact List.forall_mem_cons.mpr ⟨ho v hv, ih hitems hrest⟩

theorem bounded_members {depth : Nat} {members : List (Except Refusal String × Outline)}
    {ms : List (String × Json)} (h : ∀ m ∈ members, ∀ v, m.2.value depth = .ok v → v.Bounded)
    (hms : Outline.members depth members = .ok ms) : ∀ m ∈ ms, m.2.Bounded := by
  induction members generalizing ms with
  | nil =>
    cases hms
    nofun
  | cons m members ih =>
    obtain ⟨hm, hmembers⟩ := List.forall_mem_cons.mp h
    obtain ⟨key, o⟩ := m
    rw [Outline.members] at hms
    obtain ⟨name, -, hms⟩ := bind_eq_ok_iff.mp hms
    obtain ⟨v, hv, hms⟩ := bind_eq_ok_iff.mp hms
    obtain ⟨rest, hrest, hms⟩ := bind_eq_ok_iff.mp hms
    cases hms
    exact List.forall_mem_cons.mpr ⟨hm v hv, ih hmembers hrest⟩

theorem Outline.Bounded.value (h : o.Bounded) {depth : Nat} (hv : o.value depth = .ok v) :
    v.Bounded := by
  induction h generalizing depth v with
  | null =>
    rw [Outline.value] at hv
    cases hv
    exact .null
  | bool b =>
    rw [Outline.value] at hv
    cases hv
    exact .bool b
  | number h =>
    rw [Outline.value] at hv
    exact h v hv
  | text t =>
    rw [Outline.value] at hv
    obtain ⟨s, -, hv⟩ := bind_eq_ok_iff.mp hv
    cases hv
    exact .text s
  | list _ ih =>
    cases depth with
    | zero => cases hv
    | succ depth =>
      rw [Outline.value] at hv
      obtain ⟨vs, hvs, hv⟩ := bind_eq_ok_iff.mp hv
      cases hv
      exact .list (bounded_values (fun o ho v hv => ih o ho hv) hvs)
  | object _ ih =>
    cases depth with
    | zero => cases hv
    | succ depth =>
      rw [Outline.value] at hv
      obtain ⟨ms, hms, hv⟩ := bind_eq_ok_iff.mp hv
      cases hv
      refine .object fun m hm => ?_
      obtain ⟨m', hm', hvalue⟩ := mem_collect hm
      rw [hvalue]
      exact bounded_members (fun m hm v hv => ih m hm hv) hms m' hm'

theorem bounded_of_parseChars (h : parseChars s = .ok v) : v.Bounded := by
  obtain ⟨o, houtline, hvalue⟩ := bind_eq_ok_iff.mp h
  obtain ⟨⟨o', rest⟩, hread, h⟩ := bind_eq_ok_iff.mp houtline
  have ho : o'.Bounded := (bounding _).value hread
  dsimp only at h
  split at h
  · cases h
    exact ho.value hvalue
  · cases h

theorem bounded_of_parse {text : String} (h : parse text = .ok v) : v.Bounded := by
  rw [parse] at h
  cases hparse : parseChars text.toList with
  | error e =>
    rw [hparse] at h
    cases h
  | ok w =>
    rw [hparse] at h
    cases h
    exact bounded_of_parseChars hparse

end Reading

end KeyspaceLink.Json

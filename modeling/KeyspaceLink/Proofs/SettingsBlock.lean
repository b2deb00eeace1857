import KeyspaceLink.Bucket.Patch
import KeyspaceLink.Proofs.LinkSettings

/-! A block of settings, all or nothing. Every member that is not null must name a setting and say
a value of it; then each setting has what the last member that names it says, and otherwise the
whole block is refused. -/

namespace KeyspaceLink

/-- A truth value, or its word in any case. -/
inductive SaysFlag : Json → Bool → Prop
  | bool (b : Bool) : SaysFlag (.bool b) b
  | yes {s : String} (h : lower s = "true") : SaysFlag (.text s) true
  | no {s : String} (h : lower s = "false") : SaysFlag (.text s) false

/-- A number below a limit, or its text with blanks around. -/
inductive SaysNumber (bound : Nat) : Json → Nat → Prop
  | int {n : Nat} (hlt : n < bound) : SaysNumber bound (.int n) n
  | text {s : String} {n : Nat} (h : IsSize s n) (hlt : n < bound) : SaysNumber bound (.text s) n

/-- A word of a table, in any case. -/
inductive SaysWord {α : Type} (words : List (String × α)) : Json → α → Prop
  | text {s : String} {a : α} (h : (lower s, a) ∈ words) : SaysWord words (.text s) a

inductive Setting
  | flushEnabled
  | ramQuotaMB
  | replicaNumber
  | replicaIndexes
  | maxTTL
  | compressionMode
  | bucketType
  | conflictResolutionType
  | evictionPolicy
deriving DecidableEq

namespace Setting

def name : Setting → String
  | flushEnabled => "flushEnabled"
  | ramQuotaMB => "ramQuotaMB"
  | replicaNumber => "replicaNumber"
  | replicaIndexes => "replicaIndexes"
  | maxTTL => "maxTTL"
  | compressionMode => "compressionMode"
  | bucketType => "bucketType"
  | conflictResolutionType => "conflictResolutionType"
  | evictionPolicy => "evictionPolicy"

abbrev Value : Setting → Type
  | flushEnabled | replicaIndexes => Bool
  | ramQuotaMB | replicaNumber | maxTTL => Nat
  | compressionMode => Compression
  | bucketType => BucketKind
  | conflictResolutionType => ConflictResolution
  | evictionPolicy => Eviction

def Says : (s : Setting) → Json → s.Value → Prop
  | flushEnabled, v, b => SaysFlag v b
  | ramQuotaMB, v, n => SaysNumber word64 v n
  | replicaNumber, v, n => SaysNumber word32 v n
  | replicaIndexes, v, b => SaysFlag v b
  | maxTTL, v, n => SaysNumber word32 v n
  | compressionMode, v, c => SaysWord Compression.words v c
  | bucketType, v, k => SaysWord BucketKind.words v k
  | conflictResolutionType, v, c => SaysWord ConflictResolution.words v c
  | evictionPolicy, v, e => SaysWord Eviction.words v e

def inPatch : (s : Setting) → SettingsPatch → Option s.Value
  | flushEnabled, p => p.flushEnabled
  | ramQuotaMB, p => p.ramQuotaMB
  | replicaNumber, p => p.replicaNumber
  | replicaIndexes, p => p.replicaIndexes
  | maxTTL, p => p.maxTTL
  | compressionMode, p => p.compression
  | bucketType, p => p.kind
  | conflictResolutionType, p => p.conflictResolution
  | evictionPolicy, p => p.eviction

/-- The setting of a bucket; only the eviction policy may be without a value. -/
def ofBucket : (s : Setting) → BucketSettings → Option s.Value
  | flushEnabled, b => some b.flushEnabled
  | ramQuotaMB, b => some b.ramQuotaMB
  | replicaNumber, b => some b.replicaNumber
  | replicaIndexes, b => some b.replicaIndexes
  | maxTTL, b => some b.maxTTL
  | compressionMode, b => some b.compression
  | bucketType, b => some b.kind
  | conflictResolutionType, b => some b.conflictResolution
  | evictionPolicy, b => b.eviction

/-- A member that is not null and has the name of the setting in any case. -/
def givenBy (s : Setting) (m : String × Json) : Bool :=
  !m.2.isNull && sameIgnoringCase m.1 s.name

end Setting

namespace SettingsPatch

/-- The text of a block, once mended, is an object with these members. -/
def Decodes (block : String) (members : List (String × Json)) : Prop :=
  Json.parseChars (Json.relax block.toList) = .ok (.object members)

def Gives (m : String × Json) : Prop :=
  ∃ (s : Setting) (a : s.Value), s.givenBy m = true ∧ s.Says m.2 a

def Understood (members : List (String × Json)) : Prop :=
  ∀ m ∈ members, m.2.isNull = false → Gives m

/-- Each setting is what the last member that gives it says, and absent if none does. -/
structure Takes (members : List (String × Json)) (p : SettingsPatch) : Prop where
  last : ∀ (s : Setting) (a : s.Value), s.inPatch p = some a ↔
    ∃ m, (members.filter s.givenBy).getLast? = some m ∧ s.Says m.2 a
  absent : ∀ s : Setting, s.inPatch p = none ↔ ∀ m ∈ members, s.givenBy m = false

end SettingsPatch

section Values

open SettingsPatch

variable {v : Json}

theorem flag?_eq_some_iff {b : Bool} : flag? v = some b ↔ SaysFlag v b := by
  constructor
  · intro h
    rw [flag?.eq_def] at h
    split at h
    · next c =>
      obtain rfl : c = b := Option.some.inj h
      exact .bool c
    · next s =>
      by_cases hyes : lower s = "true"
      · rw [if_pos (beq_iff_eq.mpr hyes)] at h
        obtain rfl : true = b := Option.some.inj h
        exact .yes hyes
      · rw [if_neg (mt eq_of_beq hyes)] at h
        by_cases hno : lower s = "false"
        · rw [if_pos (beq_iff_eq.mpr hno)] at h
          obtain rfl : false = b := Option.some.inj h
          exact .no hno
        · rw [if_neg (mt eq_of_beq hno)] at h
          cases h
    · cases h
  · intro h
    cases h with
    | bool => rfl
    | yes h => simp [flag?, h]
    | no h => simp [flag?, h]

theorem number?_eq_some_iff {bound n : Nat} : number? bound v = some n ↔ SaysNumber bound v n := by
  constructor
  · intro h
    rw [number?.eq_def] at h
    split at h
    · next i =>
      by_cases hi : 0 ≤ i ∧ i < bound
      · rw [if_pos hi] at h
        have hn : i = n := by
          have heq : i.toNat = n := Option.some.inj h
          omega
        have hlt : n < bound := by omega
        rw [hn]
        exact .int hlt
      · rw [if_neg hi] at h
        cases h
    · next s =>
      obtain ⟨hread, hlt⟩ := Option.filter_eq_some_iff.mp h
      exact .text ((isSize_iff s n).mpr hread) (of_decide_eq_true hlt)
    · cases h
  · intro h
    cases h with
    | int hlt =>
      have hint : (n : Int) < bound := by omega
      simp [number?, hint]
    | @text s _ h hlt =>
      have hread : readUnsigned? word64 (trim s.toList) = some n := (isSize_iff s n).mp h
      simp [number?, hread, hlt]

theorem word?_eq_some_iff {α : Type} {words : List (String × α)}
    (hwords : words.Pairwise fun p q => p.1 ≠ q.1) {a : α} :
    word? words v = some a ↔ SaysWord words v a := by
  constructor
  · intro h
    obtain ⟨s, hs, h⟩ := Option.bind_eq_some_iff.mp h
    have hv : v = .text s := by
      cases v <;> cases hs
      rfl
    rw [hv]
    exact .text ((lookup_eq_some_iff_mem hwords).mp h)
  · intro h
    cases h with
    | text h => exact (lookup_eq_some_iff_mem hwords).mpr h

theorem words_distinct :
    (Compression.words.Pairwise fun p q => p.1 ≠ q.1) ∧
    (BucketKind.words.Pairwise fun p q => p.1 ≠ q.1) ∧
    (ConflictResolution.words.Pairwise fun p q => p.1 ≠ q.1) ∧
    (Eviction.words.Pairwise fun p q => p.1 ≠ q.1) := by
  decide +kernel

end Values

namespace Setting

def key : Setting → String
  | flushEnabled => "flushenabled"
  | ramQuotaMB => "ramquotamb"
  | replicaNumber => "replicanumber"
  | replicaIndexes => "replicaindexes"
  | maxTTL => "maxttl"
  | compressionMode => "compressionmode"
  | bucketType => "buckettype"
  | conflictResolutionType => "conflictresolutiontype"
  | evictionPolicy => "evictionpolicy"

def value? : (s : Setting) → Json → Option s.Value
  | flushEnabled, v => SettingsPatch.flag? v
  | ramQuotaMB, v => SettingsPatch.number? word64 v
  | replicaNumber, v => SettingsPatch.number? word32 v
  | replicaIndexes, v => SettingsPatch.flag? v
  | maxTTL, v => SettingsPatch.number? word32 v
  | compressionMode, v => SettingsPatch.word? Compression.words v
  | bucketType, v => SettingsPatch.word? BucketKind.words v
  | conflictResolutionType, v => SettingsPatch.word? ConflictResolution.words v
  | evictionPolicy, v => SettingsPatch.word? Eviction.words v

def put : (s : Setting) → s.Value → SettingsPatch → SettingsPatch
  | flushEnabled, b, p => { p with flushEnabled := some b }
  | ramQuotaMB, n, p => { p with ramQuotaMB := some n }
  | replicaNumber, n, p => { p with replicaNumber := some n }
  | replicaIndexes, b, p => { p with replicaIndexes := some b }
  | maxTTL, n, p => { p with maxTTL := some n }
  | compressionMode, c, p => { p with compression := some c }
  | bucketType, k, p => { p with kind := some k }
  | conflictResolutionType, c, p => { p with conflictResolution := some c }
  | evictionPolicy, e, p => { p with eviction := some e }

variable {s t : Setting} {v : Json} {m : String × Json} {p : SettingsPatch}

theorem value?_eq_some_iff {a : s.Value} : s.value? v = some a ↔ s.Says v a := by
  obtain ⟨hcompression, hkind, hconflict, heviction⟩ := words_distinct
  cases s with
  | flushEnabled | replicaIndexes => exact flag?_eq_some_iff
  | ramQuotaMB | replicaNumber | maxTTL => exact number?_eq_some_iff
  | compressionMode => exact word?_eq_some_iff hcompression
  | bucketType => exact word?_eq_some_iff hkind
  | conflictResolutionType => exact word?_eq_some_iff hconflict
  | evictionPolicy => exact word?_eq_some_iff heviction

theorem lower_name (s : Setting) : lower s.name = s.key := by
  cases s <;> decide +kernel

theorem key_inj (h : s.key = t.key) : s = t := by
  cases s <;> cases t <;> first | rfl | simp [key] at h

theorem givenBy_iff : s.givenBy m = true ↔ m.2.isNull = false ∧ lower m.1 = s.key := by
  rw [givenBy, Bool.and_eq_true, Bool.not_eq_true', sameIgnoringCase, beq_iff_eq, lower_name]

theorem not_givenBy_of_null (h : m.2.isNull = true) : s.givenBy m = false := by
  rw [givenBy, h]
  rfl

theorem givenBy_of_ne (h : s.givenBy m = true) (hne : s ≠ t) : t.givenBy m = false := by
  rw [Bool.eq_false_iff]
  intro ht
  have hkey : s.key = t.key := (givenBy_iff.mp h).2.symm.trans (givenBy_iff.mp ht).2
  exact hne (key_inj hkey)

theorem inPatch_put_self (a : s.Value) : s.inPatch (s.put a p) = some a := by
  cases s <;> rfl

theorem inPatch_put_of_ne (a : t.Value) (h : t ≠ s) : s.inPatch (t.put a p) = s.inPatch p := by
  cases s <;> cases t <;> first | rfl | exact absurd rfl h

theorem inPatch_empty (s : Setting) : s.inPatch {} = none := by
  cases s <;> rfl

theorem ofBucket_apply (s : Setting) (b : BucketSettings) (p : SettingsPatch) :
    s.ofBucket (b.apply p) = (s.inPatch p).or (s.ofBucket b) := by
  cases s with
  | evictionPolicy => rfl
  | _ => exact Option.or_some.symm

end Setting

namespace SettingsPatch

variable {s : Setting} {name : String} {v : Json} {m : String × Json} {p p' : SettingsPatch}

theorem set_of_null (hv : v.isNull = true) : p.set name v = some p := by
  rw [set, if_pos hv]

theorem set_of_key (hv : v.isNull = false) (h : lower name = s.key) :
    p.set name v = (s.value? v).map fun a => s.put a p := by
  cases s <;> simp [set, hv, h, Setting.key, Setting.value?, Setting.put]

theorem set_name {a : s.Value} (hv : v.isNull = false) (h : s.Says v a) :
    p.set s.name v = some (s.put a p) := by
  rw [set_of_key hv s.lower_name, Setting.value?_eq_some_iff.mpr h, Option.map_some]

theorem set_of_unknown (hv : v.isNull = false) (h : ∀ s : Setting, lower name ≠ s.key) :
    p.set name v = none := by
  have hflush : lower name ≠ "flushenabled" := h .flushEnabled
  have hquota : lower name ≠ "ramquotamb" := h .ramQuotaMB
  have hreplicas : lower name ≠ "replicanumber" := h .replicaNumber
  have hindexes : lower name ≠ "replicaindexes" := h .replicaIndexes
  have httl : lower name ≠ "maxttl" := h .maxTTL
  have hcompression : lower name ≠ "compressionmode" := h .compressionMode
  have hkind : lower name ≠ "buckettype" := h .bucketType
  have hconflict : lower name ≠ "conflictresolutiontype" := h .conflictResolutionType
  have heviction : lower name ≠ "evictionpolicy" := h .evictionPolicy
  simp [set, hv, hflush, hquota, hreplicas, hindexes, httl, hcompression, hkind, hconflict,
    heviction]

/-- One member: a null changes nothing, any other puts what it says of the setting it names. -/
theorem set_eq_some_iff : p.set m.1 m.2 = some p' ↔
    (m.2.isNull = true ∧ p' = p) ∨
      ∃ (s : Setting) (a : s.Value), s.givenBy m = true ∧ s.Says m.2 a ∧ p' = s.put a p := by
  cases hv : m.2.isNull with
  | true =>
    have hnot : ∀ s : Setting, s.givenBy m = false := fun s => Setting.not_givenBy_of_null hv
    rw [set_of_null hv]
    simp [hnot, eq_comm]
  | false =>
    by_cases hname : ∃ s : Setting, lower m.1 = s.key
    · obtain ⟨s, hs⟩ := hname
      rw [set_of_key hv hs]
      constructor
      · intro h
        obtain ⟨a, ha, hput⟩ := Option.map_eq_some_iff.mp h
        exact .inr ⟨s, a, Setting.givenBy_iff.mpr ⟨hv, hs⟩, Setting.value?_eq_some_iff.mp ha,
          hput.symm⟩
      · rintro (⟨hnull, -⟩ | ⟨t, a, hgiven, hsaid, rfl⟩)
        · cases hnull
        · have hkey : s.key = t.key := hs.symm.trans (Setting.givenBy_iff.mp hgiven).2
          obtain rfl : s = t := Setting.key_inj hkey
          rw [Setting.value?_eq_some_iff.mpr hsaid, Option.map_some]
    · have hunknown : ∀ s : Setting, lower m.1 ≠ s.key := fun s hs => hname ⟨s, hs⟩
      rw [set_of_unknown hv hunknown]
      constructor
      · intro h
        cases h
      · rintro (⟨hnull, -⟩ | ⟨s, -, hgiven, -⟩)
        · cases hnull
        · exact absurd (Setting.givenBy_iff.mp hgiven).2 (hunknown s)

variable {members : List (String × Json)} {block : String}

theorem Takes.nil : Takes [] {} where
  last s a := by simp [s.inPatch_empty]
  absent s := by simp [s.inPatch_empty]

theorem Takes.skip (h : Takes members p) (hm : ∀ s : Setting, s.givenBy m = false) :
    Takes (members ++ [m]) p where
  last s a := by
    rw [h.last, List.filter_append, List.filter_singleton, hm s]
    simp
  absent s := by
    rw [h.absent, List.forall_mem_append]
    simp [hm s]

theorem Takes.put {a : s.Value} (h : Takes members p) (hgiven : s.givenBy m = true)
    (hsaid : s.Says m.2 a) : Takes (members ++ [m]) (s.put a p) where
  last t b := by
    by_cases hst : s = t
    · subst hst
      have hb : a = b ↔ s.Says m.2 b := by
        rw [← Setting.value?_eq_some_iff, Setting.value?_eq_some_iff.mpr hsaid, Option.some.injEq]
      rw [Setting.inPatch_put_self, List.filter_append, List.filter_singleton, hgiven]
      simp [hb]
    · have hother : t.givenBy m = false := Setting.givenBy_of_ne hgiven hst
      rw [Setting.inPatch_put_of_ne a hst, h.last, List.filter_append, List.filter_singleton,
        hother]
      simp
  absent t := by
    by_cases hst : s = t
    · subst hst
      rw [Setting.inPatch_put_self, List.forall_mem_append]
      simp [hgiven]
    · have hother : t.givenBy m = false := Setting.givenBy_of_ne hgiven hst
      rw [Setting.inPatch_put_of_ne a hst, h.absent, List.forall_mem_append]
      simp [hother]

theorem Takes.set (h : Takes members p) (hset : p.set m.1 m.2 = some p') :
    Takes (members ++ [m]) p' := by
  rcases set_eq_some_iff.mp hset with ⟨hnull, rfl⟩ | ⟨s, a, hgiven, hsaid, rfl⟩
  · exact h.skip fun s => Setting.not_givenBy_of_null hnull
  · exact h.put hgiven hsaid

theorem ofMembers_concat (members : List (String × Json)) (m : String × Json) :
    ofMembers (members ++ [m]) = (ofMembers members).bind fun p => p.set m.1 m.2 := by
  rw [ofMembers, List.foldlM_append]
  simp [ofMembers]

theorem takes_of_ofMembers (h : ofMembers members = some p) : Takes members p := by
  -- from the end, where the member stands that overrides the others
  induction members using List.reverseRecOn generalizing p with
  | nil =>
    obtain rfl : {} = p := Option.some.inj h
    exact .nil
  | append_singleton members m ih =>
    rw [ofMembers_concat] at h
    obtain ⟨q, hq, hset⟩ := Option.bind_eq_some_iff.mp h
    exact (ih hq).set hset

theorem exists_set_iff :
    (∃ p', p.set m.1 m.2 = some p') ↔ (m.2.isNull = false → Gives m) := by
  simp only [set_eq_some_iff]
  constructor
  · rintro ⟨p', ⟨hnull, -⟩ | ⟨s, a, hgiven, hsaid, -⟩⟩ hv
    · rw [hv] at hnull
      cases hnull
    · exact ⟨s, a, hgiven, hsaid⟩
  · intro h
    cases hv : m.2.isNull with
    | true => exact ⟨p, .inl ⟨rfl, rfl⟩⟩
    | false =>
      obtain ⟨s, a, hgiven, hsaid⟩ := h hv
      exact ⟨s.put a p, .inr ⟨s, a, hgiven, hsaid, rfl⟩⟩

theorem exists_ofMembers_iff : (∃ p, ofMembers members = some p) ↔ Understood members := by
  induction members using List.reverseRecOn with
  | nil => simp [ofMembers, Understood]
  | append_singleton members m ih =>
    have hconcat : Understood (members ++ [m]) ↔
        Understood members ∧ (m.2.isNull = false → Gives m) := by
      rw [Understood, List.forall_mem_append, List.forall_mem_singleton]
      rfl
    rw [hconcat, ← ih, ofMembers_concat]
    constructor
    · rintro ⟨p', h⟩
      obtain ⟨p, hp, hset⟩ := Option.bind_eq_some_iff.mp h
      exact ⟨⟨p, hp⟩, exists_set_iff.mp ⟨p', hset⟩⟩
    · rintro ⟨⟨p, hp⟩, hm⟩
      obtain ⟨p', hset⟩ := exists_set_iff (p := p).mpr hm
      exact ⟨p', Option.bind_eq_some_iff.mpr ⟨p, hp, hset⟩⟩

theorem decodes_iff : Decodes block members ↔
    (Json.parseChars (Json.relax block.toList)).toOption.bind Json.members? = some members := by
  rw [Decodes]
  cases Json.parseChars (Json.relax block.toList) with
  | error e => simp [Except.toOption]
  | ok v => cases v <;> simp [Except.toOption, Json.members?]

theorem read_eq_ok_iff :
    read block = .ok p ↔ ∃ members, Decodes block members ∧ ofMembers members = some p := by
  simp only [decodes_iff]
  rw [read]
  cases (Json.parseChars (Json.relax block.toList)).toOption.bind Json.members? with
  | none => simp
  | some members => cases h : ofMembers members <;> simp [h]

theorem read_eq_error_iff {e : Failure} : read block = .error e ↔
    e = .malformed ("Could not decode from JSON: " ++ block) ∧ ¬ ∃ p, read block = .ok p := by
  rw [read]
  cases (Json.parseChars (Json.relax block.toList)).toOption.bind Json.members? with
  | none => simp [eq_comm]
  | some members => cases h : ofMembers members <;> simp [h, eq_comm]

theorem Decodes.unique {others : List (String × Json)} (h : Decodes block members)
    (ho : Decodes block others) : members = others :=
  Json.object.inj (Except.ok.inj (h.symm.trans ho))

theorem exists_read_iff (h : Decodes block members) :
    (∃ p, read block = .ok p) ↔ Understood members := by
  rw [← exists_ofMembers_iff]
  constructor
  · rintro ⟨p, hread⟩
    obtain ⟨others, hothers, hp⟩ := read_eq_ok_iff.mp hread
    exact ⟨p, h.unique hothers ▸ hp⟩
  · rintro ⟨p, hp⟩
    exact ⟨p, read_eq_ok_iff.mpr ⟨members, h, hp⟩⟩

theorem takes_of_read (h : Decodes block members) (hread : read block = .ok p) :
    Takes members p := by
  obtain ⟨others, hothers, hp⟩ := read_eq_ok_iff.mp hread
  rw [h.unique hothers]
  exact takes_of_ofMembers hp

/-- A block sets what its last members say if all are understood, and is refused with its whole
text otherwise. A patch changes in a bucket the settings it has and no others. -/
theorem patch_of_block (block : String) :
    (∀ members, Decodes block members →
      ((∃ p, read block = .ok p) ↔ Understood members) ∧
        ∀ p, read block = .ok p → Takes members p) ∧
    (∀ e, read block = .error e ↔ e = .malformed ("Could not decode from JSON: " ++ block) ∧
      ∀ members, Decodes block members → ¬ Understood members) ∧
    ∀ (p : SettingsPatch) (b : BucketSettings), (b.apply p).name = b.name ∧
      ∀ s : Setting, s.ofBucket (b.apply p) = (s.inPatch p).or (s.ofBucket b) := by
  refine ⟨fun members h => ⟨exists_read_iff h, fun p => takes_of_read h⟩, fun e => ?_,
    fun p b => ⟨rfl, fun s => s.ofBucket_apply b p⟩⟩
  have hrefused : (¬ ∃ p, read block = .ok p) ↔
      ∀ members, Decodes block members → ¬ Understood members := by
    constructor
    · intro h members hmembers hunderstood
      exact h ((exists_read_iff hmembers).mpr hunderstood)
    · rintro h ⟨p, hread⟩
      obtain ⟨members, hmembers, hp⟩ := read_eq_ok_iff.mp hread
      exact h members hmembers (exists_ofMembers_iff.mp ⟨p, hp⟩)
  rw [read_eq_error_iff, hrefused]

/-- A name written twice in different case, a null, a word for a number, an alias; and a number
one too large. -/
theorem patch_of_two_blocks :
    let block := "\x7bRAMQUOTAMB: 100, maxTTL: 4294967295, 'ramQuotaMB': ' +0512 ', " ++
      "Evictionpolicy: null, bucketType: 'MemBase', flushEnabled: 'TRUE'\x7d"
    let refused := "\x7bflushEnabled: true, maxTTL: 4294967296\x7d"
    (∃ members, Decodes block members ∧ Understood members ∧ Takes members
      { flushEnabled := some true, ramQuotaMB := some 512, maxTTL := some 4294967295,
        kind := some .couchbase }) ∧
    ∀ members, Decodes refused members → ¬ Understood members := by
  intro block refused
  have hread : (read block).toOption = some
      { flushEnabled := some true, ramQuotaMB := some 512, maxTTL := some 4294967295,
        kind := some .couchbase } := by
    decide +kernel
  have hrefused : (read refused).toOption = none := by
    decide +kernel
  constructor
  · obtain ⟨hblock, -⟩ := patch_of_block block
    cases h : read block with
    | error e =>
      rw [h] at hread
      cases hread
    | ok p =>
      obtain ⟨members, hmembers, -⟩ := read_eq_ok_iff.mp h
      obtain ⟨hunderstood, htakes⟩ := hblock members hmembers
      have hp : Takes members p := htakes p h
      rw [h] at hread
      obtain rfl := Option.some.inj hread
      exact ⟨members, hmembers, hunderstood.mp ⟨_, h⟩, hp⟩
  · obtain ⟨-, herror, -⟩ := patch_of_block refused
    cases h : read refused with
    | ok p =>
      rw [h] at hrefused
      cases hrefused
    | error e => exact ((herror e).mp h).2

end SettingsPatch

end KeyspaceLink

import KeyspaceLink.Json.Refusal
import KeyspaceLink.Proofs.CreateBucketGrammar

/-! The grammars of the commands that drop a bucket, describe one, list the indexes or ask for
keys. Words that may be left out are names too, and numbers may be too large, so a text is said
to fit a grammar before it is said what is read of it. -/

namespace KeyspaceLink

/-- What is told of a bucket when the target is written so: the word for columns does not count
with a long s in it. -/
def DescribeBucket.told (c : DescribeBucket) (written : List Char) : DescribeBucket :=
  if '\u017f' ∈ written then { c with target := .settings } else c

@[simp]
theorem DescribeBucket.told_table (c : DescribeBucket) (written : List Char) :
    (c.told written).table = c.table := by
  unfold told
  split <;> rfl

namespace Grammar

def dropVerb : List Char := ['d', 'r', 'o', 'p']
def getVerb : List Char := ['g', 'e', 't']
def indexesWord : List Char := ['i', 'n', 'd', 'e', 'x', 'e', 's']
def sourceWords : List (List Char) := [['k', 'e', 'y', 's'], ['f', 'r', 'o', 'm']]

/-- A keyspace at the end of a command. -/
inductive TableText : Keyspace → List Char → Prop
  | mk {table : Keyspace} {b name ending : List Char} (hb : Blanks b)
      (hname : KeyspaceText table name) (hend : EndText ending) :
      TableText table (b ++ (name ++ ending))

/-- The texts that say to drop a bucket. -/
inductive DropRendering : DropBucket → List Char → Prop
  | mk {table : Keyspace} {drop b bucket t : List Char} (hdrop : Spells dropVerb drop)
      (hb : Blanks b) (hbucket : Spells bucketWord bucket ∨ Spells tableWord bucket)
      (ht : TableText table t) : DropRendering ⟨table⟩ (drop ++ (b ++ (bucket ++ t)))

/-- The word for what to describe, if there is one. -/
inductive TargetText : DescribeTarget → List Char → Prop
  | unsaid : TargetText .settings []
  | columns {b written : List Char} (hb : Blanks b) (hword : Spells columnsWord written) :
      TargetText .columns (b ++ written)
  | settings {b written : List Char} (hb : Blanks b) (hword : Spells settingsWord written) :
      TargetText .settings (b ++ written)

/-- The texts that say to describe a bucket, with the part of each that says the target. -/
inductive DescribeRendering : DescribeBucket → List Char → List Char → Prop
  | mk {target : DescribeTarget} {table : Keyspace} {describe b bucket written t : List Char}
      (hdescribe : Spells describeWord describe) (hb : Blanks b)
      (hbucket : Spells bucketWord bucket) (htarget : TargetText target written)
      (ht : TableText table t) :
      DescribeRendering ⟨target, table⟩ written
        (describe ++ (b ++ (bucket ++ (written ++ t))))

/-- The texts that say to list the indexes. -/
inductive IndexesRendering : List Char → Prop
  | mk {describe b indexes ending : List Char} (hdescribe : Spells describeWord describe)
      (hb : Blanks b) (hindexes : Spells indexesWord indexes) (hend : EndText ending) :
      IndexesRendering (describe ++ (b ++ (indexes ++ ending)))

/-- A number after a word, in the digits of any script, if it is not left out. -/
inductive NumberText (word : List Char) : Option (List Char) → List Char → Prop
  | absent : NumberText word none []
  | present {b written b' digits : List Char} (hb : Blanks b) (hword : Spells word written)
      (hb' : Blanks b') (hne : digits ≠ []) (hdigits : ∀ c ∈ digits, isDecimalDigit c = true) :
      NumberText word (some digits) (b ++ (written ++ (b' ++ digits)))

/-- The shape of a request for keys, with its numbers as written. -/
inductive KeysShape : Keyspace → Option (List Char) → Option (List Char) → List Char → Prop
  | mk {table : Keyspace} {limit offset : Option (List Char)}
      {get source b name l o ending : List Char} (hget : Spells getVerb get)
      (hsource : Clause sourceWords source) (hb : Blanks b) (hname : KeyspaceText table name)
      (hlimit : NumberText limitWord limit l) (hoffset : NumberText offsetWord offset o)
      (hend : EndText ending) :
      KeysShape table limit offset (get ++ (source ++ (b ++ (name ++ (l ++ (o ++ ending))))))

/-- A number of sixty-four bits in ASCII digits. -/
def WordText (digits : List Char) (n : Nat) : Prop :=
  digits ≠ [] ∧ (∀ c ∈ digits, c.isDigit = true) ∧ digitsValue 0 digits = n ∧ n < word64

/-- The texts that ask for keys. -/
inductive KeysRendering : GetKeys → List Char → Prop
  | mk {table : Keyspace} {limit offset : Option (List Char)} {l o : Option Nat} {s : List Char}
      (hshape : KeysShape table limit offset s) (hlimit : Option.Rel WordText limit l)
      (hoffset : Option.Rel WordText offset o) : KeysRendering ⟨table, l, o⟩ s

theorem keyword_drop : Keyword dropVerb := by simp [Keyword, dropVerb]

theorem keyword_get : Keyword getVerb := by simp [Keyword, getVerb]

theorem keyword_describe : Keyword describeWord := by simp [Keyword, describeWord]

theorem keyword_columns : Keyword columnsWord := by simp [Keyword, columnsWord]

theorem keyword_settings : Keyword settingsWord := by simp [Keyword, settingsWord]

theorem keyword_indexes : Keyword indexesWord := by simp [Keyword, indexesWord]

theorem keyword_limit : Keyword limitWord := by simp [Keyword, limitWord]

theorem keyword_offset : Keyword offsetWord := by simp [Keyword, offsetWord]

theorem keywords_source : ∀ w ∈ sourceWords, Keyword w := by simp [Keyword, sourceWords]

section Tables

variable {table : Keyspace} {s t r word written b : List Char}

theorem lastKeyspace_iff : lastKeyspace s = some table ↔ TableText table s := by
  simp only [lastKeyspace, Option.bind_eq_bind, Option.bind_eq_some_iff]
  constructor
  · rintro ⟨⟨table', r⟩, hnext, _, hend, h⟩
    cases h
    obtain ⟨b, name, hb, hname, rfl⟩ := nextKeyspace_eq_some hnext
    exact .mk hb hname (isEnd_iff.mp (by simpa using hend))
  · rintro ⟨hb, hname, hend⟩
    exact ⟨_, nextKeyspace_append hb hname hend.separated, (), by simp [isEnd_iff.mpr hend], rfl⟩

theorem TableText.not_endText (ht : TableText table t) : ¬ EndText t := by
  obtain @⟨b, name, ending, hb, hname, -⟩ := ht
  intro h
  obtain ⟨c, hc⟩ := List.exists_mem_of_ne_nil name hname.ne_nil
  rcases h.blank_or_semicolon c (by simp [hc]) with hblank | rfl
  · rw [hname.not_isBlank c hc] at hblank
    cases hblank
  · exact hname.semicolon_not_mem hc

/-- The keyspace at the end of a text, after a word. -/
def keyspaceAfter (word s : List Char) : Option Keyspace := (nextWord word s).bind lastKeyspace

theorem keyspaceAfter_append (hword : Keyword word) (hb : Blanks b) (h : Spells word written)
    (ht : TableText table t) : keyspaceAfter word (b ++ written ++ t) = some table := by
  rw [keyspaceAfter, List.append_assoc, nextWord_append hword hb h, Option.bind_some]
  exact lastKeyspace_iff.mpr ht

/-- A name at the end is not a word with a name after it, even if it is spelled so. -/
theorem keyspaceAfter_table (hword : Keyword word) (ht : TableText table t) :
    keyspaceAfter word t = none := by
  obtain @⟨b, name, ending, hb, hname, hend⟩ := ht
  rw [keyspaceAfter, nextWord, gap_append hb hname.head?_append, Option.bind_some]
  cases hdrop : dropWord word (name ++ ending) with
  | none => rfl
  | some r =>
    rw [Option.bind_some]
    rcases gap_of_name hword hname hend.separated hdrop with hgap | rfl
    · rw [lastKeyspace, nextKeyspace, hgap]
      rfl
    · by_contra hne
      obtain ⟨table', htable'⟩ := Option.ne_none_iff_exists'.mp hne
      exact (lastKeyspace_iff.mp htable').not_endText hend

end Tables

section Dropping

variable {c : DropBucket} {s : List Char}

theorem dropBucket?_iff_rendering : dropBucket? s = some c ↔ DropRendering c s := by
  have heq : dropBucket? s =
      ((dropWord dropVerb s).bind bucketOrTable).bind fun r => (lastKeyspace r).map .mk := by
    simp only [dropBucket?, lastKeyspace, dropVerb, Option.bind_eq_bind, Option.bind_assoc,
      Option.map_bind, Function.comp_def, Option.map_some]
  rw [heq]
  constructor
  · intro h
    obtain ⟨s₂, hs₂, h⟩ := Option.bind_eq_some_iff.mp h
    obtain ⟨s₁, hdrop, hword⟩ := Option.bind_eq_some_iff.mp hs₂
    obtain ⟨table, htable, rfl⟩ := Option.map_eq_some_iff.mp h
    obtain ⟨drop, hspelled, rfl⟩ := dropWord_eq_some hdrop keyword_drop.2
    obtain ⟨b, bucket, hb, hbucket, rfl⟩ := bucketOrTable_eq_some hword
    exact .mk hspelled hb hbucket (lastKeyspace_iff.mp htable)
  · rintro ⟨hdrop, hb, hbucket, ht⟩
    rw [dropWord_append hdrop keyword_drop.2, Option.bind_some, bucketOrTable_append hb hbucket,
      Option.bind_some, lastKeyspace_iff.mpr ht, Option.map_some]

end Dropping

section Describing

variable {target : DescribeTarget} {table : Keyspace} {c : DescribeBucket}
  {word written b s t : List Char}

theorem Spells.map_toLower_iff (h : Spells word written)
    (hword : ∀ l ∈ word, l.isLower = true) (hk : 'k' ∉ word) :
    written.map Char.toLower = word ↔ '\u017f' ∉ written := by
  induction h with
  | nil => simp
  | @cons l c word written hc _ ih =>
    obtain ⟨hl, hword⟩ := List.forall_mem_cons.mp hword
    obtain ⟨hne, hk⟩ := List.ne_and_not_mem_of_not_mem_cons hk
    rw [List.map_cons, List.cons.injEq, ih hword hk, toLower_eq_iff hl, List.mem_cons, not_or]
    refine and_congr_left fun _ => ?_
    constructor
    · rintro h rfl
      have hlower : '\u017f'.toLower ≠ l := (ne_of_class hl (by decide)).symm
      exact hlower ((toLower_eq_iff hl).mpr h)
    · intro hs
      rcases hc with rfl | rfl | ⟨-, rfl⟩ | ⟨rfl, -⟩
      · exact .inl rfl
      · exact .inr rfl
      · exact absurd rfl hs
      · exact absurd rfl hne

theorem describeTarget_columns (hb : Blanks b) (hword : Spells columnsWord written) :
    describeTarget (b ++ written ++ t) =
      some (if '\u017f' ∈ written then .settings else .columns, t) := by
  obtain ⟨-, hdrop⟩ := takeWhile_run hb.2 (head?_written keyword_columns hword (r := t))
  have htake : (written ++ t).take columnsWord.length = written := by
    rw [hword.length_eq, List.take_left]
  have hlower := hword.map_toLower_iff keyword_columns.2 (by decide)
  rw [describeTarget, List.append_assoc, nextWord_append keyword_columns hb hword]
  simp only [hdrop, htake, beq_iff_eq, hlower, ite_not]

/-- What the text after the first words says to describe. -/
def described (s : List Char) : Option DescribeBucket :=
  ((describeTarget s).bind fun p => (lastKeyspace p.2).map (.mk p.1)).or
    ((lastKeyspace s).map (.mk .settings))

theorem describeBucket?_eq :
    describeBucket? s = ((dropWord describeWord s).bind (nextWord bucketWord)).bind described := by
  unfold described
  simp only [describeBucket?, Option.bind_eq_bind, Option.bind_assoc, Option.map_eq_bind,
    Function.comp_def]

theorem described_of_target (h : TargetText target written) (ht : TableText table t) :
    described (written ++ t) = some ((DescribeBucket.mk target table).told written) := by
  have htable := lastKeyspace_iff.mpr ht
  cases h with
  | columns hb hword =>
    have hmem : '\u017f' ∉ _ := fun h => absurd (hb.2 _ h) (by decide)
    rw [described, describeTarget_columns hb hword, Option.bind_some, htable, DescribeBucket.told]
    simp only [List.mem_append, hmem, false_or]
    split <;> rfl
  | settings hb hword =>
    have hother := nextWord_eq_none_of_other keyword_columns keyword_settings (by decide)
      (by decide) hb hword (r := t)
    rw [described, describeTarget, List.append_assoc, hother,
      nextWord_append keyword_settings hb hword, Option.map_some, Option.bind_some, htable,
      DescribeBucket.told, ite_self]
    rfl
  | unsaid =>
    -- a name that is spelled like a word has no name after it
    have htargeted : ((describeTarget t).bind fun p => (lastKeyspace p.2).map (.mk p.1)) =
        (none : Option DescribeBucket) := by
      have hafter : ∀ {word r : List Char}, Keyword word → nextWord word t = some r →
          lastKeyspace r = none := by
        intro word r hword hr
        have hnone := keyspaceAfter_table hword ht
        rwa [keyspaceAfter, hr] at hnone
      unfold describeTarget
      split
      · next r hr =>
        rw [Option.bind_some, hafter keyword_columns hr]
        rfl
      · cases hr : nextWord settingsWord t with
        | none => rfl
        | some r =>
          rw [Option.map_some, Option.bind_some, hafter keyword_settings hr]
          rfl
    rw [List.nil_append, described, htargeted, htable]
    rfl

theorem target_of_described (h : described s = some c) :
    ∃ target written table t, TargetText target written ∧ TableText table t ∧
      s = written ++ t ∧ c = (DescribeBucket.mk target table).told written := by
  have hread : ∀ {target written table t}, TargetText target written → lastKeyspace t = some table →
      s = written ++ t → ∃ target written table t, TargetText target written ∧ TableText table t ∧
        s = written ++ t ∧ c = (DescribeBucket.mk target table).told written := by
    rintro target written table t htarget htable rfl
    have ht := lastKeyspace_iff.mp htable
    rw [described_of_target htarget ht] at h
    exact ⟨target, written, table, t, htarget, ht, rfl, (Option.some.inj h).symm⟩
  rcases Option.or_eq_some_iff.mp h with h | ⟨-, h⟩
  · obtain ⟨⟨target, r⟩, htarget, h⟩ := Option.bind_eq_some_iff.mp h
    obtain ⟨table, htable, -⟩ := Option.map_eq_some_iff.mp h
    unfold describeTarget at htarget
    split at htarget
    · next r' hr =>
      cases htarget
      obtain ⟨b, written, hb, hword, rfl⟩ := nextWord_eq_some keyword_columns hr
      exact hread (.columns hb hword) htable (List.append_assoc ..).symm
    · obtain ⟨r', hr, htarget⟩ := Option.map_eq_some_iff.mp htarget
      cases htarget
      obtain ⟨b, written, hb, hword, rfl⟩ := nextWord_eq_some keyword_settings hr
      exact hread (.settings hb hword) htable (List.append_assoc ..).symm
  · obtain ⟨table, htable, -⟩ := Option.map_eq_some_iff.mp h
    exact hread .unsaid htable rfl

theorem describeBucket?_iff_rendering : describeBucket? s = some c ↔
    ∃ c' written, DescribeRendering c' written s ∧ c = c'.told written := by
  rw [describeBucket?_eq]
  constructor
  · intro h
    obtain ⟨s₂, hs₂, htail⟩ := Option.bind_eq_some_iff.mp h
    obtain ⟨s₁, hdrop, hword⟩ := Option.bind_eq_some_iff.mp hs₂
    obtain ⟨describe, hdescribe, rfl⟩ := dropWord_eq_some hdrop keyword_describe.2
    obtain ⟨b, bucket, hb, hbucket, rfl⟩ := nextWord_eq_some keyword_bucket hword
    obtain ⟨target, written, table, t, htarget, ht, rfl, hc⟩ := target_of_described htail
    exact ⟨_, written, .mk hdescribe hb hbucket htarget ht, hc⟩
  · rintro ⟨c', written, ⟨hdescribe, hb, hbucket, htarget, ht⟩, rfl⟩
    rw [dropWord_append hdescribe keyword_describe.2, Option.bind_some,
      nextWord_append keyword_bucket hb hbucket, Option.bind_some]
    exact described_of_target htarget ht

example : describeBucket? "DESCRIBE BUCKET columns;".toList =
    some ⟨.settings, ⟨none, "columns"⟩⟩ := by
  decide +kernel

/-- Columns are asked for exactly if a keyspace stands after their word. -/
theorem TargetText.eq_columns_iff (h : TargetText target written) (ht : TableText table t) :
    target = .columns ↔ keyspaceAfter columnsWord (written ++ t) = some table := by
  cases h with
  | unsaid => simp [keyspaceAfter_table keyword_columns ht]
  | columns hb hword => exact iff_of_true rfl (keyspaceAfter_append keyword_columns hb hword ht)
  | settings hb hword =>
    have hother := nextWord_eq_none_of_other keyword_columns keyword_settings (by decide)
      (by decide) hb hword (r := t)
    rw [keyspaceAfter, List.append_assoc, hother]
    simp

theorem DescribeRendering.unique {c' : DescribeBucket} {written' : List Char}
    (h : DescribeRendering c written s) (h' : DescribeRendering c' written' s) : c = c' := by
  have htold : c.told written = c'.told written' :=
    Option.some.inj ((describeBucket?_iff_rendering.mpr ⟨c, written, h, rfl⟩).symm.trans
      (describeBucket?_iff_rendering.mpr ⟨c', written', h', rfl⟩))
  have htable : c.table = c'.table := by
    rw [← c.told_table written, htold, c'.told_table]
  -- the text alone tells whether columns are asked for
  have hcolumns : ∀ {c written}, DescribeRendering c written s →
      (c.target = .columns ↔ ((dropWord describeWord s).bind (nextWord bucketWord)).bind
        (keyspaceAfter columnsWord) = some c.table) := by
    rintro c written ⟨hdescribe, hb, hbucket, htarget, ht⟩
    rw [dropWord_append hdescribe keyword_describe.2, Option.bind_some,
      nextWord_append keyword_bucket hb hbucket, Option.bind_some]
    exact htarget.eq_columns_iff ht
  have htarget : c.target = .columns ↔ c'.target = .columns := by
    rw [hcolumns h, hcolumns h', htable]
  obtain ⟨target, table⟩ := c
  obtain ⟨target', table'⟩ := c'
  cases target <;> cases target' <;> simp_all

theorem describesIndexes_iff_rendering : describesIndexes s = true ↔ IndexesRendering s := by
  simp only [describesIndexes, Option.any_eq_true, Option.bind_eq_some_iff]
  constructor
  · rintro ⟨ending, ⟨s₁, hdrop, hword⟩, hend⟩
    obtain ⟨describe, hdescribe, rfl⟩ := dropWord_eq_some hdrop keyword_describe.2
    obtain ⟨b, indexes, hb, hindexes, rfl⟩ := nextWord_eq_some keyword_indexes hword
    exact .mk hdescribe hb hindexes (isEnd_iff.mp hend)
  · rintro ⟨hdescribe, hb, hindexes, hend⟩
    exact ⟨_, ⟨_, dropWord_append hdescribe keyword_describe.2,
      nextWord_append keyword_indexes hb hindexes⟩, isEnd_iff.mpr hend⟩

end Describing

section Numbers

variable {word s t r : List Char} {number : Option (List Char)}

theorem isBlank_of_isDecimalDigit {c : Char} (h : isDecimalDigit c = true) : isBlank c = false := by
  have hruns : ∀ z ∈ digitRuns, 13 < z ∧ (z + 9 < 0x20 ∨ 0x20 < z) ∧ (z + 9 < 0x85 ∨ 0x85 < z) ∧
      (z + 9 < 0xA0 ∨ 0xA0 < z) ∧ (z + 9 < 0x1680 ∨ 0x1680 < z) ∧
      (z + 9 < 0x2000 ∨ 0x205F < z) ∧ (z + 9 < 0x3000 ∨ 0x3000 < z) := by
    decide +kernel
  simp only [isDecimalDigit, List.any_eq_true, Bool.and_eq_true, decide_eq_true_eq] at h
  obtain ⟨z, hz, hlow, hhigh⟩ := h
  have hz := hruns z hz
  by_contra hblank
  simp only [Bool.not_eq_false, isBlank, Bool.or_eq_true, Bool.and_eq_true, decide_eq_true_eq,
    beq_iff_eq] at hblank
  omega

theorem isDecimalDigit_of_separated (h : Separated r) :
    ∀ c ∈ r.head?, isDecimalDigit c = false := by
  intro c hc
  by_contra hdigit
  rcases h c hc with hblank | rfl
  · rw [isBlank_of_isDecimalDigit (Bool.not_eq_false _ ▸ hdigit)] at hblank
    cases hblank
  · exact hdigit (by decide +kernel)

theorem NumberText.separated (h : NumberText word number t) (hr : Separated r) :
    Separated (t ++ r) := by
  cases h with
  | absent => exact hr
  | present hb =>
    rw [List.append_assoc]
    exact hb.separated

theorem NumberText.nextWord_eq_none {other : List Char} (h : NumberText other number t)
    (hword : Keyword word) (hother : Keyword other) (hne : ¬ word <+: other)
    (hne' : ¬ other <+: word) (hend : EndText r) : nextWord word (t ++ r) = none := by
  cases h with
  | absent => exact nextWord_eq_none_of_end hword hend
  | present hb hspelled =>
    rw [List.append_assoc, List.append_assoc]
    exact nextWord_eq_none_of_other hword hother hne hne' hb hspelled

theorem optionalNumber_append (hword : Keyword word) (h : NumberText word number t)
    (hr : Separated r) (hnone : number = none → nextWord word r = none) :
    optionalNumber word (t ++ r) = (number, r) := by
  cases h with
  | absent =>
    rw [List.nil_append, optionalNumber, numberClause, hnone rfl]
    rfl
  | @present b written b' digits hb hspelled hb' hne hdigits =>
    have hhead : ∀ c ∈ (digits ++ r).head?, isBlank c = false := by
      rw [List.head?_append_of_ne_nil _ hne]
      exact fun c hc => isBlank_of_isDecimalDigit (hdigits c (List.mem_of_mem_head? hc))
    obtain ⟨htake, hdrop⟩ := takeWhile_run hdigits (isDecimalDigit_of_separated hr)
    have hclause : numberClause word (b ++ (written ++ (b' ++ (digits ++ r)))) =
        some (digits, r) := by
      simp only [numberClause, nextWord_append hword hb hspelled, gap_append hb' hhead, htake,
        hdrop, Option.bind_eq_bind, Option.bind_some, List.isEmpty_eq_false_iff.mpr hne,
        Bool.not_false, guard_true]
      rfl
    simp only [List.append_assoc, optionalNumber, hclause]

theorem optionalNumber_eq (hword : Keyword word) (h : optionalNumber word s = (number, r)) :
    ∃ t, NumberText word number t ∧ s = t ++ r := by
  unfold optionalNumber at h
  split at h
  · next digits rest hclause =>
    cases h
    simp only [numberClause, Option.bind_eq_bind, Option.bind_eq_some_iff] at hclause
    obtain ⟨s₁, hnext, s₂, hgap, _, hguard, hsome⟩ := hclause
    cases hsome
    obtain ⟨b, written, hb, hspelled, rfl⟩ := nextWord_eq_some hword hnext
    obtain ⟨b', hb', rfl⟩ := gap_eq_some hgap
    have hne : s₂.takeWhile isDecimalDigit ≠ [] := by simpa using hguard
    refine ⟨_, .present hb hspelled hb' hne fun c => List.mem_takeWhile_imp, ?_⟩
    simp only [List.append_assoc, List.takeWhile_append_dropWhile]
  · cases h
    exact ⟨[], .absent, rfl⟩

end Numbers

section Keys

open Json

variable {table : Keyspace} {limit offset : Option (List Char)} {c : GetKeys} {f : Failure}
  {s : List Char}

theorem getKeysShape?_iff : getKeysShape? s = some (table, limit, offset) ↔
    KeysShape table limit offset s := by
  constructor
  · intro h
    simp only [getKeysShape?, Option.bind_eq_bind, Option.bind_eq_some_iff] at h
    obtain ⟨s₁, hdrop, s₂, hsource, ⟨table', s₃⟩, htable, h⟩ := h
    obtain ⟨get, hget, rfl⟩ := dropWord_eq_some hdrop keyword_get.2
    obtain ⟨source, hclause, rfl⟩ := nextWords_eq_some keywords_source hsource
    obtain ⟨b, name, hb, hname, rfl⟩ := nextKeyspace_eq_some htable
    rcases hlimit : optionalNumber limitWord s₃ with ⟨limit', s₄⟩
    obtain ⟨l, hl, rfl⟩ := optionalNumber_eq keyword_limit hlimit
    rw [hlimit] at h
    rcases hoffset : optionalNumber offsetWord s₄ with ⟨offset', s₅⟩
    obtain ⟨o, ho, rfl⟩ := optionalNumber_eq keyword_offset hoffset
    rw [hoffset] at h
    obtain ⟨_, hend, h⟩ := h
    cases h
    exact .mk hget hclause hb hname hl ho (isEnd_iff.mp (by simpa using hend))
  · rintro @⟨get, source, b, name, l, o, ending, hget, hsource, hb, hname, hl, ho, hend⟩
    have hlater : Separated (o ++ ending) := ho.separated hend.separated
    have hnoLimit : nextWord limitWord (o ++ ending) = none :=
      ho.nextWord_eq_none keyword_limit keyword_offset (by decide) (by decide) hend
    have hnoOffset : nextWord offsetWord ending = none :=
      nextWord_eq_none_of_end keyword_offset hend
    have hget : ∀ r, dropWord ['g', 'e', 't'] (get ++ r) = some r :=
      fun _ => dropWord_append hget keyword_get.2
    have hsource : ∀ r, nextWords [['k', 'e', 'y', 's'], ['f', 'r', 'o', 'm']] (source ++ r) =
        some r := fun _ => nextWords_append keywords_source hsource
    simp only [getKeysShape?, hget, hsource, nextKeyspace_append hb hname (hl.separated hlater),
      optionalNumber_append keyword_limit hl hlater fun _ => hnoLimit,
      optionalNumber_append keyword_offset ho hend.separated fun _ => hnoOffset,
      isEnd_iff.mpr hend, Option.bind_eq_bind, Option.bind_some, guard_true]
    rfl

theorem readNumber_eq_ok_iff {what : String} {n : Option Nat} :
    readNumber what limit = .ok n ↔ Option.Rel WordText limit n := by
  cases limit with
  | none =>
    constructor
    · rintro ⟨⟩
      exact .none
    · rintro ⟨⟩
      rfl
  | some digits =>
    cases hread : readDigits? word64 digits with
    | none =>
      simp only [readNumber, hread]
      constructor
      · rintro ⟨⟩
      · rintro (h | -)
        rw [readDigits?_eq_some_iff.mpr h] at hread
        cases hread
    | some m =>
      simp only [readNumber, hread]
      constructor
      · rintro ⟨⟩
        exact .some (readDigits?_eq_some_iff.mp hread)
      · rintro (h | -)
        rw [readDigits?_eq_some_iff.mpr h] at hread
        cases hread
        rfl

theorem readNumber_eq_error_iff {what : String} : readNumber what limit = .error f ↔
    ∃ digits, limit = some digits ∧ (∀ n, ¬ WordText digits n) ∧
      f = .malformed ("Invalid " ++ what ++ " value: " ++ .ofList digits) := by
  cases limit with
  | none => simp [readNumber]
  | some digits =>
    cases hread : readDigits? word64 digits with
    | none =>
      have hnot : ∀ n, ¬ WordText digits n := by
        intro n h
        rw [readDigits?_eq_some_iff.mpr h] at hread
        cases hread
      simp [readNumber, hread, hnot, eq_comm]
    | some m =>
      have hm : WordText digits m := readDigits?_eq_some_iff.mp hread
      simp only [readNumber, hread, Option.some.injEq, reduceCtorEq, false_iff]
      rintro ⟨_, rfl, hnot, -⟩
      exact hnot m hm

theorem getKeys_of_shape (h : KeysShape table limit offset s) : getKeys s =
    (readNumber "limit" limit >>= fun l =>
      readNumber "offset" offset >>= fun o => .ok (some ⟨table, l, o⟩)) := by
  simp only [getKeys, getKeysShape?_iff.mpr h]

theorem shape_of_getKeys (h : getKeys s ≠ .ok none) :
    ∃ table limit offset, KeysShape table limit offset s := by
  cases hshape : getKeysShape? s with
  | none => exact absurd (by rw [getKeys, hshape]) h
  | some p => exact ⟨p.1, p.2.1, p.2.2, getKeysShape?_iff.mp hshape⟩

theorem getKeys_eq_ok_iff : getKeys s = .ok (some c) ↔ KeysRendering c s := by
  constructor
  · intro h
    obtain ⟨table, limit, offset, hshape⟩ := shape_of_getKeys (s := s) (by simp [h])
    rw [getKeys_of_shape hshape] at h
    obtain ⟨l, hlimit, h⟩ := bind_eq_ok_iff.mp h
    obtain ⟨o, hoffset, h⟩ := bind_eq_ok_iff.mp h
    cases h
    exact .mk hshape (readNumber_eq_ok_iff.mp hlimit) (readNumber_eq_ok_iff.mp hoffset)
  · rintro ⟨hshape, hlimit, hoffset⟩
    rw [getKeys_of_shape hshape, readNumber_eq_ok_iff.mpr hlimit, readNumber_eq_ok_iff.mpr hoffset]
    rfl

/-- A request is refused for one of its numbers. -/
theorem readNumber_of_getKeys (h : getKeys s = .error f) :
    ∃ table limit offset what number, KeysShape table limit offset s ∧
      (limit = number ∨ offset = number) ∧ readNumber what number = .error f := by
  obtain ⟨table, limit, offset, hshape⟩ := shape_of_getKeys (s := s) (by simp [h])
  rw [getKeys_of_shape hshape] at h
  rcases bind_eq_error_iff.mp h with hlimit | ⟨l, -, h⟩
  · exact ⟨table, limit, offset, "limit", limit, hshape, .inl rfl, hlimit⟩
  rcases bind_eq_error_iff.mp h with hoffset | ⟨o, -, h⟩
  · exact ⟨table, limit, offset, "offset", offset, hshape, .inr rfl, hoffset⟩
  · cases h

theorem getKeys_eq_error_iff : (∃ f, getKeys s = .error f) ↔
    ∃ table limit offset digits, KeysShape table limit offset s ∧
      (limit = some digits ∨ offset = some digits) ∧ ∀ n, ¬ WordText digits n := by
  constructor
  · rintro ⟨f, h⟩
    obtain ⟨table, limit, offset, what, number, hshape, hnumber, hread⟩ := readNumber_of_getKeys h
    obtain ⟨digits, rfl, hnot, -⟩ := readNumber_eq_error_iff.mp hread
    exact ⟨table, limit, offset, digits, hshape, hnumber, hnot⟩
  · rintro ⟨table, limit, offset, digits, hshape, hdigits, hnot⟩
    have hrefused : ∀ what, ∃ f, readNumber what (some digits) = .error f :=
      fun what => ⟨_, readNumber_eq_error_iff.mpr ⟨digits, rfl, hnot, rfl⟩⟩
    rw [getKeys_of_shape hshape]
    rcases hdigits with rfl | rfl
    · obtain ⟨f, hf⟩ := hrefused "limit"
      exact ⟨f, bind_eq_error_iff.mpr (.inl hf)⟩
    · obtain ⟨f, hf⟩ := hrefused "offset"
      -- the limit is read before, and may be refused itself
      cases readNumber "limit" limit with
      | error f' => exact ⟨f', rfl⟩
      | ok l => exact ⟨f, bind_eq_error_iff.mpr (.inr ⟨l, rfl, bind_eq_error_iff.mpr (.inl hf)⟩)⟩

theorem malformed_of_getKeys (h : getKeys s = .error f) : f.kind = .malformed := by
  obtain ⟨_, _, _, what, number, -, -, hread⟩ := readNumber_of_getKeys h
  obtain ⟨digits, -, -, rfl⟩ := readNumber_eq_error_iff.mp hread
  rfl

end Keys

end Grammar

end KeyspaceLink

import KeyspaceLink.Proofs.Wording

/-! The grammar of the command that creates a bucket. Several clauses may be left out, and
their words are names too, but no text is a rendering of two commands, and the reader finds
the one that there is. -/

namespace KeyspaceLink.Grammar

def createWord : List Char := ['c', 'r', 'e', 'a', 't', 'e']
def primaryWord : List Char := ['p', 'r', 'i', 'm', 'a', 'r', 'y']
def waitWord : List Char := ['w', 'a', 'i', 't']

/-- Settings between braces, as written. -/
inductive SettingsText : Option String → List Char → Prop
  | absent : SettingsText none []
  | present {b written b' body : List Char} (hb : Blanks b) (hword : Spells withWord written)
      (hb' : Blanks b') :
      SettingsText (some (.ofList ('\x7b' :: (body ++ ['\x7d']))))
        (b ++ (written ++ (b' ++ '\x7b' :: (body ++ ['\x7d']))))

/-- The texts that say to create a bucket. -/
inductive Rendering : CreateBucket → List Char → Prop
  | mk {create b bucket index b' name before block after ending : List Char} {table : Keyspace}
      {indexed waitsBefore waitsAfter : Bool} {settings : Option String}
      (hcreate : Spells createWord create) (hb : Blanks b)
      (hbucket : Spells bucketWord bucket ∨ Spells tableWord bucket)
      (hindex : Optionally indexClause indexed index) (hb' : Blanks b')
      (htable : KeyspaceText table name) (hbefore : Optionally waitClause waitsBefore before)
      (hsettings : SettingsText settings block) (hafter : Optionally waitClause waitsAfter after)
      (hend : EndText ending) (hlast : settings ≠ none → '\x7d' ∉ after ++ ending) :
      Rendering ⟨table, indexed, waitsBefore || waitsAfter, settings⟩
        (create ++ (b ++ (bucket ++ (index ++ (b' ++ (name ++
          (before ++ (block ++ (after ++ ending)))))))))

section Settings

variable {body s r : List Char}

theorem block_append (h : '\x7d' ∉ r) :
    block ('\x7b' :: (body ++ '\x7d' :: r)) = some ('\x7b' :: (body ++ ['\x7d']), r) := by
  have hr : ∀ c ∈ r.reverse, (c != '\x7d') = true := by
    intro c hc
    rw [bne_iff_ne]
    rintro rfl
    exact h (List.mem_reverse.mp hc)
  have hback : (body ++ '\x7d' :: r).reverse.dropWhile (· != '\x7d') = '\x7d' :: body.reverse := by
    rw [List.reverse_append, List.reverse_cons, List.append_assoc,
      List.dropWhile_append_of_pos hr]
    exact List.dropWhile_cons_of_neg (by simp)
  have hdrop : (body ++ '\x7d' :: r).drop ('\x7d' :: body.reverse).length = r := by
    rw [List.length_cons, List.length_reverse, List.drop_append, Nat.add_sub_cancel_left,
      List.drop_eq_nil_of_le (Nat.le_succ _)]
    rfl
  rw [block]
  simp only [hback, hdrop, List.isEmpty_cons, Bool.false_eq_true, if_false, List.reverse_cons,
    List.reverse_reverse]

theorem block_eq_some {t : List Char} (h : block s = some (t, r)) :
    ∃ body, t = '\x7b' :: (body ++ ['\x7d']) ∧ s = t ++ r ∧ '\x7d' ∉ r := by
  cases s with
  | nil => cases h
  | cons c q =>
    by_cases hc : c = '\x7b'
    · subst hc
      by_cases hmem : '\x7d' ∈ q
      · obtain ⟨rest, body, hq, hrest⟩ := List.eq_append_cons_of_mem (List.mem_reverse.mpr hmem)
        have hq : q = body.reverse ++ '\x7d' :: rest.reverse := by
          rw [← List.reverse_inj, hq]
          simp
        rw [hq, block_append (by simpa using hrest)] at h
        cases h
        exact ⟨body.reverse, rfl, by simp [hq], by simpa using hrest⟩
      · have hback : q.reverse.dropWhile (· != '\x7d') = [] := by
          rw [List.dropWhile_eq_nil_iff]
          rintro d hd
          rw [bne_iff_ne]
          rintro rfl
          exact hmem (List.mem_reverse.mp hd)
        simp [block, hback] at h
    · simp [block, hc] at h

theorem keyword_create : Keyword createWord := by simp [Keyword, createWord]

theorem keyword_bucket : Keyword bucketWord := by simp [Keyword, bucketWord]

theorem keyword_table : Keyword tableWord := by simp [Keyword, tableWord]

theorem keyword_with : Keyword withWord := by simp [Keyword, withWord]

theorem keyword_primary : Keyword primaryWord := by simp [Keyword, primaryWord]

theorem keyword_wait : Keyword waitWord := by simp [Keyword, waitWord]

theorem keywords_index : ∀ w ∈ indexClause, Keyword w := by
  simp [Keyword, indexClause, withWord]

theorem keywords_wait : ∀ w ∈ waitClause, Keyword w := by
  simp [Keyword, waitClause]

theorem SettingsText.separated {settings : Option String} {t : List Char}
    (h : SettingsText settings t) (hr : Separated r) : Separated (t ++ r) := by
  cases h with
  | absent => exact hr
  | present hb =>
    rw [List.append_assoc]
    exact hb.separated

theorem settingsClause_eq_some {settings : Option String}
    (h : settingsClause s = some (settings, r)) :
    ∃ t, SettingsText settings t ∧ s = t ++ r ∧ (settings ≠ none → '\x7d' ∉ r) := by
  unfold settingsClause at h
  split at h
  · cases h
    exact ⟨[], .absent, rfl, nofun⟩
  · next s' hs' =>
    obtain ⟨b, written, hb, hwritten, rfl⟩ := nextWord_eq_some keyword_with hs'
    obtain ⟨⟨t, r'⟩, hgap, he⟩ := Option.map_eq_some_iff.mp h
    cases he
    obtain ⟨s'', hgap, hblock⟩ := Option.bind_eq_some_iff.mp hgap
    obtain ⟨b', hb', rfl⟩ := gap_eq_some hgap
    obtain ⟨body, rfl, rfl, hlast⟩ := block_eq_some hblock
    exact ⟨_, .present hb hwritten hb', by simp, fun _ => hlast⟩

theorem settingsClause_append {settings : Option String} {t : List Char}
    (h : SettingsText settings t) (hlast : settings ≠ none → '\x7d' ∉ r)
    (hnone : settings = none → nextWord withWord r = none) :
    settingsClause (t ++ r) = some (settings, r) := by
  cases h with
  | absent => simp [settingsClause, hnone rfl]
  | @present b written b' body hb hword hb' =>
    have hgap : gap (b' ++ '\x7b' :: (body ++ '\x7d' :: r)) =
        some ('\x7b' :: (body ++ '\x7d' :: r)) :=
      gap_append hb' fun c hc => by
        cases hc
        decide
    simp only [List.append_assoc, List.cons_append, List.nil_append]
    simp only [settingsClause, nextWord_append keyword_with hb hword, hgap, Option.bind_some,
      block_append (hlast nofun), Option.map_some]

end Settings

section Readers

variable {s r b written : List Char} {c : CreateBucket}

theorem bucketOrTable_eq_some (h : bucketOrTable s = some r) :
    ∃ b written, Blanks b ∧ (Spells bucketWord written ∨ Spells tableWord written) ∧
      s = b ++ (written ++ r) := by
  unfold bucketOrTable at h
  rcases Option.or_eq_some_iff.mp h with h | ⟨-, h⟩
  · obtain ⟨b, written, hb, hwritten, hs⟩ := nextWord_eq_some keyword_bucket h
    exact ⟨b, written, hb, .inl hwritten, hs⟩
  · obtain ⟨b, written, hb, hwritten, hs⟩ := nextWord_eq_some keyword_table h
    exact ⟨b, written, hb, .inr hwritten, hs⟩

theorem bucketOrTable_append (hb : Blanks b)
    (h : Spells bucketWord written ∨ Spells tableWord written) :
    bucketOrTable (b ++ (written ++ r)) = some r := by
  unfold bucketOrTable
  rcases h with h | h
  · rw [nextWord_append keyword_bucket hb h]
    rfl
  · have hnone : nextWord bucketWord (b ++ (written ++ r)) = none :=
      nextWord_eq_none_of_other keyword_bucket keyword_table (by decide) (by decide) hb h
    rw [hnone, nextWord_append keyword_table hb h]
    rfl

/-- What is read is a rendering. -/
theorem rendering_of_createBucket? (h : createBucket? s = some c) : Rendering c s := by
  simp only [createBucket?, Option.bind_eq_bind, Option.bind_eq_some_iff] at h
  obtain ⟨s₁, hdrop, s₂, hword, h⟩ := h
  obtain ⟨create, hcreate, rfl⟩ := dropWord_eq_some hdrop keyword_create.2
  obtain ⟨b, bucket, hb, hbucket, rfl⟩ := bucketOrTable_eq_some hword
  rcases hindex : optional indexClause s₂ with ⟨indexed, s₃⟩
  obtain ⟨index, hindexed, rfl⟩ := optional_eq keywords_index hindex
  rw [hindex] at h
  obtain ⟨⟨table, s₄⟩, htable, h⟩ := h
  obtain ⟨b', name, hb', hname, rfl⟩ := nextKeyspace_eq_some htable
  rcases hbefore : optional waitClause s₄ with ⟨waitsBefore, s₅⟩
  obtain ⟨before, hwaitsBefore, rfl⟩ := optional_eq keywords_wait hbefore
  rw [hbefore] at h
  obtain ⟨⟨settings, s₆⟩, hblock, h⟩ := h
  obtain ⟨block, hsettings, rfl, hlast⟩ := settingsClause_eq_some hblock
  rcases hafter : optional waitClause s₆ with ⟨waitsAfter, s₇⟩
  obtain ⟨after, hwaitsAfter, rfl⟩ := optional_eq keywords_wait hafter
  rw [hafter] at h
  obtain ⟨_, hend, hc⟩ := h
  cases hc
  have hend : EndText s₇ := isEnd_iff.mp (by simpa using hend)
  exact .mk hcreate hb hbucket hindexed hb' hname hwaitsBefore hsettings hwaitsAfter hend hlast

/-- The text after a name: a clause to wait, settings and a clause to wait, each if at all.
Without settings between them, one clause to wait may be read in the first place or in the
second. -/
theorem read_ending {before block after ending : List Char} {waitsBefore waitsAfter : Bool}
    {settings : Option String} (hbefore : Optionally waitClause waitsBefore before)
    (hsettings : SettingsText settings block) (hafter : Optionally waitClause waitsAfter after)
    (hend : EndText ending) (hlast : settings ≠ none → '\x7d' ∉ after ++ ending) :
    ∃ first second s₁ s₂ s₃,
      optional waitClause (before ++ (block ++ (after ++ ending))) = (first, s₁) ∧
      settingsClause s₁ = some (settings, s₂) ∧ optional waitClause s₂ = (second, s₃) ∧
      isEnd s₃ = true ∧ (first || second) = (waitsBefore || waitsAfter) := by
  have hdone : isEnd ending = true := isEnd_iff.mpr hend
  have hnoWait : optional waitClause ending = (false, ending) :=
    optional_of_none (nextWord_eq_none_of_end keyword_wait hend)
  have hnoWith : nextWord withWord (after ++ ending) = none := by
    cases hafter with
    | absent => exact nextWord_eq_none_of_end keyword_with hend
    | present h => exact h.nextWord_eq_none keyword_with keyword_wait (by decide) (by decide)
  have hblock : settingsClause (block ++ (after ++ ending)) = some (settings, after ++ ending) :=
    settingsClause_append hsettings hlast fun _ => hnoWith
  have hlater : optional waitClause (after ++ ending) = (waitsAfter, ending) := by
    cases hafter with
    | absent => exact hnoWait
    | present h => exact optional_of_clause keywords_wait h
  cases hbefore with
  | present h =>
    exact ⟨_, _, _, _, _, optional_of_clause keywords_wait h, hblock, hlater, hdone, rfl⟩
  | absent =>
    rw [List.nil_append]
    cases hsettings with
    | @present b written b' body hb hword hb' =>
      have hnone : nextWord waitWord
          (b ++ (written ++ (b' ++ '\x7b' :: (body ++ ['\x7d']))) ++ (after ++ ending)) = none := by
        simp only [List.append_assoc]
        exact nextWord_eq_none_of_other keyword_wait keyword_with (by decide) (by decide) hb hword
      exact ⟨_, _, _, _, _, optional_of_none hnone, hblock, hlater, hdone, rfl⟩
    | absent =>
      -- What is read in the first place is what was written in the second.
      have hnone : settingsClause ending = some (none, ending) :=
        settingsClause_append .absent nofun fun _ => nextWord_eq_none_of_end keyword_with hend
      exact ⟨_, _, _, _, _, hlater, hnone, hnoWait, hdone, Bool.or_comm ..⟩

theorem nextWord_primary_ending {before block after ending : List Char}
    {waitsBefore waitsAfter : Bool} {settings : Option String}
    (hbefore : Optionally waitClause waitsBefore before) (hsettings : SettingsText settings block)
    (hafter : Optionally waitClause waitsAfter after) (hend : EndText ending) :
    nextWord primaryWord (before ++ (block ++ (after ++ ending))) = none := by
  have hwait : ∀ {t r : List Char}, Clause waitClause t → nextWord primaryWord (t ++ r) = none :=
    fun h => h.nextWord_eq_none keyword_primary keyword_wait (by decide) (by decide)
  cases hbefore with
  | present h => exact hwait h
  | absent =>
    cases hsettings with
    | present hb hword hb' =>
      simp only [List.nil_append, List.append_assoc]
      exact nextWord_eq_none_of_other keyword_primary keyword_with (by decide) (by decide) hb hword
    | absent =>
      rw [List.nil_append, List.nil_append]
      cases hafter with
      | present h => exact hwait h
      | absent => exact nextWord_eq_none_of_end keyword_primary hend

/-- A name is not the first word of the clause for an index, even if it is spelled so, unless
the second word follows. -/
theorem optional_of_name {name : List Char} {table : Keyspace} (hb : Blanks b)
    (hname : KeyspaceText table name) (hr : Separated r)
    (hprimary : nextWord primaryWord r = none) :
    optional indexClause (b ++ (name ++ r)) = (false, b ++ (name ++ r)) := by
  have hnone : nextWords indexClause (b ++ (name ++ r)) = none := by
    rw [indexClause, nextWords, nextWord, gap_append hb hname.head?_append, Option.bind_some]
    cases hdrop : dropWord withWord (name ++ r) with
    | none => rfl
    | some r' =>
      have hsecond : nextWord primaryWord r' = none := by
        rcases gap_of_name keyword_with hname hr hdrop with hgap | rfl
        · rw [nextWord, hgap]
          rfl
        · exact hprimary
      rw [Option.bind_some]
      exact congrArg (Option.bind · _) hsecond
  rw [optional, hnone]

/-- A rendering is read. -/
theorem createBucket?_of_rendering (h : Rendering c s) : createBucket? s = some c := by
  cases h with
  | @mk create b bucket index b' name before block after ending table indexed waitsBefore waitsAfter
      settings hcreate hb hbucket hindex hb' htable hbefore hsettings hafter hend hlast =>
    obtain ⟨first, second, s₁, s₂, s₃, h₁, h₂, h₃, hdone, hwaits⟩ :=
      read_ending hbefore hsettings hafter hend hlast
    have hsep : Separated (before ++ (block ++ (after ++ ending))) :=
      hbefore.separated (hsettings.separated (hafter.separated hend.separated))
    have htable' : nextKeyspace (b' ++ (name ++ (before ++ (block ++ (after ++ ending))))) =
        some (table, before ++ (block ++ (after ++ ending))) :=
      nextKeyspace_append hb' htable hsep
    have hindexed : optional indexClause
        (index ++ (b' ++ (name ++ (before ++ (block ++ (after ++ ending)))))) =
        (indexed, b' ++ (name ++ (before ++ (block ++ (after ++ ending))))) := by
      cases hindex with
      | present h => exact optional_of_clause keywords_index h
      | absent =>
        have hprimary := nextWord_primary_ending hbefore hsettings hafter hend
        rw [List.nil_append]
        exact optional_of_name hb' htable hsep hprimary
    have hcreated : ∀ r, dropWord ['c', 'r', 'e', 'a', 't', 'e'] (create ++ r) = some r :=
      fun _ => dropWord_append hcreate keyword_create.2
    simp only [createBucket?, hcreated, bucketOrTable_append hb hbucket, hindexed, htable',
      h₁, h₂, h₃, hdone, Option.bind_eq_bind, Option.bind_some, guard_true, hwaits]
    rfl

end Readers

/-- A text is read as a command exactly if it is a rendering of that command, and it is one of a
single command at most. -/
theorem createBucket_read_iff_rendering (sql : String) :
    (∀ c, createBucket? sql.toList = some c ↔ Rendering c sql.toList) ∧
      {c | Rendering c sql.toList}.Subsingleton := by
  refine ⟨fun c => ⟨rendering_of_createBucket?, createBucket?_of_rendering⟩, fun c h c' h' => ?_⟩
  have hread := createBucket?_of_rendering h
  have hread' := createBucket?_of_rendering h'
  exact Option.some.inj (hread.symm.trans hread')

example : createBucket? "Create Bucket with WITH \x7b\x7d WAIT UNTIL READY;".toList =
    some ⟨⟨none, "with"⟩, false, true, some "\x7b\x7d"⟩ := by
  decide +kernel

end KeyspaceLink.Grammar

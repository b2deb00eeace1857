import KeyspaceLink.Proofs.CommandGrammars
import KeyspaceLink.Proofs.ReadOnly

/-! Which command a text is. The first words tell the kinds of commands apart, so a text is one
command at most, and it does not matter in which order it is offered to the kinds. -/

namespace KeyspaceLink

/-- The keyspace that a command is about. -/
def Command.table? : Command → Option Keyspace
  | createBucket c => some c.table
  | dropBucket c => some c.table
  | describeBucket c => some c.table
  | describeIndexes => none
  | getKeys c => some c.table

namespace Grammar

variable {sql : String} {s r : List Char} {kind kind' : CommandKind} {c c' : Command}

/-- The text says the command. -/
def Says (s : List Char) : Command → Prop
  | .createBucket c => Rendering c s
  | .dropBucket c => DropRendering c s
  | .describeBucket c => ∃ written, DescribeRendering c written s
  | .describeIndexes => IndexesRendering s
  | .getKeys c => KeysRendering c s

/-- The text has the shape of a kind of commands, whatever its numbers are. -/
def Fits (s : List Char) : CommandKind → Prop
  | .createBucket => ∃ c, Rendering c s
  | .dropBucket => ∃ c, DropRendering c s
  | .describeBucket => ∃ c written, DescribeRendering c written s
  | .describeIndexes => IndexesRendering s
  | .getKeys => ∃ table limit offset, KeysShape table limit offset s

section Kinds

/-- The first word of the commands of a kind. -/
def verb : CommandKind → List Char
  | .createBucket => createWord
  | .dropBucket => dropVerb
  | .describeBucket | .describeIndexes => describeWord
  | .getKeys => getVerb

theorem keyword_verb (kind : CommandKind) : Keyword (verb kind) := by
  cases kind with
  | createBucket => exact keyword_create
  | dropBucket => exact keyword_drop
  | describeBucket => exact keyword_describe
  | describeIndexes => exact keyword_describe
  | getKeys => exact keyword_get

theorem Fits.dropWord_verb (h : Fits s kind) : ∃ r, dropWord (verb kind) s = some r := by
  have hdrop : ∀ {written r : List Char}, Spells (verb kind) written → s = written ++ r →
      ∃ r, dropWord (verb kind) s = some r := by
    rintro written r hspelled rfl
    exact ⟨r, dropWord_append hspelled (keyword_verb kind).2⟩
  cases kind with
  | createBucket =>
    obtain ⟨c, ⟨hcreate⟩⟩ := h
    exact hdrop hcreate rfl
  | dropBucket =>
    obtain ⟨c, ⟨hspelled⟩⟩ := h
    exact hdrop hspelled rfl
  | describeBucket =>
    obtain ⟨c, written, ⟨hdescribe⟩⟩ := h
    exact hdrop hdescribe rfl
  | describeIndexes =>
    obtain ⟨hdescribe⟩ := h
    exact hdrop hdescribe rfl
  | getKeys =>
    obtain ⟨table, limit, offset, ⟨hget⟩⟩ := h
    exact hdrop hget rfl

theorem not_fits_indexes (h : Fits s .describeBucket) : ¬ Fits s .describeIndexes := by
  obtain ⟨c, written, ⟨hdescribe, hb, hbucket, -, -⟩⟩ := h
  intro h'
  have hindexes : ((dropWord describeWord _).bind (nextWord indexesWord)).any isEnd = true :=
    describesIndexes_iff_rendering.mpr h'
  rw [dropWord_append hdescribe keyword_describe.2, Option.bind_some,
    nextWord_eq_none_of_other keyword_indexes keyword_bucket (by decide) (by decide) hb hbucket]
    at hindexes
  cases hindexes

theorem Fits.kind_eq (h : Fits s kind) (h' : Fits s kind') : kind = kind' := by
  obtain ⟨r, hr⟩ := h.dropWord_verb
  obtain ⟨r', hr'⟩ := h'.dropWord_verb
  have hverbs : verb kind <+: verb kind' ∨ verb kind' <+: verb kind :=
    prefix_or_prefix_of_dropWord (keyword_verb kind).2 (keyword_verb kind').2 hr hr'
  -- two kinds begin with one word only if both describe
  have hkinds : kind = kind' ∨ kind = .describeBucket ∧ kind' = .describeIndexes ∨
      kind' = .describeBucket ∧ kind = .describeIndexes := by
    revert hverbs
    cases kind <;> cases kind' <;> decide
  rcases hkinds with heq | ⟨rfl, rfl⟩ | ⟨rfl, rfl⟩
  · exact heq
  · exact absurd h' (not_fits_indexes h)
  · exact absurd h (not_fits_indexes h')

end Kinds

section Reading

theorem createBucket?_iff_rendering {c : CreateBucket} :
    createBucket? s = some c ↔ Rendering c s :=
  ⟨rendering_of_createBucket?, createBucket?_of_rendering⟩

theorem map_eq_ok_some_iff {ε α β : Type} {x : Except ε (Option α)} {f : α → β} {b : β} :
    x.map (Option.map f) = .ok (some b) ↔ ∃ a, x = .ok (some a) ∧ f a = b := by
  rcases x with e | _ | a <;> simp [Except.map]

/-- Outside of descriptions of buckets, a command is read exactly from the texts that say it. -/
theorem read_eq_some_iff (hkind : kind ≠ .describeBucket) :
    read kind sql = .ok (some c) ↔ c.kind = kind ∧ Says sql.toList c := by
  cases kind <;> cases c <;>
    simp [read, Says, Command.kind, createBucket?_iff_rendering, dropBucket?_iff_rendering,
      describesIndexes_iff_rendering, map_eq_ok_some_iff, getKeys_eq_ok_iff] at hkind ⊢

theorem read_describe_iff : read .describeBucket sql = .ok (some c) ↔
    ∃ d written, DescribeRendering d written sql.toList ∧ c = .describeBucket (d.told written) := by
  simp only [read, Except.ok.injEq, Option.map_eq_some_iff, describeBucket?_iff_rendering]
  constructor
  · rintro ⟨_, ⟨d, written, h, rfl⟩, rfl⟩
    exact ⟨d, written, h, rfl⟩
  · rintro ⟨d, written, h, rfl⟩
    exact ⟨_, ⟨d, written, h, rfl⟩, rfl⟩

theorem read_eq_error_iff : (∃ f, read kind sql = .error f) ↔ kind = .getKeys ∧
    ∃ table limit offset digits, KeysShape table limit offset sql.toList ∧
      (limit = some digits ∨ offset = some digits) ∧ ∀ n, ¬ WordText digits n := by
  rw [← getKeys_eq_error_iff]
  cases kind <;> simp only [read, reduceCtorEq, exists_false, false_and, true_and]
  cases getKeys sql.toList <;> simp [Except.map]

theorem malformed_of_read {f : Failure} (h : read kind sql = .error f) : f.kind = .malformed := by
  obtain ⟨rfl, -⟩ := read_eq_error_iff.mp ⟨f, h⟩
  refine malformed_of_getKeys (s := sql.toList) ?_
  cases hread : getKeys sql.toList <;> simp_all [read, Except.map]

theorem Says.fits (h : Says s c) : Fits s c.kind := by
  cases c with
  | createBucket c => exact ⟨c, h⟩
  | dropBucket c => exact ⟨c, h⟩
  | describeBucket c => exact ⟨c, h⟩
  | describeIndexes => exact h
  | getKeys c =>
    obtain ⟨hshape, -, -⟩ := h
    exact ⟨_, _, _, hshape⟩

theorem fits_of_read (h : read kind sql ≠ .ok none) : Fits sql.toList kind := by
  cases hread : read kind sql with
  | error f =>
    obtain ⟨rfl, table, limit, offset, -, hshape, -⟩ := read_eq_error_iff.mp ⟨f, hread⟩
    exact ⟨table, limit, offset, hshape⟩
  | ok claimed =>
    cases claimed with
    | none => exact absurd hread h
    | some c =>
      by_cases hkind : kind = .describeBucket
      · subst hkind
        obtain ⟨d, written, hd, -⟩ := read_describe_iff.mp hread
        exact ⟨d, written, hd⟩
      · obtain ⟨rfl, hsaid⟩ := (read_eq_some_iff hkind).mp hread
        exact hsaid.fits

theorem kind_eq_of_read (h : read kind sql ≠ .ok none) (h' : read kind' sql ≠ .ok none) :
    kind = kind' :=
  (fits_of_read h).kind_eq (fits_of_read h')

theorem Says.command_eq (h : Says s c) (h' : Says s c') : c = c' := by
  have hkind : c.kind = c'.kind := h.fits.kind_eq h'.fits
  -- a description is not read as it is said, so its rendering itself tells it
  by_cases hdescribe : c.kind = .describeBucket
  · cases c with
    | describeBucket d =>
      cases c' with
      | describeBucket d' =>
        obtain ⟨written, h⟩ := h
        obtain ⟨written', h'⟩ := h'
        rw [h.unique h']
      | _ => cases hkind
    | _ => cases hdescribe
  · have hread : ∀ {c' : Command}, c'.kind = c.kind → Says s c' →
        read c.kind (.ofList s) = .ok (some c') := by
      intro c' hc' hsaid
      exact (read_eq_some_iff hdescribe).mpr ⟨hc', by rwa [String.toList_ofList]⟩
    have heq := (hread rfl h).symm.trans (hread hkind.symm h')
    exact Option.some.inj (Except.ok.inj heq)

end Reading

section Dispatch

variable {session : Session} {readOnly : Bool} {kinds : List CommandKind}

/-- Only the kind that takes a text acts on it. -/
theorem tryKinds_of_read (h : read kind sql ≠ .ok none) (hmem : kind ∈ kinds) :
    session.tryKinds sql readOnly kinds = session.tryKinds sql readOnly [kind] := by
  induction kinds with
  | nil => cases hmem
  | cons first rest ih =>
    by_cases hfirst : read first sql = .ok none
    · have hne : kind ≠ first := by
        rintro rfl
        exact h hfirst
      rw [session.tryKinds_cons_of_none rest hfirst]
      exact ih (List.mem_of_ne_of_mem hne hmem)
    · obtain rfl := kind_eq_of_read hfirst h
      rw [Session.tryKinds, Session.tryKinds]
      cases hread : read first sql with
      | error f => rfl
      | ok claimed =>
        cases claimed with
        | none => exact absurd hread h
        | some c => rfl

theorem tryKinds_perm {kinds' : List CommandKind} (h : kinds.Perm kinds') :
    session.tryKinds sql readOnly kinds = session.tryKinds sql readOnly kinds' := by
  by_cases htaken : ∃ kind ∈ kinds, read kind sql ≠ .ok none
  · obtain ⟨kind, hmem, hread⟩ := htaken
    rw [tryKinds_of_read hread hmem, tryKinds_of_read hread (h.mem_iff.mp hmem)]
  · have hnone : ∀ kind ∈ kinds, read kind sql = .ok none := by
      simpa only [not_exists, not_and, not_not] using htaken
    rw [session.tryKinds_of_none hnone,
      session.tryKinds_of_none fun kind hkind => hnone kind (h.mem_iff.mpr hkind)]

end Dispatch

section Tables

variable {table : Keyspace} {t : List Char}

theorem KeyspaceText.text (h : KeyspaceText table t) : KeyspaceText table table.text.toList := by
  have hquoted : ∀ {n : String} {t : List Char}, NameText n t →
      NameText n ('\x60' :: (n.toList ++ ['\x60'])) := by
    rintro n t (⟨hne, h⟩ | ⟨hne, h⟩)
    · simpa using NameText.quoted hne h
    · simpa using NameText.quoted hne h
  cases h with
  | unqualified h => simpa [Keyspace.text] using KeyspaceText.unqualified (hquoted h)
  | qualified hne hschema h =>
    simpa [Keyspace.text] using KeyspaceText.qualified hne hschema (hquoted h)

theorem dropRendering_of_text (h : KeyspaceText table t) :
    DropRendering ⟨table⟩ ("DROP BUCKET " ++ table.text).toList := by
  have hdrop : Spells dropVerb ['D', 'R', 'O', 'P'] := spells_of_dropWord rfl keyword_drop.2
  have hbucket : Spells bucketWord ['B', 'U', 'C', 'K', 'E', 'T'] :=
    spells_of_dropWord rfl keyword_bucket.2
  have hblank : Blanks [' '] := by simp [Blanks, isBlank]
  have htext : ("DROP BUCKET " ++ table.text).toList = ['D', 'R', 'O', 'P'] ++ ([' '] ++
      (['B', 'U', 'C', 'K', 'E', 'T'] ++ ([' '] ++ (table.text.toList ++ [])))) := by
    simp
  rw [htext]
  exact .mk hdrop hblank (.inl hbucket) (.mk hblank h.text (.blank (by simp)))

theorem TableText.keyspaceText (h : TableText table t) : ∃ t, KeyspaceText table t := by
  obtain ⟨-, hname, -⟩ := h
  exact ⟨_, hname⟩

theorem Says.keyspaceText (h : Says s c) (htable : c.table? = some table) :
    ∃ t, KeyspaceText table t := by
  cases c with
  | createBucket c =>
    obtain ⟨-, -, -, -, -, hname⟩ := h
    cases htable
    exact ⟨_, hname⟩
  | dropBucket c =>
    obtain ⟨-, -, -, ht⟩ := h
    cases htable
    exact ht.keyspaceText
  | describeBucket c =>
    obtain ⟨written, ⟨-, -, -, -, ht⟩⟩ := h
    cases htable
    exact ht.keyspaceText
  | describeIndexes => cases htable
  | getKeys c =>
    obtain ⟨⟨-, -, -, hname⟩, -, -⟩ := h
    cases htable
    exact ⟨_, hname⟩

theorem keyspaceText_of_read (h : read kind sql = .ok (some c)) (htable : c.table? = some table) :
    ∃ t, KeyspaceText table t := by
  by_cases hkind : kind = .describeBucket
  · subst hkind
    obtain ⟨d, written, hd, rfl⟩ := read_describe_iff.mp h
    have hsaid : Says sql.toList (.describeBucket d) := ⟨written, hd⟩
    refine hsaid.keyspaceText ?_
    rw [← htable, Command.table?, Command.table?, DescribeBucket.told_table]
  · exact ((read_eq_some_iff hkind).mp h).2.keyspaceText htable

end Tables

/-- What the grammars make of a text. -/
structure Understood (sql : String) : Prop where
  /-- Commands are read from the texts that say them, but for the word of one target. -/
  read_iff : ∀ kind ≠ .describeBucket, ∀ c,
    read kind sql = .ok (some c) ↔ c.kind = kind ∧ Says sql.toList c
  describe_iff : ∀ c, read .describeBucket sql = .ok (some c) ↔
    ∃ d written, DescribeRendering d written sql.toList ∧ c = .describeBucket (d.told written)
  one_command : {c | Says sql.toList c}.Subsingleton
  /-- Only a request for keys is refused, and only for a number in it. -/
  refused_iff : ∀ kind, (∃ f, read kind sql = .error f) ↔ kind = .getKeys ∧
    ∃ table limit offset digits, KeysShape table limit offset sql.toList ∧
      (limit = some digits ∨ offset = some digits) ∧ ∀ n, ¬ WordText digits n
  malformed : ∀ kind f, read kind sql = .error f → f.kind = .malformed
  one_kind : ∀ kind kind', read kind sql ≠ .ok none → read kind' sql ≠ .ok none → kind = kind'
  any_order : ∀ (session : Session) (readOnly : Bool) (kinds : List CommandKind),
    kinds.Perm CommandKind.all →
      session.tryKinds sql readOnly kinds = session.tryExecute sql readOnly
  dropped_back : ∀ kind c table, read kind sql = .ok (some c) → c.table? = some table →
    read .dropBucket ("DROP BUCKET " ++ table.text) = .ok (some (.dropBucket ⟨table⟩))

/-- Every text is understood, by one kind of commands at most. -/
theorem understood_of_text (sql : String) : Understood sql where
  read_iff _ hkind _ := read_eq_some_iff hkind
  describe_iff _ := read_describe_iff
  one_command _ h _ h' := h.command_eq h'
  refused_iff _ := read_eq_error_iff
  malformed _ _ h := malformed_of_read h
  one_kind _ _ h h' := kind_eq_of_read h h'
  any_order _ _ _ h := tryKinds_perm h
  dropped_back kind c table hread htable := by
    obtain ⟨t, ht⟩ := keyspaceText_of_read hread htable
    exact (read_eq_some_iff (by decide)).mpr ⟨rfl, dropRendering_of_text ht⟩

/-- With a long s the word for columns is a word for columns still, and settings are told. -/
theorem columns_with_long_s_read_as_settings :
    Says "DESCRIBE BUCKET COLUMN\u017f b".toList (.describeBucket ⟨.columns, ⟨none, "b"⟩⟩) ∧
      read .describeBucket "DESCRIBE BUCKET COLUMN\u017f b" =
        .ok (some (.describeBucket ⟨.settings, ⟨none, "b"⟩⟩)) := by
  have hdescribe : Spells describeWord ['D', 'E', 'S', 'C', 'R', 'I', 'B', 'E'] :=
    spells_of_dropWord rfl keyword_describe.2
  have hbucket : Spells bucketWord ['B', 'U', 'C', 'K', 'E', 'T'] :=
    spells_of_dropWord rfl keyword_bucket.2
  have hcolumns : Spells columnsWord ['C', 'O', 'L', 'U', 'M', 'N', '\u017f'] :=
    spells_of_dropWord rfl keyword_columns.2
  have hblank : Blanks [' '] := by simp [Blanks, isBlank]
  have hname : KeyspaceText ⟨none, "b"⟩ ['b'] :=
    .unqualified (.plain (List.cons_ne_nil _ _) (by simp [NameCharacter, Letter]))
  have hsaid := DescribeRendering.mk hdescribe hblank hbucket (.columns hblank hcolumns)
    (.mk hblank hname (.blank (b := []) (by simp)))
  exact ⟨⟨_, hsaid⟩, by decide +kernel⟩

end Grammar

end KeyspaceLink

import KeyspaceLink.Proofs.LinkTimeouts

/-! What a link shows of its options to others: the forwarded ones, and those as its connection
string writes them. Neither depends on a recognized option or on an overlay. -/

namespace KeyspaceLink

/-- A pair of a recognized option, in whatever way its name is escaped and spelled. -/
def IsRecognizedPair (element : List Char) : Prop :=
  ∃ name ∈ OptionName.recognized, ∃ value, IsPair name value element

/-- An options part has the elements between its marks; an empty one may also have none. -/
def HasElements (es : List (List Char)) (s : List Char) : Prop :=
  Elements es s ∨ es = [] ∧ s = []

/-- A recognized pair is put in somewhere, taken out, or another one takes its place. -/
inductive Edit : List Char → List Char → Prop
  | insert {before after : List (List Char)} {e s t : List Char} (he : IsRecognizedPair e)
      (hs : HasElements (before ++ after) s) (ht : HasElements (before ++ e :: after) t) : Edit s t
  | remove {before after : List (List Char)} {e s t : List Char} (he : IsRecognizedPair e)
      (hs : HasElements (before ++ e :: after) s) (ht : HasElements (before ++ after) t) : Edit s t
  | change {before after : List (List Char)} {e f s t : List Char} (he : IsRecognizedPair e)
      (hf : IsRecognizedPair f) (hs : HasElements (before ++ e :: after) s)
      (ht : HasElements (before ++ f :: after) t) : Edit s t

abbrev Edited : List Char → List Char → Prop := Relation.ReflTransGen Edit

def unrecognized (pairs : List (String × String)) : List (String × String) :=
  pairs.filter fun p => !OptionName.isRecognized p.1

section Edits

variable {es before after : List (List Char)} {e s t : List Char}

theorem readOptions_of_hasElements (h : HasElements es s) :
    readOptions s = es.filterMap readElement := by
  rcases h with h | ⟨rfl, rfl⟩
  · exact readOptions_eq h
  · rfl

theorem isRecognized_iff {name : String} : OptionName.isRecognized (lower name) = true ↔
    ∃ r ∈ OptionName.recognized, sameIgnoringCase r name = true :=
  List.any_eq_true

theorem unrecognized_insert (he : IsRecognizedPair e) :
    unrecognized ((before ++ e :: after).filterMap readElement) =
      unrecognized ((before ++ after).filterMap readElement) := by
  obtain ⟨name, hname, value, hpair⟩ := he
  have hread : readElement e = some (lower name, value) := isPair_iff.mp hpair
  have hdropped : OptionName.isRecognized (lower name) = true :=
    isRecognized_iff.mpr ⟨name, hname, beq_self_eq_true _⟩
  simp [unrecognized, hread, hdropped]

theorem Edit.unrecognized_eq (h : Edit s t) :
    unrecognized (readOptions s) = unrecognized (readOptions t) := by
  cases h with
  | insert he hs ht =>
    rw [readOptions_of_hasElements hs, readOptions_of_hasElements ht, unrecognized_insert he]
  | remove he hs ht =>
    rw [readOptions_of_hasElements hs, readOptions_of_hasElements ht, unrecognized_insert he]
  | change he hf hs ht =>
    rw [readOptions_of_hasElements hs, readOptions_of_hasElements ht, unrecognized_insert he,
      unrecognized_insert hf]

theorem Edited.unrecognized_eq (h : Edited s t) :
    unrecognized (readOptions s) = unrecognized (readOptions t) := by
  induction h with
  | refl => rfl
  | tail _ hstep ih => exact ih.trans hstep.unrecognized_eq

end Edits

section Starts

variable {start before s : List Char} {c : Char}

theorem dropStart?_append_cons (hc : c ∉ start) :
    dropStart? start (before ++ c :: s) = (dropStart? start before).map (· ++ c :: s) := by
  induction start generalizing before with
  | nil => rfl
  | cons w start ih =>
    obtain ⟨hne, hrest⟩ := not_or.mp (mt List.mem_cons.mpr hc)
    cases before with
    | nil => simp [dropStart?, hne]
    | cons d before =>
      rw [List.cons_append, dropStart?, dropStart?]
      split
      · exact ih hrest
      · rfl

end Starts

namespace Parameters

/-- A link with an options part, told by what stands before and after its question mark. -/
def linkText (before options : List Char) : String := .ofList (before ++ '?' :: options)

/-- What others get to see. -/
def outward (p : Parameters) : List (String × String) × String :=
  (p.forwarded, p.connectionString)

theorem afterScheme?_linkText (before options : List Char) :
    afterScheme? (linkText before options) =
      (afterScheme? (.ofList before)).map (· ++ '?' :: options) := by
  have hscheme : '?' ∉ scheme.toList := by decide
  have hother : '?' ∉ otherScheme.toList := by decide
  simp only [afterScheme?, linkText, String.toList_ofList, dropStart?_append_cons hscheme,
    dropStart?_append_cons hother, Option.map_or]

theorem not_mem_of_afterScheme? {before body : List Char} (hmark : '?' ∉ before)
    (h : afterScheme? (.ofList before) = some body) : '?' ∉ body := by
  intro hmem
  rcases Option.or_eq_some_iff.mp h with h | ⟨-, h⟩
  all_goals
    rw [String.toList_ofList] at h
    rw [dropStart?_eq_some h] at hmark
    exact hmark (List.mem_append_right _ hmem)

section Reading

variable {uri uri' : String} {overlay other : Overlay} {body body' : List Char}

theorem outward_resolve {hostText : List Char} {hosts hosts' : List Host}
    {keyspace keyspace' : Option (List Char)} {options options' : Option (List (String × String))}
    (hsome : options.isSome = options'.isSome)
    (hkept : unrecognized (options.getD []) = unrecognized (options'.getD [])) :
    (resolve uri hostText hosts keyspace options overlay).outward =
      (resolve uri' hostText hosts' keyspace' options' other).outward := by
  have hforward : (resolve uri hostText hosts keyspace options overlay).forwarded =
      (resolve uri' hostText hosts' keyspace' options' other).forwarded := congrArg sorted hkept
  exact Prod.ext hforward (connectionString_congr hsome rfl hforward)

theorem outward_read (hbody : afterScheme? uri = some body)
    (hbody' : afterScheme? uri' = some body')
    (hhost : (Parts.read body).hostText = (Parts.read body').hostText)
    (hsome : (Parts.read body).options.isSome = (Parts.read body').options.isSome)
    (hkept : unrecognized ((Parts.read body).options.getD []) =
      unrecognized ((Parts.read body').options.getD [])) :
    (read uri overlay).map outward = (read uri' other).map outward := by
  rw [read_of_body hbody, read_of_body hbody', ← hhost]
  cases Host.readList (Parts.read body).hostText with
  | error e => rfl
  | ok hosts =>
    simp only [Except.bind]
    split
    · rfl
    · exact congrArg Except.ok (outward_resolve hsome hkept)

theorem read_of_no_scheme (h : afterScheme? uri = none) :
    read uri overlay = .error (.malformed ("URI needs to start with " ++ scheme)) := by
  rw [read, h]

theorem outward_of_other_overlay (uri : String) (overlay other : Overlay) :
    (read uri overlay).map outward = (read uri other).map outward := by
  cases hbody : afterScheme? uri with
  | none => rw [read_of_no_scheme hbody, read_of_no_scheme hbody]
  | some body => exact outward_read hbody hbody rfl rfl rfl

theorem parts_append {before s : List Char} (hmark : '?' ∉ before) :
    Parts.read (before ++ '?' :: s) =
      ⟨(splitServer before).1, (splitServer before).2, some (readOptions s)⟩ := by
  simp only [Parts.read, cutFirst?_append hmark]

theorem outward_of_edited {before s t : List Char} (hmark : '?' ∉ before) (h : Edited s t) :
    (read (linkText before s) overlay).map outward =
      (read (linkText before t) other).map outward := by
  have hscheme (options : List Char) := afterScheme?_linkText before options
  -- The mark is behind the scheme, so what stands before it decides whether the link has one.
  cases hbody : afterScheme? (.ofList before) with
  | none =>
    simp only [hbody, Option.map_none] at hscheme
    rw [read_of_no_scheme (hscheme s), read_of_no_scheme (hscheme t)]
  | some body =>
    simp only [hbody, Option.map_some] at hscheme
    have hbodyMark : '?' ∉ body := not_mem_of_afterScheme? hmark hbody
    apply outward_read (hscheme s) (hscheme t) <;>
      rw [parts_append hbodyMark, parts_append hbodyMark]
    · rfl
    · exact h.unrecognized_eq

theorem mem_forwarded_iff {before s : List Char} {p : Parameters} (hmark : '?' ∉ before)
    (hread : read (linkText before s) overlay = .ok p) (name value : String) :
    (name, value) ∈ p.forwarded ↔ lower name = name ∧
      (∀ r ∈ OptionName.recognized, sameIgnoringCase r name = false) ∧
      LastWritten name value s := by
  have hforwardable : Forwardable p.forwarded := (wellRead_of_read hread).forwardable
  have hlookup (hname : OptionName.isRecognized (lower name) = false) :
      p.forwarded.lookup (lower name) = lastValue? (lower name) (readOptions s) := by
    obtain ⟨body, hosts, hbody, -, -, rfl⟩ := read_eq_ok_iff.mp hread
    rw [afterScheme?_linkText] at hbody
    obtain ⟨body', hbody', rfl⟩ := Option.map_eq_some_iff.mp hbody
    rw [lookup_forwarded hname, parts_append (not_mem_of_afterScheme? hmark hbody')]
    rfl
  have hname : OptionName.isRecognized (lower name) = false ↔
      ∀ r ∈ OptionName.recognized, sameIgnoringCase r name = false := by
    simpa using not_congr (@isRecognized_iff name)
  have hnames : p.forwarded.Pairwise fun p q => p.1 ≠ q.1 := hforwardable.sorted.names_ne
  rw [← lookup_eq_some_iff_mem hnames, lastWritten_iff, ← hname]
  constructor
  · intro h
    have hmem := (lookup_eq_some_iff_mem hnames).mp h
    have hlower : lower name = name := hforwardable.lower (name, value) hmem
    have hdropped : OptionName.isRecognized (lower name) = false := by
      rw [hlower]
      exact hforwardable.unrecognized (name, value) hmem
    refine ⟨hlower, hdropped, ?_⟩
    rw [← hlookup hdropped, hlower, h]
  · rintro ⟨hlower, hdropped, h⟩
    rw [← h, ← hlookup hdropped, hlower]

/-- What is shown of a link stays the same however its recognized pairs are edited and whatever
lies over it: it is the last value of each other option. -/
theorem recognized_options_are_not_shown {before s t : List Char} (hmark : '?' ∉ before)
    (h : Edited s t) (overlay other : Overlay) :
    (read (linkText before s) overlay).map outward =
        (read (linkText before t) other).map outward ∧
      (∀ p, read (linkText before s) overlay = .ok p → ∀ name value,
        (name, value) ∈ p.forwarded ↔ lower name = name ∧
          (∀ r ∈ OptionName.recognized, sameIgnoringCase r name = false) ∧
          LastWritten name value s) ∧
      ∀ uri, (read uri overlay).map outward = (read uri other).map outward :=
  ⟨outward_of_edited hmark h, fun _ hread => mem_forwarded_iff hmark hread,
    fun uri => outward_of_other_overlay uri overlay other⟩

/-- A user becomes a password with an escape in its name, and encryption is added. -/
theorem escaped_password_is_not_shown :
    let before := "adbc:couchbase:h/b".toList
    let s := "user=u&a=1".toList
    let t := "P%61ssword=x&a=1;SSLENABLED=1".toList
    '?' ∉ before ∧ Edited s t ∧
      (∃ p, read (linkText before t) [("a", "9")] = .ok p ∧ p.password = some "x" ∧
        p.connectionString = "h?a=1") ∧
      (read (linkText before s) []).map outward =
        (read (linkText before t) [("a", "9")]).map outward := by
  intro before s t
  have hmark : '?' ∉ before := by decide +kernel
  have hpair (e : String) (name value : String) (hname : name ∈ OptionName.recognized)
      (h : readElement e.toList = some (lower name, value)) : IsRecognizedPair e.toList :=
    ⟨name, hname, value, isPair_iff.mpr h⟩
  have huser : IsRecognizedPair "user=u".toList :=
    hpair _ OptionName.user "u" (by decide) (by decide +kernel)
  have hpassword : IsRecognizedPair "P%61ssword=x".toList :=
    hpair _ OptionName.password "x" (by decide) (by decide +kernel)
  have hssl : IsRecognizedPair "SSLENABLED=1".toList :=
    hpair _ OptionName.sslEnabled "1" (by decide) (by decide +kernel)
  have hmiddle : HasElements ["P%61ssword=x".toList, "a=1".toList] "P%61ssword=x&a=1".toList :=
    .inl (elements_iff.mpr (by decide +kernel))
  have hchange : Edit s "P%61ssword=x&a=1".toList :=
    @Edit.change [] ["a=1".toList] _ _ _ _ huser hpassword
      (.inl (elements_iff.mpr (by decide +kernel))) hmiddle
  have hinsert : Edit "P%61ssword=x&a=1".toList t :=
    @Edit.insert ["P%61ssword=x".toList, "a=1".toList] [] _ _ _ hssl hmiddle
      (.inl (elements_iff.mpr (by decide +kernel)))
  have hedited : Edited s t := .tail (.single hchange) hinsert
  have hshown : (read (linkText before t) [("a", "9")]).toOption.map
      (fun p => (p.password, p.connectionString)) = some (some "x", "h?a=1") := by
    decide +kernel
  refine ⟨hmark, hedited, ?_, (recognized_options_are_not_shown hmark hedited _ _).1⟩
  cases hread : read (linkText before t) [("a", "9")] with
  | error e =>
    rw [hread] at hshown
    cases hshown
  | ok p =>
    rw [hread] at hshown
    exact ⟨p, rfl, Prod.mk.inj (Option.some.inj hshown)⟩

end Reading

end Parameters

end KeyspaceLink

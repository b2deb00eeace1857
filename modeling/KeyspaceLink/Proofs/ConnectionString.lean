import KeyspaceLink.Link.Parameters
import KeyspaceLink.Proofs.PercentEscapes
import Mathlib

/-! Connection strings: the host list and the forwarded options of a link, written so that
reading them gives the same link without its recognized options. -/

namespace KeyspaceLink

theorem lower_lower (s : String) : lower (lower s) = lower s := by
  simp [lower, Function.comp_def]

/-- Sorted by name, each name once. -/
def SortedByName (pairs : List (String × String)) : Prop :=
  pairs.Pairwise fun p q => p.1 < q.1

section Sorting

variable {name value : String} {pairs : List (String × String)} {p : String × String}

theorem mem_place (h : p ∈ place name value pairs) : p = (name, value) ∨ p ∈ pairs := by
  induction pairs with
  | nil => simpa [place] using h
  | cons q pairs ih =>
    rw [place] at h
    split at h
    · simp only [List.mem_cons] at h ⊢
      tauto
    split at h
    · simpa using h
    · simp only [List.mem_cons] at h ⊢
      tauto

theorem sortedByName_place (h : SortedByName pairs) : SortedByName (place name value pairs) := by
  induction pairs with
  | nil => exact List.pairwise_singleton _ _
  | cons q pairs ih =>
    obtain ⟨hq, hpairs⟩ := List.pairwise_cons.mp h
    rw [place]
    split
    · next heq => exact List.pairwise_cons.mpr ⟨fun p hp => eq_of_beq heq ▸ hq p hp, hpairs⟩
    split
    · next hlt =>
      refine List.pairwise_cons.mpr ⟨fun p hp => ?_, h⟩
      rcases List.mem_cons.mp hp with rfl | hp
      · exact hlt
      · exact String.lt_trans hlt (hq p hp)
    · next hne hlt =>
      refine List.pairwise_cons.mpr ⟨fun p hp => ?_, ih hpairs⟩
      rcases mem_place hp with rfl | hp
      · by_contra hle
        have heq : name = q.1 := String.le_antisymm (String.not_lt.mp hle) (String.not_lt.mp hlt)
        exact hne (beq_iff_eq.mpr heq)
      · exact hq p hp

/-- A name beyond all others goes to the end. -/
theorem place_of_lt (h : ∀ p ∈ pairs, p.1 < name) :
    place name value pairs = pairs ++ [(name, value)] := by
  induction pairs with
  | nil => rfl
  | cons q pairs ih =>
    have hq := h q List.mem_cons_self
    have hne : ¬ (name == q.1) = true := by
      intro heq
      rw [eq_of_beq heq] at hq
      exact String.lt_irrefl _ hq
    rw [place, if_neg hne, if_neg (String.lt_asymm hq), ih fun p hp => h p (List.mem_cons_of_mem q hp)]
    rfl

theorem SortedByName.names_ne (h : SortedByName pairs) : pairs.Pairwise fun p q => p.1 ≠ q.1 :=
  h.imp fun hlt => String.ne_of_lt hlt

theorem sortedByName_foldl_place (done : List (String × String)) (h : SortedByName done) :
    SortedByName (pairs.foldl (fun done p => place p.1 p.2 done) done) := by
  induction pairs generalizing done with
  | nil => exact h
  | cons q pairs ih => exact ih _ (sortedByName_place h)

theorem sortedByName_sorted (pairs : List (String × String)) : SortedByName (sorted pairs) :=
  sortedByName_foldl_place [] .nil

theorem mem_foldl_place {done : List (String × String)}
    (h : p ∈ pairs.foldl (fun done p => place p.1 p.2 done) done) : p ∈ done ∨ p ∈ pairs := by
  induction pairs generalizing done with
  | nil => exact .inl h
  | cons q pairs ih =>
    rcases ih h with h | h
    · rcases mem_place h with rfl | h
      · exact .inr List.mem_cons_self
      · exact .inl h
    · exact .inr (List.mem_cons_of_mem q h)

theorem mem_of_mem_sorted (h : p ∈ sorted pairs) : p ∈ pairs := by
  rcases mem_foldl_place h with h | h
  · cases h
  · exact h

theorem sorted_of_sortedByName (h : SortedByName pairs) : sorted pairs = pairs := by
  have hfold : ∀ done, SortedByName (done ++ pairs) →
      pairs.foldl (fun done p => place p.1 p.2 done) done = done ++ pairs := by
    clear h
    induction pairs with
    | nil => simp
    | cons q pairs ih =>
      intro done h
      have hlt : ∀ p ∈ done, p.1 < q.1 := fun p hp =>
        (List.pairwise_append.mp h).2.2 p hp q List.mem_cons_self
      rw [List.foldl_cons, place_of_lt hlt, ih]
      · simp
      · simpa using h
  exact hfold [] h

end Sorting

section Options

variable {pairs : List (String × String)}

theorem keepsPlain_keptInOption : KeepsPlain keptInOption := by
  intro b hb
  simp only [keptInOption, Bool.and_eq_true, decide_eq_true_eq, UInt8.le_iff_toNat_le,
    bne_iff_ne] at hb
  obtain ⟨⟨⟨⟨⟨⟨-, hhigh⟩, -⟩, hpercent⟩, -⟩, -⟩, -⟩ := hb
  exact ⟨Nat.lt_of_le_of_lt hhigh (by decide), hpercent⟩

theorem readComponent_escapeText (s : String) :
    readComponent (escapeText keptInOption s.toList) = s := by
  rw [readComponent, unescapeText_escapeText keepsPlain_keptInOption, String.ofList_toList]

/-- No mark of the options part stands in a component that is written out. -/
theorem separators_not_mem_escapeText (s : List Char) :
    '&' ∉ escapeText keptInOption s ∧ ';' ∉ escapeText keptInOption s ∧
      '=' ∉ escapeText keptInOption s :=
  ⟨not_mem_escapeText 38 (by decide) (by decide) s,
    not_mem_escapeText 59 (by decide) (by decide) s,
    not_mem_escapeText 61 (by decide) (by decide) s⟩

theorem writeOption_no_separator (p : String × String) :
    ∀ c ∈ writeOption p, (c == '&' || c == ';') = false := by
  intro c hc
  obtain ⟨hk1, hk2, -⟩ := separators_not_mem_escapeText p.1.toList
  obtain ⟨hv1, hv2, -⟩ := separators_not_mem_escapeText p.2.toList
  rw [Bool.or_eq_false_iff, beq_eq_false_iff_ne, beq_eq_false_iff_ne]
  rcases List.mem_append.mp hc with hc | hc
  · exact ⟨fun h => hk1 (h ▸ hc), fun h => hk2 (h ▸ hc)⟩
  rcases List.mem_cons.mp hc with rfl | hc
  · decide
  · exact ⟨fun h => hv1 (h ▸ hc), fun h => hv2 (h ▸ hc)⟩

theorem cutFirst?_writeOption (p : String × String) :
    cutFirst? '=' (writeOption p) =
      some (escapeText keptInOption p.1.toList, escapeText keptInOption p.2.toList) :=
  cutFirst?_append (separators_not_mem_escapeText p.1.toList).2.2 _

/-- Pairs whose names are in small letters are read back as they were written. -/
theorem readOptions_intercalate (h : ∀ p ∈ pairs, lower p.1 = p.1) :
    readOptions (List.intercalate ['&'] (pairs.map writeOption)) = pairs := by
  have hread : ∀ p ∈ pairs, (cutFirst? '=' (writeOption p)).map (fun q =>
      (lower (readComponent q.1), readComponent q.2)) = some p := by
    intro p hp
    simp [cutFirst?_writeOption, readComponent_escapeText, h p hp]
  cases pairs with
  | nil => rfl
  | cons q pairs =>
    rw [readOptions, pieces_intercalate (by decide) (by simp)]
    · rw [List.filterMap_map]
      exact (List.filterMap_congr hread).trans List.filterMap_some
    · intro s hs
      obtain ⟨p, -, rfl⟩ := List.mem_map.mp hs
      exact writeOption_no_separator p

theorem lower_of_mem_readOptions {s : List Char} {p : String × String} (h : p ∈ readOptions s) :
    lower p.1 = p.1 := by
  obtain ⟨element, -, he⟩ := List.mem_filterMap.mp h
  obtain ⟨q, -, rfl⟩ := Option.map_eq_some_iff.mp he
  exact lower_lower _

end Options

namespace Parameters

/-- What the text of a link after its scheme is made of. -/
structure Parts where
  hostText : List Char
  keyspace : Option (List Char)
  options : Option (List (String × String))

def Parts.read (body : List Char) : Parts :=
  let (server, options) := match cutFirst? '?' body with
    | some (server, options) => (server, some (readOptions options))
    | none => (body, none)
  ⟨(splitServer server).1, (splitServer server).2, options⟩

variable {uri : String} {overlay : Overlay} {p : Parameters} {body : List Char}

theorem read_of_body (h : afterScheme? uri = some body) :
    read uri overlay = (Host.readList (Parts.read body).hostText).bind fun hosts =>
      if hosts.isEmpty then .error (.malformed "URI does not contain any host")
      else .ok (resolve uri (Parts.read body).hostText hosts (Parts.read body).keyspace
        (Parts.read body).options overlay) := by
  simp only [read, h, Parts.read]
  cases cutFirst? '?' body <;> rfl

/-- A link is read if its hosts are, and has one host at least. -/
theorem read_eq_ok_iff :
    read uri overlay = .ok p ↔ ∃ body hosts, afterScheme? uri = some body ∧
      Host.readList (Parts.read body).hostText = .ok hosts ∧ hosts ≠ [] ∧
      p = resolve uri (Parts.read body).hostText hosts (Parts.read body).keyspace
        (Parts.read body).options overlay := by
  constructor
  · intro h
    cases hbody : afterScheme? uri with
    | none =>
      rw [read, hbody] at h
      cases h
    | some body =>
      rw [read_of_body hbody] at h
      cases hhosts : Host.readList (Parts.read body).hostText with
      | error e =>
        rw [hhosts] at h
        cases h
      | ok hosts =>
        rw [hhosts, Except.bind] at h
        split at h
        · cases h
        · next hne =>
          cases h
          exact ⟨body, hosts, rfl, hhosts, by simpa using hne, rfl⟩
  · rintro ⟨body, hosts, hbody, hhosts, hne, rfl⟩
    rw [read_of_body hbody, hhosts, Except.bind, if_neg (by simpa using hne)]

theorem afterScheme?_append (s : String) : afterScheme? (scheme ++ s) = some s.toList := by
  rw [afterScheme?, String.toList_append, dropStart?_append]
  rfl

section Marks

variable {server s hostText : List Char}

theorem takeWhile_of_not_mem {c : Char} (h : c ∉ s) : s.takeWhile (· != c) = s := by
  rw [List.takeWhile_eq_self_iff]
  intro d hd
  exact bne_iff_ne.mpr fun he => h (he ▸ hd)

theorem takeWhile_append_of_not_mem {c : Char} (h : c ∉ s) (r : List Char) :
    (s ++ c :: r).takeWhile (· != c) = s := by
  have hs : ∀ d ∈ s, (d != c) = true := fun d hd => bne_iff_ne.mpr fun he => h (he ▸ hd)
  rw [List.takeWhile_append_of_pos hs, List.takeWhile_cons_of_neg (by simp), List.append_nil]

/-- The hosts stand before the first question mark, and before the one slash there. -/
theorem hostText_marks (hslash : (body.takeWhile (· != '?')).count '/' ≤ 1) :
    '?' ∉ (Parts.read body).hostText ∧ '/' ∉ (Parts.read body).hostText := by
  have hserver : ∀ server : List Char, '?' ∉ server → server.count '/' ≤ 1 →
      '?' ∉ (splitServer server).1 ∧ '/' ∉ (splitServer server).1 := by
    intro server hmark hcount
    rw [splitServer]
    cases hcut : cutLast? '/' server with
    | none => exact ⟨hmark, cutLast?_eq_none_iff.mp hcut⟩
    | some cut =>
      have hsplit : server = cut.1 ++ '/' :: cut.2 := cutLast?_eq_some hcut
      rw [hsplit, List.count_append, List.count_cons_self] at hcount
      have hnone : cut.1.count '/' = 0 := by omega
      refine ⟨fun h => hmark ?_, List.count_eq_zero.mp hnone⟩
      rw [hsplit]
      exact List.mem_append_left _ h
  simp only [Parts.read]
  cases hcut : cutFirst? '?' body with
  | none =>
    have hnone := cutFirst?_eq_none_iff.mp hcut
    rw [takeWhile_of_not_mem hnone] at hslash
    exact hserver body hnone hslash
  | some cut =>
    have hmark : '?' ∉ cut.1 := not_mem_of_cutFirst? hcut
    have hsplit : body = cut.1 ++ '?' :: cut.2 := cutFirst?_eq_some hcut
    rw [hsplit, takeWhile_append_of_not_mem hmark] at hslash
    exact hserver cut.1 hmark hslash

theorem splitServer_of_not_mem (h : '/' ∉ server) : splitServer server = (server, none) := by
  rw [splitServer, cutLast?_eq_none_iff.mpr h]

theorem parts_of_hostText (hmark : '?' ∉ hostText) (hslash : '/' ∉ hostText) :
    Parts.read hostText = ⟨hostText, none, none⟩ := by
  simp only [Parts.read, cutFirst?_eq_none_iff.mpr hmark, splitServer_of_not_mem hslash]

theorem parts_of_options (hmark : '?' ∉ hostText) (hslash : '/' ∉ hostText) :
    Parts.read (hostText ++ '?' :: s) = ⟨hostText, none, some (readOptions s)⟩ := by
  simp only [Parts.read, cutFirst?_append hmark, splitServer_of_not_mem hslash]

end Marks

/-- What the forwarded options of every link are. -/
structure Forwardable (pairs : List (String × String)) : Prop where
  sorted : SortedByName pairs
  lower : ∀ p ∈ pairs, lower p.1 = p.1
  unrecognized : ∀ p ∈ pairs, OptionName.isRecognized p.1 = false

/-- Every recognized option has its default. -/
structure Unset (p : Parameters) : Prop where
  username : p.username = none
  password : p.password = none
  sslEnabled : p.sslEnabled = false
  verifyCertificate : p.verifyCertificate = true
  verifyHostnames : p.verifyHostnames = true
  defaultBucket : p.defaultBucket = none
  samplingSize : p.samplingSize = defaultSamplingSize
  scanConsistency : p.scanConsistency = .notBounded
  loggingLevel : p.loggingLevel = .severe
  loggingLevelGiven : p.loggingLevelGiven = false

section Resolving

variable {hostText : List Char} {hosts : List Host} {keyspace : Option (List Char)}
  {options : Option (List (String × String))} {pairs : List (String × String)}

theorem forwardable_resolve (h : ∀ pairs ∈ options, ∀ p ∈ pairs, lower p.1 = p.1) :
    Forwardable (resolve uri hostText hosts keyspace options overlay).forwarded := by
  have hmem : ∀ p ∈ (resolve uri hostText hosts keyspace options overlay).forwarded,
      p ∈ options.getD [] ∧ OptionName.isRecognized p.1 = false := by
    intro p hp
    simpa using mem_of_mem_sorted hp
  refine ⟨sortedByName_sorted _, fun p hp => ?_, fun p hp => (hmem p hp).2⟩
  cases options with
  | none => cases (hmem p hp).1
  | some pairs => exact h pairs rfl p (hmem p hp).1

theorem find?_of_unrecognized (h : ∀ p ∈ pairs, OptionName.isRecognized p.1 = false) {name : String}
    (hname : name ∈ OptionName.recognized) : Sources.find? ⟨[], pairs⟩ name = none := by
  have hlookup : pairs.reverse.lookup (lower name) = none := by
    rw [List.lookup_eq_none_iff]
    intro p hp
    rw [bne_iff_ne]
    intro he
    have hrecognized : OptionName.isRecognized p.1 = true :=
      List.any_eq_true.mpr ⟨name, hname, beq_iff_eq.mpr he⟩
    rw [h p (List.mem_reverse.mp hp)] at hrecognized
    cases hrecognized
  exact hlookup

theorem unset_resolve (h : ∀ p ∈ options.getD [], OptionName.isRecognized p.1 = false) :
    Unset (resolve uri hostText hosts none options []) := by
  have hfind : ∀ name ∈ OptionName.recognized,
      Sources.find? ⟨[], options.getD []⟩ name = none := fun name => find?_of_unrecognized h
  simp only [OptionName.recognized, List.forall_mem_cons] at hfind
  obtain ⟨h1, h2, h3, h4, h5, h6, h7, h8, h9, -⟩ := hfind
  constructor <;> simp only [resolve, h1, h2, h3, h4, h5, h6, h7, h8, h9] <;> rfl

theorem forwarded_resolve (h : Forwardable (options.getD [])) :
    (resolve uri hostText hosts keyspace options overlay).forwarded = options.getD [] := by
  have hall : (options.getD []).filter (fun p => !OptionName.isRecognized p.1) = options.getD [] :=
    List.filter_eq_self.mpr fun p hp => by rw [h.unrecognized p hp]; rfl
  exact (congrArg KeyspaceLink.sorted hall).trans (sorted_of_sortedByName h.sorted)

end Resolving

theorem connectionString_congr {p q : Parameters} (hoptions : q.hasOptions = p.hasOptions)
    (hhost : q.hostText = p.hostText) (hforward : q.forwarded = p.forwarded) :
    q.connectionString = p.connectionString := by
  rw [connectionString, connectionString, hoptions, hhost, hforward]

/-- What holds of a link however it was read. -/
structure WellRead (p : Parameters) : Prop where
  hosts : Host.readList p.hostText.toList = .ok p.hosts
  hosts_ne_nil : p.hosts ≠ []
  forwardable : Forwardable p.forwarded
  forwarded_eq_nil : p.hasOptions = false → p.forwarded = []
  timeouts : p.timeouts = readTimeouts p.forwarded

theorem lower_of_parts : ∀ pairs ∈ (Parts.read body).options, ∀ p ∈ pairs, lower p.1 = p.1 := by
  intro pairs hpairs p hp
  simp only [Parts.read] at hpairs
  cases hcut : cutFirst? '?' body with
  | none =>
    simp only [hcut] at hpairs
    cases hpairs
  | some cut =>
    simp only [hcut] at hpairs
    cases hpairs
    exact lower_of_mem_readOptions hp

theorem wellRead_of_read (h : read uri overlay = .ok p) : WellRead p := by
  obtain ⟨body, hosts, -, hhosts, hne, rfl⟩ := read_eq_ok_iff.mp h
  refine ⟨?_, hne, forwardable_resolve lower_of_parts, fun hnone => ?_, rfl⟩
  · exact (congrArg Host.readList String.toList_ofList).trans hhosts
  · have hoptions : (Parts.read body).options = none :=
      Option.isNone_iff_eq_none.mp (Option.isSome_eq_false_iff.mp hnone)
    rw [hoptions]
    rfl

/-- The options part that a connection string has. -/
def writtenOptions (p : Parameters) : Option (List (String × String)) :=
  if p.hasOptions then some p.forwarded else none

theorem WellRead.writtenOptions_getD (h : WellRead p) : p.writtenOptions.getD [] = p.forwarded := by
  rw [writtenOptions]
  split
  · rfl
  · next hnone => exact (h.forwarded_eq_nil (by simpa using hnone)).symm

theorem WellRead.parts (h : WellRead p) (hmark : '?' ∉ p.hostText.toList)
    (hslash : '/' ∉ p.hostText.toList) :
    Parts.read p.connectionString.toList = ⟨p.hostText.toList, none, p.writtenOptions⟩ := by
  rw [connectionString, writtenOptions]
  split
  · rw [String.toList_ofList, parts_of_options hmark hslash,
      readOptions_intercalate h.forwardable.lower]
  · exact parts_of_hostText hmark hslash

theorem WellRead.reread (h : WellRead p) (hmark : '?' ∉ p.hostText.toList)
    (hslash : '/' ∉ p.hostText.toList) :
    read (scheme ++ p.connectionString) [] =
      .ok (resolve (scheme ++ p.connectionString) p.hostText.toList p.hosts none
        p.writtenOptions []) := by
  rw [read_eq_ok_iff]
  refine ⟨_, p.hosts, afterScheme?_append _, ?_, h.hosts_ne_nil, ?_⟩
  · rw [h.parts hmark hslash, h.hosts]
  · rw [h.parts hmark hslash]

/-- Reading a connection string gives the link back but for its recognized options and its
keyspace, and writing that gives the same connection string. -/
theorem read_connectionString (hread : read uri overlay = .ok p)
    (hbody : afterScheme? uri = some body)
    (hslash : (body.takeWhile (· != '?')).count '/' ≤ 1) :
    ∃ q, read (scheme ++ p.connectionString) [] = .ok q ∧
      q.hostText = p.hostText ∧ q.hosts = p.hosts ∧ q.forwarded = p.forwarded ∧
      q.timeouts = p.timeouts ∧ Unset q ∧
      q.connectionString = p.connectionString ∧ SortedByName p.forwarded := by
  have hp : WellRead p := wellRead_of_read hread
  obtain ⟨hmark, hslash⟩ : '?' ∉ p.hostText.toList ∧ '/' ∉ p.hostText.toList := by
    obtain ⟨body', hosts, hbody', -, -, rfl⟩ := read_eq_ok_iff.mp hread
    obtain rfl : body = body' := Option.some.inj (hbody.symm.trans hbody')
    simpa only [resolve, String.toList_ofList] using hostText_marks hslash
  have hforward : (resolve (scheme ++ p.connectionString) p.hostText.toList p.hosts none
      p.writtenOptions []).forwarded = p.forwarded := by
    rw [forwarded_resolve, hp.writtenOptions_getD]
    rw [hp.writtenOptions_getD]
    exact hp.forwardable
  have hhost : String.ofList p.hostText.toList = p.hostText := String.ofList_toList
  refine ⟨_, hp.reread hmark hslash, hhost, rfl, hforward, ?_, ?_, ?_,
    hp.forwardable.sorted⟩
  · exact (congrArg readTimeouts hforward).trans hp.timeouts.symm
  · apply unset_resolve
    rw [hp.writtenOptions_getD]
    exact hp.forwardable.unrecognized
  · refine connectionString_congr ?_ hhost hforward
    simp only [resolve, writtenOptions]
    cases p.hasOptions <;> rfl

/-- A separator, a letter beyond ASCII, an octet that is no text and a slash within options. -/
theorem read_connectionString_of_escapes :
    ∃ p, read "jdbc:couchbase:h,[::1]:80/b?A%3D=%3f%26;user=u&a%3d=é%ff /?" [] = .ok p ∧
      p.connectionString = "h,[::1]:80?a%3D=%C3%A9%EF%BF%BD%20/?" ∧
      ∃ q, read (scheme ++ p.connectionString) [] = .ok q ∧
        q.hostText = p.hostText ∧ q.hosts = p.hosts ∧ q.forwarded = p.forwarded ∧
        q.timeouts = p.timeouts ∧ Unset q ∧
        q.connectionString = p.connectionString ∧ SortedByName p.forwarded := by
  let uri := "jdbc:couchbase:h,[::1]:80/b?A%3D=%3f%26;user=u&a%3d=é%ff /?"
  let p : Parameters :=
    { uri
      hostText := "h,[::1]:80"
      hosts := [⟨"h", none⟩, ⟨"::1", some 80⟩]
      username := some "u"
      password := none
      sslEnabled := false
      verifyCertificate := true
      verifyHostnames := true
      defaultBucket := some "b"
      scanConsistency := .notBounded
      samplingSize := 1000
      loggingLevel := .severe
      loggingLevelGiven := false
      hasOptions := true
      forwarded := [("a=", "é\ufffd /?")]
      timeouts := ⟨none, none, none⟩ }
  have hread : read uri [] = .ok p := by decide +kernel
  have hbody : afterScheme? uri = some "h,[::1]:80/b?A%3D=%3f%26;user=u&a%3d=é%ff /?".toList := by
    decide +kernel
  exact ⟨p, hread, by decide +kernel, read_connectionString hread hbody (by decide +kernel)⟩

end Parameters

end KeyspaceLink

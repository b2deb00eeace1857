import KeyspaceLink.Proofs.CommandDispatch
import KeyspaceLink.Proofs.Delivery
import KeyspaceLink.Proofs.Readiness
import KeyspaceLink.Proofs.ServerPaths

/-! Where the requests of a command go. The segment written for a bucket reads back as its name
and stays where it is put, unless the name is all dots: those are taken out of a path, escaped or
not. -/

namespace KeyspaceLink

open Plan Url

/-- A segment of a path that reads back as a name. -/
structure OwnSegment (name segment : String) : Prop where
  not_empty : segment ≠ ""
  one_segment : '/' ∉ segment.toList
  reads_back : unescapeText segment.toList = name.toList

/-- The place of a bucket, or a place within it, below all buckets. -/
def bucketPlace (segment : String) (within : List String) : List String :=
  ["pools", "default", "buckets", segment] ++ within

section Segments

variable {s r : List Char} {name : String}

/-- Letters, digits, three marks and the sign of an escape. -/
def SegmentCharacter (c : Char) : Prop :=
  c.toNat = 37 ∨ c.toNat = 45 ∨ c.toNat = 46 ∨ 48 ≤ c.toNat ∧ c.toNat ≤ 57 ∨
    65 ≤ c.toNat ∧ c.toNat ≤ 90 ∨ c.toNat = 95 ∨ 97 ≤ c.toNat ∧ c.toNat ≤ 122

theorem keptInSegment_iff {b : UInt8} : keptInSegment b = true ↔
    48 ≤ b.toNat ∧ b.toNat ≤ 57 ∨ 65 ≤ b.toNat ∧ b.toNat ≤ 90 ∨ 97 ≤ b.toNat ∧ b.toNat ≤ 122 ∨
      b.toNat = 45 ∨ b.toNat = 46 ∨ b.toNat = 95 := by
  simp [keptInSegment, isAlphanumericOctet, UInt8.le_iff_toNat_le, ← UInt8.toNat_inj, or_assoc]

theorem keepsPlain_keptInSegment : KeepsPlain keptInSegment := by
  intro b h
  have h := keptInSegment_iff.mp h
  refine ⟨by omega, ?_⟩
  rintro rfl
  revert h
  decide

theorem segmentCharacter_of_mem {c : Char} (h : c ∈ escapeText keptInSegment s) :
    SegmentCharacter c := by
  obtain ⟨b, -, hb⟩ := List.mem_flatMap.mp h
  have hlt : b.toNat < 256 := b.toNat_lt
  have hhex : ∀ n < 16, SegmentCharacter (upperHex n) := by
    unfold SegmentCharacter
    decide
  rw [escapeOctet] at hb
  split at hb
  · next hkept =>
    have hkept := keptInSegment_iff.mp hkept
    have hnat := congrArg Char.toNat (List.mem_singleton.mp hb)
    rw [toNat_ofNat_octet] at hnat
    unfold SegmentCharacter
    omega
  · simp only [List.mem_cons, List.not_mem_nil, or_false] at hb
    rcases hb with rfl | rfl | rfl
    · exact .inl rfl
    · exact hhex _ (by omega)
    · exact hhex _ (by omega)

theorem SegmentCharacter.kept {c : Char} (h : SegmentCharacter c) :
    c.toNat < 128 ∧ keptInPath (UInt8.ofNat c.toNat) = true ∧ isSlash c = false := by
  have hlt : c.toNat < 128 := by
    unfold SegmentCharacter at h
    omega
  have hnat : (UInt8.ofNat c.toNat).toNat = c.toNat := toNat_octet (by omega)
  have hne : ∀ d ∈ ['/', '\\', '"', '<', '>', '\x60', '#', '?', '\x7b', '\x7d'], c ≠ d := by
    rintro d hd rfl
    unfold SegmentCharacter at h
    fin_cases hd <;> revert h <;> decide
  have hrange : 32 < c.toNat ∧ c.toNat < 127 := by
    unfold SegmentCharacter at h
    omega
  simp only [List.mem_cons, List.not_mem_nil, or_false, forall_eq_or_imp, forall_eq] at hne
  refine ⟨hlt, ?_, ?_⟩
  · simp [keptInPath, Url.kept, UInt8.lt_iff_toNat_lt, hnat, hrange, hne]
  · simp [isSlash, hne]

theorem eq_of_toLower {c d : Char} (hd : d.isAlpha = false) (h : c.toLower = d) : c = d := by
  have halpha : c.isAlpha = false := by rw [← Char.isAlpha_toLower_eq_isAlpha, h, hd]
  have hupper : ¬ c.isUpper = true := by
    intro hupper
    rw [Char.isAlpha, hupper] at halpha
    cases halpha
  rw [← h, Char.toLower_eq_of_not_isUpper hupper]

/-- A dot, plain or escaped, in any case. -/
theorem unescapeOctets_dot {dot : List Char} (hdot : dot ∈ [['.'], ['%', '2', 'e']])
    (h : s.map Char.toLower = dot ++ r) :
    ∃ s', unescapeOctets s = 46 :: unescapeOctets s' ∧ s'.map Char.toLower = r := by
  rcases List.mem_pair.mp hdot with rfl | rfl
  · obtain ⟨c, s', rfl, hc, hs'⟩ := List.map_eq_cons_iff.mp h
    obtain rfl := eq_of_toLower (by decide) hc
    exact ⟨s', unescapeOctets_cons (by decide) s', hs'⟩
  · obtain ⟨c, s₁, rfl, hc, h⟩ := List.map_eq_cons_iff.mp h
    obtain ⟨d, s₂, rfl, hd, h⟩ := List.map_eq_cons_iff.mp h
    obtain ⟨e, s', rfl, he, hs'⟩ := List.map_eq_cons_iff.mp h
    obtain rfl := eq_of_toLower (by decide) hc
    obtain rfl := eq_of_toLower (by decide) hd
    refine ⟨s', ?_, hs'⟩
    rcases (Grammar.toLower_eq_iff (by decide)).mp he with rfl | rfl
    · rfl
    · rfl

theorem unescapeText_of_isOneDot (h : isOneDot s = true) : unescapeText s = ['.'] := by
  have hlower : ∃ dot ∈ [['.'], ['%', '2', 'e']], s.map Char.toLower = dot ++ [] := by
    simpa [isOneDot, lower, ← String.toList_inj] using h
  obtain ⟨dot, hdot, hs⟩ := hlower
  obtain ⟨s', hoctets, hs'⟩ := unescapeOctets_dot hdot hs
  rw [unescapeText, hoctets, List.map_eq_nil_iff.mp hs']
  rfl

theorem unescapeText_of_isTwoDots (h : isTwoDots s = true) : unescapeText s = ['.', '.'] := by
  have hlower : ∃ first ∈ [['.'], ['%', '2', 'e']], ∃ second ∈ [['.'], ['%', '2', 'e']],
      s.map Char.toLower = first ++ (second ++ []) := by
    simpa [isTwoDots, lower, ← String.toList_inj, or_assoc] using h
  obtain ⟨first, hfirst, second, hsecond, hs⟩ := hlower
  obtain ⟨s₁, hoctets, hs₁⟩ := unescapeOctets_dot hfirst hs
  obtain ⟨s₂, hoctets', hs₂⟩ := unescapeOctets_dot hsecond hs₁
  rw [unescapeText, hoctets, hoctets', List.map_eq_nil_iff.mp hs₂]
  rfl

theorem plainSegment_pathSegment (h : name ≠ ".") (h' : name ≠ "..") :
    PlainSegment (escapeText keptInSegment name.toList) := by
  have hname : unescapeText (escapeText keptInSegment name.toList) = name.toList :=
    unescapeText_escapeText keepsPlain_keptInSegment _
  refine ⟨fun c hc => (segmentCharacter_of_mem hc).kept, ?_, ?_⟩
  -- a segment that is taken for a dot reads back as one, and what is written reads back as the name
  · by_contra hdot
    rw [Bool.not_eq_false] at hdot
    rw [unescapeText_of_isOneDot hdot] at hname
    exact h (String.toList_inj.mp hname.symm)
  · by_contra hdots
    rw [Bool.not_eq_false] at hdots
    rw [unescapeText_of_isTwoDots hdots] at hname
    exact h' (String.toList_inj.mp hname.symm)

theorem ownSegment_pathSegment (h : name ≠ "") : OwnSegment name (pathSegment name) := by
  have hback : unescapeText (pathSegment name).toList = name.toList := by
    rw [pathSegment, String.toList_ofList, unescapeText_escapeText keepsPlain_keptInSegment]
  refine ⟨?_, ?_, hback⟩
  · intro hempty
    rw [hempty] at hback
    exact h (String.toList_inj.mp hback.symm)
  · intro hslash
    rw [pathSegment, String.toList_ofList] at hslash
    have hkept := (segmentCharacter_of_mem hslash).kept
    exact absurd hkept.2.2 (by decide)

theorem OwnSegment.name_eq {other segment : String} (h : OwnSegment name segment)
    (h' : OwnSegment other segment) : name = other :=
  String.toList_inj.mp (h.reads_back.symm.trans h'.reads_back)

end Segments

section Paths

variable {name : String}

theorem plainSegment_word {p : List Char} (h : p ∈ [['p', 'o', 'o', 'l', 's'],
    ['d', 'e', 'f', 'a', 'u', 'l', 't'], ['b', 'u', 'c', 'k', 'e', 't', 's'],
    ['d', 'o', 'c', 's'], ['i', 'n', 'd', 'e', 'x', 'S', 't', 'a', 't', 'u', 's']]) :
    PlainSegment p := by
  have hletters : ∀ c ∈ p, SegmentCharacter c := by
    unfold SegmentCharacter
    fin_cases h <;> simp
  refine ⟨fun c hc => (hletters c hc).kept, ?_, ?_⟩
  · fin_cases h <;> decide +kernel
  · fin_cases h <;> decide +kernel

theorem leadsTo_indexStatus : LeadsTo "/indexStatus" ["indexStatus"] := by
  have h := leadsTo_names [['i', 'n', 'd', 'e', 'x', 'S', 't', 'a', 't', 'u', 's']] none
    (by simp) (by simp [plainSegment_word]) (by simp)
  exact h

theorem leadsTo_buckets : LeadsTo "/pools/default/buckets" ["pools", "default", "buckets"] := by
  have h := leadsTo_names [['p', 'o', 'o', 'l', 's'], ['d', 'e', 'f', 'a', 'u', 'l', 't'],
    ['b', 'u', 'c', 'k', 'e', 't', 's']] none (by simp) (by simp [plainSegment_word]) (by simp)
  exact h

/-- The words before the name of a bucket, the name, and what is asked of it. -/
def bucketNames (name : String) (within : List (List Char)) : List (List Char) :=
  ['p', 'o', 'o', 'l', 's'] :: ['d', 'e', 'f', 'a', 'u', 'l', 't'] ::
    ['b', 'u', 'c', 'k', 'e', 't', 's'] :: escapeText keptInSegment name.toList :: within

theorem plainSegment_bucketNames {within : List (List Char)} (h : name ≠ ".") (h' : name ≠ "..")
    (hwithin : ∀ p ∈ within, PlainSegment p) : ∀ p ∈ bucketNames name within, PlainSegment p := by
  intro p hp
  simp only [bucketNames, List.mem_cons] at hp
  rcases hp with rfl | rfl | rfl | rfl | hp
  · exact plainSegment_word (by simp)
  · exact plainSegment_word (by simp)
  · exact plainSegment_word (by simp)
  · exact plainSegment_pathSegment h h'
  · exact hwithin p hp

theorem bucketPath_toList (name : String) :
    (bucketPath name).toList = '/' :: List.intercalate ['/'] (bucketNames name []) := by
  have hbefore : "/pools/default/buckets/".toList = ['/', 'p', 'o', 'o', 'l', 's', '/', 'd', 'e',
      'f', 'a', 'u', 'l', 't', '/', 'b', 'u', 'c', 'k', 'e', 't', 's', '/'] := by
    decide +kernel
  unfold bucketPath
  simp only [String.toList_append, pathSegment, String.toList_ofList, hbefore, bucketNames,
    List.intercalate_cons_cons, List.intercalate_singleton, List.cons_append, List.nil_append]

theorem leadsTo_bucketPath (h : name ≠ ".") (h' : name ≠ "..") :
    LeadsTo (bucketPath name) (bucketPlace (pathSegment name) []) := by
  have hleads := leadsTo_names (bucketNames name []) none (List.cons_ne_nil _ _)
    (plainSegment_bucketNames h h' (List.forall_mem_nil _)) (by simp)
  have htext : String.ofList (rest ('/' :: List.intercalate ['/'] (bucketNames name [])) none) =
      bucketPath name := by
    rw [rest, ← bucketPath_toList, String.ofList_toList]
  rw [← htext]
  exact hleads

theorem visible_toString (n : Nat) : ∀ c ∈ (toString n).toList, 0x20 < c.toNat ∧ c ≠ '#' := by
  intro c hc
  have hdigit := isDigit_of_mem_toString hc
  have hrange := Grammar.NameCharacter.toNat (.inr (.inl hdigit))
  refine ⟨by omega, ?_⟩
  rintro rfl
  revert hdigit
  decide

def boundText (what : String) : Option Nat → String
  | some n => what ++ toString n
  | none => ""

theorem visible_boundText (what : String) (hwhat : ∀ c ∈ what.toList, 0x20 < c.toNat ∧ c ≠ '#')
    (n : Option Nat) : ∀ c ∈ (boundText what n).toList, 0x20 < c.toNat ∧ c ≠ '#' := by
  intro c hc
  cases n with
  | none => simp [boundText] at hc
  | some n =>
    rw [boundText, String.toList_append, List.mem_append] at hc
    exact hc.elim (hwhat c) (visible_toString n c)

theorem keysPath_eq (c : GetKeys) : c.path =
    docsPath c.table.name ++ boundText "&limit=" c.limit ++ boundText "&skip=" c.offset := by
  unfold GetKeys.path
  cases c.limit <;> cases c.offset <;> rfl

theorem keysPath_toList (c : GetKeys) : ∃ query, (∀ d ∈ query, 0x20 < d.toNat ∧ d ≠ '#') ∧
    c.path.toList = rest
      ('/' :: List.intercalate ['/'] (bucketNames c.table.name [['d', 'o', 'c', 's']]))
      (some query) := by
  have hnames : List.intercalate ['/'] (bucketNames c.table.name [['d', 'o', 'c', 's']]) =
      List.intercalate ['/'] (bucketNames c.table.name []) ++ ['/', 'd', 'o', 'c', 's'] := by
    simp only [bucketNames, List.intercalate_cons_cons, List.intercalate_singleton,
      List.append_assoc, List.cons_append, List.nil_append]
  have hdocs : "/docs?include_docs=false".toList =
      ['/', 'd', 'o', 'c', 's'] ++ '?' :: "include_docs=false".toList := by
    decide +kernel
  have hlimit := visible_boundText "&limit=" (by simp) c.limit
  have hskip := visible_boundText "&skip=" (by simp) c.offset
  refine ⟨"include_docs=false".toList ++ ((boundText "&limit=" c.limit).toList ++
    (boundText "&skip=" c.offset).toList), ?_, ?_⟩
  · simp only [List.forall_mem_append]
    exact ⟨by simp, hlimit, hskip⟩
  · rw [keysPath_eq]
    unfold docsPath
    simp only [String.toList_append, bucketPath_toList, hnames, hdocs, rest, List.append_assoc,
      List.cons_append, List.nil_append]

theorem leadsTo_keysPath (c : GetKeys) (h : c.table.name ≠ ".") (h' : c.table.name ≠ "..") :
    LeadsTo c.path (bucketPlace (pathSegment c.table.name) ["docs"]) := by
  obtain ⟨query, hquery, htext⟩ := keysPath_toList c
  have hdocs : ∀ p ∈ [['d', 'o', 'c', 's']], PlainSegment p := by simp [plainSegment_word]
  have hleads := leadsTo_names _ (some query) (List.cons_ne_nil _ _)
    (plainSegment_bucketNames h h' hdocs) (by simpa using hquery)
  have htext : String.ofList (rest ('/' :: List.intercalate ['/']
      (bucketNames c.table.name [['d', 'o', 'c', 's']])) (some query)) = c.path := by
    rw [← htext, String.ofList_toList]
  rw [← htext]
  exact hleads

theorem leadsTo_docsPath (h : name ≠ ".") (h' : name ≠ "..") :
    LeadsTo (docsPath name) (bucketPlace (pathSegment name) ["docs"]) := by
  have hkeys := leadsTo_keysPath ⟨⟨none, name⟩, none, none⟩ h h'
  rwa [keysPath_eq, boundText, boundText, String.append_empty, String.append_empty] at hkeys

end Paths

/-- The request of a command for its own bucket. -/
def Command.ownRequest? : Command → Option ManagerRequest
  | createBucket c => some (.get (docsPath c.table.name))
  | dropBucket c => some (.delete (bucketPath c.table.name))
  | describeBucket c => some (.get (bucketPath c.table.name))
  | describeIndexes => none
  | getKeys c => some (.get c.path)

/-- Where in its bucket a command looks. -/
def Command.within : Command → List String
  | createBucket _ | getKeys _ => ["docs"]
  | dropBucket _ | describeBucket _ | describeIndexes => []

/-- What a command calls for. -/
inductive Command.Calls (c : Command) : ClusterCall → Prop
  | query (statement : String) (options : QueryOptions) : Calls c (.query statement options)
  | indexes : Calls c (.manage (.get "/indexStatus"))
  | creation (hkind : c.kind = .createBucket) (form : List (String × String)) :
      Calls c (.manage (.post "/pools/default/buckets" form))
  | own {r : ManagerRequest} (hr : c.ownRequest? = some r) : Calls c (.manage r)

section Calls

theorem asks_fetch {P : ClusterCall → Prop} (h : P (.manage (.get "/indexStatus"))) :
    IndexStatus.fetch.Asks P := by
  refine (asks_manage h).bind fun reply => (AsksOr.ofExcept _).bind fun reply => ?_
  split <;> constructor

theorem DescribeBucket.asks_calls (session : Session) (c : DescribeBucket) :
    (c.execute session).Asks (Command.describeBucket c).Calls := by
  unfold execute
  split
  · refine (asks_manage (.own rfl)).bind fun reply => ?_
    split
    · constructor
    · refine (AsksOr.ofExcept _).bind fun reply => (AsksOr.ofExcept _).bind fun v => ?_
      exact (AsksOr.ofExcept _).bind fun settings => .done _
  · refine ((session.asks_sample _).mono fun call hcall => ?_).bind fun _ => .done _
    cases call with
    | query statement options => exact .query statement options
    | manage request => exact hcall.elim

theorem GetKeys.asks_calls (c : GetKeys) : c.execute.Asks (Command.getKeys c).Calls := by
  unfold execute
  split
  · constructor
  · refine (asks_manage (.own rfl)).bind fun reply => ?_
    split
    · constructor
    · split
      · constructor
      · refine (AsksOr.ofExcept _).bind fun body => ?_
        split <;> constructor

theorem DropBucket.asks_calls (c : DropBucket) : c.execute.Asks (Command.dropBucket c).Calls := by
  have hgone : (IndexStatus.probePrimaryGone c.table.name).Asks (Command.dropBucket c).Calls := by
    refine (asks_fetch .indexes).bind fun status => ?_
    split <;> constructor
  have hdelete : ((ClusterPlan.manage (.delete (bucketPath c.table.name))).bind fun reply =>
      if (reply.status == 404) = true then .done .done
      else (Plan.ofExcept (reply.require ("Dropping bucket " ++ c.table.name))).bind fun _ =>
        (waitFor indexGoneTimeout "A requested index"
          (IndexStatus.probePrimaryGone c.table.name)).bind fun _ =>
            (.done Outcome.done : ClusterPlan Outcome)).Asks (Command.dropBucket c).Calls := by
    refine (asks_manage (.own rfl)).bind fun reply => ?_
    split
    · constructor
    · exact (AsksOr.ofExcept _).bind fun _ => (asks_waitFrom hgone 0 0).bind fun _ => .done _
  unfold execute
  split
  · constructor
  · refine (asks_query (.query _ _)).attempt.bind fun dropped => ?_
    cases dropped with
    | ok reply => exact hdelete
    | error e =>
      dsimp only
      split
      · exact hdelete
      · constructor

theorem CreateBucket.asks_calls (c : CreateBucket) :
    c.execute.Asks (Command.createBucket c).Calls := by
  have hpost : ∀ settings, (post settings).Asks (Command.createBucket c).Calls := by
    intro settings
    refine (asks_manage (.creation rfl _)).bind fun reply => ?_
    split <;> constructor
  have hindex : (probeIndex c.table).Asks (Command.createBucket c).Calls := by
    refine (asks_query (.query _ _)).attempt.bind fun created => ?_
    cases created with
    | ok reply => constructor
    | error e =>
      dsimp only
      split <;> constructor
  have hready :
      (IndexStatus.probePrimaryReady c.table.name).Asks (Command.createBucket c).Calls := by
    refine (asks_fetch .indexes).bind fun status => ?_
    split
    · constructor
    · split <;> constructor
  have hbucket : (probeBucket c.table.name).Asks (Command.createBucket c).Calls := by
    refine (asks_manage (.own rfl)).bind fun reply => ?_
    split <;> constructor
  unfold execute
  split
  · constructor
  · refine (AsksOr.ofExcept _).bind fun settings => (hpost settings).bind fun _ => ?_
    split
    · refine (asks_waitFrom hindex 0 0).bind fun _ => ?_
      exact (asks_waitFrom hready 0 0).bind fun _ => .done _
    · split
      · exact (asks_waitFrom hbucket 0 0).bind fun _ => .done _
      · constructor

theorem Command.asks_calls (session : Session) (c : Command) :
    (c.execute session).Asks c.Calls := by
  cases c with
  | createBucket c => exact c.asks_calls
  | dropBucket c => exact c.asks_calls
  | describeBucket c => exact c.asks_calls session
  | describeIndexes => exact (asks_fetch .indexes).bind fun status => .done _
  | getKeys c => exact c.asks_calls

end Calls

/-- The address is that of a server with the path of these segments. -/
def StandsOn (base : String) (names : List String) (url : Url) : Prop :=
  ∃ (u : Url) (query : Option String), read? base = some u ∧
    url = ({ u with path := .segments names, query } : Url).withoutUser

/-- What a command sends, and where. -/
inductive Command.Sends (c : Command) (client : RestClient) (name : String) (r : HttpRequest) :
    Prop
  | query {u : Url} (hread : read? (client.queryBase ++ "/query/service") = some u)
      (hurl : r.url = u.withoutUser) (hmethod : r.method = .post) : Sends c client name r
  | indexes (hurl : StandsOn client.managerBase ["indexStatus"] r.url) (hmethod : r.method = .get) :
      Sends c client name r
  | creation (hkind : c.kind = .createBucket)
      (hurl : StandsOn client.managerBase ["pools", "default", "buckets"] r.url)
      (hmethod : r.method = .post) : Sends c client name r
  | own {segment : String} (hsegment : OwnSegment name segment)
      (hurl : StandsOn client.managerBase (bucketPlace segment c.within) r.url)
      (hmethod : ∃ own, c.ownRequest? = some own ∧ r.method = own.method) : Sends c client name r

section Sending

variable {client : RestClient} {c : Command} {table : Keyspace} {r : HttpRequest} {path : String}
  {names names' : List String} {base base' : String} {url : Url}

theorem url_of_request {http : HttpClient} {method : Method} {content : Option (String × String)}
    {text : String} (h : http.request method text content = .ok r) :
    ∃ u, read? text = some u ∧ r.url = u.withoutUser := by
  unfold HttpClient.request at h
  split at h
  · cases h
  · next u hu =>
    split at h <;> cases h
    exact ⟨u, hu, rfl⟩

theorem standsOn_of_request {method : Method} {content : Option (String × String)}
    (hbase : IsServer client.managerBase) (hpath : LeadsTo path names)
    (h : client.http.request method (client.managerBase ++ path) content = .ok r) :
    StandsOn client.managerBase names r.url := by
  obtain ⟨u, hu, hurl⟩ := url_of_request h
  obtain ⟨query, hread⟩ := hpath _ hbase
  obtain ⟨u₀, hu₀, rfl⟩ := Option.map_eq_some_iff.mp (hread.symm.trans hu)
  exact ⟨u₀, query, hu₀, hurl⟩

theorem StandsOn.names_eq (h : StandsOn base names url) (h' : StandsOn base' names' url) :
    names = names' := by
  obtain ⟨u, query, -, rfl⟩ := h
  obtain ⟨u', query', -, heq⟩ := h'
  exact Path.segments.inj (congrArg Url.path heq)

theorem leadsTo_own {own : ManagerRequest} (hown : c.ownRequest? = some own)
    (htable : c.table? = some table) (hdot : table.name ≠ ".") (hdots : table.name ≠ "..") :
    LeadsTo own.path (bucketPlace (pathSegment table.name) c.within) := by
  cases c with
  | createBucket c =>
    cases hown
    cases htable
    exact leadsTo_docsPath hdot hdots
  | dropBucket c =>
    cases hown
    cases htable
    exact leadsTo_bucketPath hdot hdots
  | describeBucket c =>
    cases hown
    cases htable
    exact leadsTo_bucketPath hdot hdots
  | describeIndexes => cases hown
  | getKeys c =>
    cases hown
    cases htable
    exact leadsTo_keysPath c hdot hdots

theorem asks_manage_on {m : ManagerRequest} (hbase : IsServer client.managerBase)
    (hpath : LeadsTo m.path names) : (client.manage m).AsksOr client.http.Overflows fun r =>
      StandsOn client.managerBase names r.url ∧ r.method = m.method := by
  unfold RestClient.manage
  refine ((asks_send _ _ _).mono fun r hr => ?_).bind fun reply => .done _
  exact ⟨standsOn_of_request hbase hpath hr, method_of_request hr⟩

theorem asks_query_of (statement : String) (options : QueryOptions) :
    (client.query statement options).AsksOr client.http.Overflows
      (c.Sends client table.name) := by
  unfold RestClient.query
  refine ((asks_send _ _ _).mono fun r hr => ?_).bind fun reply => .ofExcept _
  obtain ⟨u, hu, hurl⟩ := url_of_request hr
  exact .query hu hurl (method_of_request hr)

theorem ne_empty_of_keyspaceText {t : List Char} (h : Grammar.KeyspaceText table t) :
    table.name ≠ "" := by
  rcases h with (⟨hne, -⟩ | ⟨hne, -⟩) | ⟨-, -, (⟨hne, -⟩ | ⟨hne, -⟩)⟩ <;>
    simpa [← String.toList_inj] using hne

/-- A seed whose host has none of the marks that end one is a server. -/
theorem isServer_seedBase (security : Security) {seed : Host}
    (h : ∀ d ∈ seed.urlName.toList, 0x20 < d.toNat ∧ d ∉ ['/', '\\', '?', '#']) :
    IsServer (RestClient.seedBase security seed) := by
  have hport : ∀ d ∈ (toString (seed.port.getD (RestClient.managerPort security.isTls))).toList,
      0x20 < d.toNat ∧ d ∉ ['/', '\\', '?', '#'] := by
    intro d hd
    have hdigit := isDigit_of_mem_toString hd
    have hrange := Grammar.NameCharacter.toNat (.inr (.inl hdigit))
    refine ⟨by omega, fun hmark => ?_⟩
    revert hdigit
    fin_cases hmark <;> decide
  have hscheme : security.scheme ∈ ["http", "https"] := by cases security <;> simp [Security.scheme]
  refine ⟨security.scheme, hscheme, seed.urlName.toList ++ ':' ::
    (toString (seed.port.getD (RestClient.managerPort security.isTls))).toList, ⟨by simp, ?_⟩, ?_⟩
  · simp only [List.forall_mem_append, List.forall_mem_cons]
    exact ⟨h, by decide, hport⟩
  · simp [RestClient.seedBase, RestClient.base, ← String.toList_inj]

theorem asks_carryOut (hbase : IsServer client.managerBase) (htable : c.table? = some table)
    (hempty : table.name ≠ "") (hdot : table.name ≠ ".") (hdots : table.name ≠ "..")
    (call : ClusterCall) (h : c.Calls call) :
    (client.carryOut call).AsksOr client.http.Overflows (c.Sends client table.name) := by
  cases h with
  | query statement options => exact (asks_query_of statement options).attempt
  | indexes =>
    have hasked := asks_manage_on (m := .get "/indexStatus") hbase leadsTo_indexStatus
    exact (hasked.mono fun r hr => .indexes hr.1 hr.2).attempt
  | creation hkind form =>
    have hasked := asks_manage_on (m := .post "/pools/default/buckets" form) hbase leadsTo_buckets
    exact (hasked.mono fun r hr => .creation hkind hr.1 hr.2).attempt
  | own hown =>
    have hasked := asks_manage_on hbase (leadsTo_own hown htable hdot hdots)
    exact (hasked.mono fun r hr =>
      .own (ownSegment_pathSegment hempty) hr.1 ⟨_, hown, hr.2⟩).attempt

end Sending

/-- Every name that is read but the two of dots alone has a segment of its own. The paths of its
commands lead to the place with that segment on every server, what they send goes nowhere else
among buckets, and no address of one name is an address of another. -/
theorem commands_stay_in_their_bucket (client : RestClient) (session : Session) {sql : String}
    {kind : CommandKind} {c : Command} {table : Keyspace} (hbase : IsServer client.managerBase)
    (hread : Grammar.read kind sql = .ok (some c)) (htable : c.table? = some table)
    (hdot : table.name ≠ ".") (hdots : table.name ≠ "..") :
    (∃ segment, OwnSegment table.name segment ∧ ∀ own, c.ownRequest? = some own →
      LeadsTo own.path (bucketPlace segment c.within)) ∧
    (client.perform (c.execute session)).AsksOr client.http.Overflows
      (c.Sends client table.name) ∧
    ∀ (base : String) (url : Url) (other segment segment' : String) (within within' : List String),
      OwnSegment table.name segment → StandsOn base (bucketPlace segment within) url →
      OwnSegment other segment' → StandsOn base (bucketPlace segment' within') url →
      table.name = other := by
  obtain ⟨t, ht⟩ := Grammar.keyspaceText_of_read hread htable
  have hempty : table.name ≠ "" := ne_empty_of_keyspaceText ht
  refine ⟨⟨_, ownSegment_pathSegment hempty, fun own hown => leadsTo_own hown htable hdot hdots⟩,
    ?_, ?_⟩
  · exact (c.asks_calls session).through fun call hcall =>
      asks_carryOut hbase htable hempty hdot hdots call hcall
  · intro base url other segment segment' within within' hown hurl hother hurl'
    have hnames : bucketPlace segment within = bucketPlace segment' within' := hurl.names_eq hurl'
    obtain rfl : segment = segment' := by
      simp only [bucketPlace, List.cons_append, List.cons.injEq, true_and] at hnames
      exact hnames.1
    exact hown.name_eq hother

theorem keys_of_escaped_dot_stay_in_their_bucket :
    let http : HttpClient :=
      { settings := {}, credentials := .password "u" "p", security := .cleartext }
    let client : RestClient :=
      { http, managerBase := RestClient.seedBase .cleartext ⟨"::1", none⟩,
        queryBase := "http://h:8093", queryTimeout := none }
    let session : Session := { parameters := .resolve "adbc:couchbase:h" ['h'] [] none none [] }
    let c : GetKeys := ⟨⟨none, "%2e."⟩, some 5, none⟩
    IsServer client.managerBase ∧
      Grammar.read .getKeys "GET KEYS FROM \x60%2e.\x60 LIMIT 5" = .ok (some (.getKeys c)) ∧
      (∃ segment, OwnSegment "%2e." segment ∧
        LeadsTo c.path ["pools", "default", "buckets", segment, "docs"]) ∧
      (client.perform ((Command.getKeys c).execute session)).Asks
        ((Command.getKeys c).Sends client "%2e.") := by
  intro http client session c
  have hbase : IsServer client.managerBase :=
    isServer_seedBase .cleartext (by simp [Host.urlName])
  have hread : Grammar.read .getKeys "GET KEYS FROM \x60%2e.\x60 LIMIT 5" =
      .ok (some (.getKeys c)) := by
    decide +kernel
  have htable : (Command.getKeys c).table? = some ⟨none, "%2e."⟩ := rfl
  have h := commands_stay_in_their_bucket client session hbase hread htable (by decide) (by decide)
  obtain ⟨segment, hsegment, hpath⟩ := h.1
  have hkeys := hpath (.get c.path) rfl
  exact ⟨hbase, hread, ⟨segment, hsegment, hkeys⟩, h.2.1.asks (Nat.not_le_of_lt (by decide))⟩

/-- The names of dots alone are read too, and their paths leave the bucket, or all buckets. -/
theorem paths_of_dots_leave_the_buckets :
    Grammar.read .dropBucket "DROP BUCKET \x60..\x60" =
        .ok (some (.dropBucket ⟨⟨none, ".."⟩⟩)) ∧
      Grammar.read .getKeys "GET KEYS FROM ." = .ok (some (.getKeys ⟨⟨none, "."⟩, none, none⟩)) ∧
      (read? ("http://[::1]:8091" ++ bucketPath "..")).map pathText = some "/pools/default/" ∧
      (read? ("http://[::1]:8091" ++ docsPath "..")).map pathText = some "/pools/default/docs" ∧
      (read? ("http://[::1]:8091" ++ bucketPath ".")).map pathText =
        some "/pools/default/buckets/" ∧
      (read? ("http://[::1]:8091" ++ docsPath ".")).map pathText =
        some "/pools/default/buckets/docs" := by
  decide +kernel

end KeyspaceLink

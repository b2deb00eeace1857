import KeyspaceLink.Proofs.OptionSources

/-! The settings of a link: what each recognized option decides, by what its value means. -/

namespace KeyspaceLink

/-- The text of a link after its scheme, part by part. The last slash before the first
question mark begins the keyspace, and that mark the options. -/
structure LinkText where
  hosts : List Char
  keyspace : Option (List Char)
  options : Option (List Char)
  hosts_mark : '?' ∉ hosts
  hosts_slash : keyspace = none → '/' ∉ hosts
  keyspace_marks : ∀ k ∈ keyspace, '?' ∉ k ∧ '/' ∉ k

namespace LinkText

def server (l : LinkText) : List Char :=
  match l.keyspace with
  | some k => l.hosts ++ '/' :: k
  | none => l.hosts

def text (l : LinkText) : List Char :=
  match l.options with
  | some s => l.server ++ '?' :: s
  | none => l.server

def Spells (l : LinkText) (uri : String) : Prop :=
  uri.toList = Parameters.scheme.toList ++ l.text ∨
    uri.toList = Parameters.otherScheme.toList ++ l.text

variable {l : LinkText} {uri : String} {body : List Char}

theorem server_mark (l : LinkText) : '?' ∉ l.server := by
  have hhosts := l.hosts_mark
  have hmarks := l.keyspace_marks
  rw [server]
  cases hkeyspace : l.keyspace with
  | none => exact hhosts
  | some k =>
    have hk : '?' ∉ k := (hmarks k hkeyspace).1
    simp [hhosts, hk]

theorem splitServer_server (l : LinkText) :
    Parameters.splitServer l.server = (l.hosts, l.keyspace) := by
  have hslash := l.hosts_slash
  have hmarks := l.keyspace_marks
  rw [server]
  cases hkeyspace : l.keyspace with
  | none => exact Parameters.splitServer_of_not_mem (hslash hkeyspace)
  | some k =>
    have hk : '/' ∉ k := (hmarks k hkeyspace).2
    simp only [Parameters.splitServer, cutLast?_append hk]

theorem parts_text (l : LinkText) :
    Parameters.Parts.read l.text = ⟨l.hosts, l.keyspace, l.options.map readOptions⟩ := by
  rw [text]
  cases hoptions : l.options with
  | none =>
    simp only [Parameters.Parts.read, cutFirst?_eq_none_iff.mpr l.server_mark,
      splitServer_server, Option.map_none]
  | some s =>
    simp only [Parameters.Parts.read, cutFirst?_append l.server_mark, splitServer_server,
      Option.map_some]

theorem exists_server {s : List Char} (hmark : '?' ∉ s) (options : Option (List Char)) :
    ∃ l : LinkText, l.server = s ∧ l.options = options := by
  cases hcut : cutLast? '/' s with
  | none =>
    have hslash : '/' ∉ s := cutLast?_eq_none_iff.mp hcut
    exact ⟨⟨s, none, options, hmark, fun _ => hslash, by simp⟩, rfl, rfl⟩
  | some cut =>
    have hsplit : s = cut.1 ++ '/' :: cut.2 := cutLast?_eq_some hcut
    have hslash : '/' ∉ cut.2 := not_mem_of_cutLast? hcut
    rw [hsplit, List.mem_append, List.mem_cons, not_or, not_or] at hmark
    obtain ⟨hhosts, -, hkeyspace⟩ := hmark
    refine ⟨⟨cut.1, some cut.2, options, hhosts, by simp, ?_⟩, hsplit.symm, rfl⟩
    rintro k ⟨⟩
    exact ⟨hkeyspace, hslash⟩

theorem exists_text (body : List Char) : ∃ l : LinkText, l.text = body := by
  cases hcut : cutFirst? '?' body with
  | none =>
    obtain ⟨l, hserver, hoptions⟩ := exists_server (cutFirst?_eq_none_iff.mp hcut) none
    exact ⟨l, by rw [text, hoptions, hserver]⟩
  | some cut =>
    have hsplit : body = cut.1 ++ '?' :: cut.2 := cutFirst?_eq_some hcut
    obtain ⟨l, hserver, hoptions⟩ := exists_server (not_mem_of_cutFirst? hcut) (some cut.2)
    exact ⟨l, by rw [text, hoptions, hserver, hsplit]⟩

theorem afterScheme?_of_spells (h : l.Spells uri) : Parameters.afterScheme? uri = some l.text := by
  rcases h with h | h
  · rw [Parameters.afterScheme?, h, dropStart?_append, Option.some_or]
  · have hother : dropStart? Parameters.scheme.toList
        (Parameters.otherScheme.toList ++ l.text) = none := rfl
    rw [Parameters.afterScheme?, h, dropStart?_append, hother, Option.none_or]

theorem exists_spells (h : Parameters.afterScheme? uri = some body) :
    ∃ l : LinkText, l.Spells uri ∧ l.text = body := by
  obtain ⟨l, rfl⟩ := exists_text body
  rcases Option.or_eq_some_iff.mp h with h | ⟨-, h⟩
  · exact ⟨l, .inl (dropStart?_eq_some h), rfl⟩
  · exact ⟨l, .inr (dropStart?_eq_some h), rfl⟩

end LinkText

/-- A value that is not understood is as good as `otherwise`, and so is none. -/
inductive Understood {α : Type} (reads : String → α → Prop) (otherwise : α) :
    Option String → α → Prop
  | read {v : String} {a : α} (h : reads v a) : Understood reads otherwise (some v) a
  | unknown {v : String} (h : ∀ a, ¬ reads v a) : Understood reads otherwise (some v) otherwise
  | unset : Understood reads otherwise none otherwise

theorem understood_iff {α : Type} {reads : String → α → Prop} {read? : String → Option α}
    (hread : ∀ v a, reads v a ↔ read? v = some a) {otherwise a : α} {given : Option String} :
    Understood reads otherwise given a ↔ a = (given.bind read?).getD otherwise := by
  constructor
  · intro h
    cases h with
    | unset => rfl
    | read h => rw [Option.bind_some, (hread _ _).mp h, Option.getD_some]
    | @unknown v h =>
      have hnone : read? v = none := by
        rw [Option.eq_none_iff_forall_ne_some]
        exact fun a ha => h a ((hread v a).mpr ha)
      rw [Option.bind_some, hnone, Option.getD_none]
  · rintro rfl
    cases given with
    | none => exact .unset
    | some v =>
      rw [Option.bind_some]
      cases hv : read? v with
      | some a => exact .read ((hread v a).mpr hv)
      | none =>
        refine .unknown fun a ha => ?_
        rw [(hread v a).mp ha] at hv
        cases hv

def IsFlag (v : String) (b : Bool) : Prop :=
  b = true ↔ v = "1" ∨ sameIgnoringCase v "true" = true

theorem isFlag_iff (v : String) (b : Bool) : IsFlag v b ↔ some (isTrue v) = some b := by
  have htrue : isTrue v = true ↔ v = "1" ∨ sameIgnoringCase v "true" = true := by
    have hlower : lower "true" = "true" := by decide
    rw [isTrue, sameIgnoringCase, hlower, Bool.or_eq_true, beq_iff_eq]
  rw [IsFlag, ← htrue, Option.some.injEq, ← Bool.eq_iff_iff, eq_comm]

theorem understood_flag_iff {given : Option String} {otherwise b : Bool} :
    Understood IsFlag otherwise given b ↔ b = (given.map isTrue).getD otherwise := by
  rw [understood_iff isFlag_iff]
  cases given <;> rfl

section Choices

variable {α : Type} {all : List α} {text : α → String} {v : String} {a : α}

theorem find?_choice_iff (hall : ∀ a, a ∈ all) (hlower : ∀ a, lower (text a) = text a)
    (hinj : ∀ a b, text a = text b → a = b) :
    sameIgnoringCase v (text a) = true ↔ (all.find? fun c => text c == lower v) = some a := by
  rw [sameIgnoringCase, hlower, beq_iff_eq]
  constructor
  · intro hv
    cases hfind : all.find? fun c => text c == lower v with
    | some b =>
      have hb : (text b == lower v) = true := List.find?_some (p := fun c => text c == lower v) hfind
      rw [hinj b a ((eq_of_beq hb).trans hv)]
    | none =>
      have hnone := List.find?_eq_none.mp hfind a (hall a)
      exact absurd (beq_iff_eq.mpr hv.symm) hnone
  · intro hfind
    have ha : (text a == lower v) = true := List.find?_some (p := fun c => text c == lower v) hfind
    exact (eq_of_beq ha).symm

end Choices

def IsLevel (v : String) (level : LoggingLevel) : Prop := sameIgnoringCase v level.text = true

theorem isLevel_iff (v : String) (level : LoggingLevel) :
    IsLevel v level ↔ LoggingLevel.ofText? v = some level := by
  apply find?_choice_iff
  · intro level
    cases level <;> decide
  · intro level
    cases level <;> decide
  · intro a b
    cases a <;> cases b <;> decide

def IsConsistency (v : String) (c : ScanConsistency) : Prop := sameIgnoringCase v c.text = true

def consistency? (v : String) : Option ScanConsistency :=
  [ScanConsistency.notBounded, .requestPlus].find? fun c => c.text == lower v

theorem isConsistency_iff (v : String) (c : ScanConsistency) :
    IsConsistency v c ↔ consistency? v = some c := by
  apply find?_choice_iff
  · intro c
    cases c <;> decide
  · intro c
    cases c <;> decide
  · intro a b
    cases a <;> cases b <;> decide

theorem ofText_eq (v : String) : ScanConsistency.ofText v = (consistency? v).getD .notBounded := by
  by_cases hplus : lower v = "request_plus"
  · rw [ScanConsistency.ofText, consistency?, hplus]
    decide
  · rw [ScanConsistency.ofText, if_neg (by simpa using hplus), consistency?, List.find?_cons]
    split
    · rfl
    · rw [List.find?_cons_of_neg (by simpa [ScanConsistency.text] using Ne.symm hplus)]
      rfl

theorem understood_consistency_iff {given : Option String} {c : ScanConsistency} :
    Understood IsConsistency .notBounded given c ↔
      c = (given.map ScanConsistency.ofText).getD .notBounded := by
  rw [understood_iff isConsistency_iff]
  cases given with
  | none => rfl
  | some v => rw [Option.bind_some, Option.map_some, Option.getD_some, ofText_eq]

/-- Digits, after a plus sign or none, of a number that fits a word; blanks may stand around. -/
def IsSize (v : String) (n : Nat) : Prop :=
  ∃ left sign digits right, v.toList = left ++ (sign ++ digits) ++ right ∧
    (∀ c ∈ left, isBlank c = true) ∧ (∀ c ∈ right, isBlank c = true) ∧
    (sign = [] ∨ sign = ['+']) ∧ digits ≠ [] ∧ (∀ c ∈ digits, c.isDigit = true) ∧
    digitsValue 0 digits = n ∧ n < word64

theorem readUnsigned?_eq_some_iff {bound n : Nat} {s : List Char} :
    readUnsigned? bound s = some n ↔ ∃ sign digits, s = sign ++ digits ∧
      (sign = [] ∨ sign = ['+']) ∧ readDigits? bound digits = some n := by
  constructor
  · intro h
    rw [readUnsigned?.eq_def] at h
    split at h
    · next s => exact ⟨['+'], s, rfl, .inr rfl, h⟩
    · exact ⟨[], s, rfl, .inl rfl, h⟩
  · rintro ⟨sign, digits, rfl, rfl | rfl, h⟩
    · have hplus : digits.head? ≠ some '+' := by
        intro hhead
        obtain ⟨-, hdigits, -⟩ := readDigits?_eq_some_iff.mp h
        have hdigit : '+'.isDigit = true := hdigits '+' (List.mem_of_head? hhead)
        cases hdigit
      rw [readUnsigned?.eq_def]
      split
      · next heq =>
        rw [List.nil_append] at heq
        rw [heq] at hplus
        exact absurd rfl hplus
      · exact h
    · exact h

theorem isSize_iff (v : String) (n : Nat) :
    IsSize v n ↔ readUnsigned? word64 (trim v.toList) = some n := by
  simp only [readUnsigned?_eq_some_iff, readDigits?_eq_some_iff]
  constructor
  · rintro ⟨left, sign, digits, right, heq, hleft, hright, hsign, hne, hdigits, hn⟩
    refine ⟨sign, digits, ?_, hsign, hne, hdigits, hn⟩
    have hplain : ∀ c ∈ sign ++ digits, isBlank c = false := by
      intro c hc
      rcases List.mem_append.mp hc with hc | hc
      · rcases hsign with rfl | rfl
        · cases hc
        · obtain rfl := List.mem_singleton.mp hc
          rfl
      · exact isBlank_of_isDigit (hdigits c hc)
    rw [heq, trim_of_trimmed hleft (trimmed_of_plain hplain) hright]
  · rintro ⟨sign, digits, heq, hsign, hne, hdigits, hn⟩
    obtain ⟨left, right, hblanks, hleft, hright⟩ := exists_blanks v.toList
    exact ⟨left, sign, digits, right, heq ▸ hblanks, hleft, hright, hsign, hne, hdigits, hn⟩

/-- A keyspace that is not empty is the bucket, whatever is given. -/
inductive BucketOf (keyspace : Option (List Char)) (given : Option String) :
    Option String → Prop
  | path {k : List Char} (hk : keyspace = some k) (hne : k ≠ []) :
      BucketOf keyspace given (some (.ofList k))
  | option (h : ∀ k ∈ keyspace, k = []) : BucketOf keyspace given given

theorem bucketOf_iff {keyspace : Option (List Char)} {given bucket : Option String} :
    BucketOf keyspace given bucket ↔ bucket = match keyspace with
      | some (c :: k) => some (.ofList (c :: k))
      | _ => given := by
  constructor
  · intro h
    cases h with
    | @path k hk hne =>
      subst hk
      cases k with
      | nil => exact absurd rfl hne
      | cons c k => rfl
    | option h =>
      cases keyspace with
      | none => rfl
      | some k =>
        obtain rfl := h k rfl
        rfl
  · rintro rfl
    split
    · exact .path rfl (List.cons_ne_nil _ _)
    · next hnone =>
      refine .option fun k hk => ?_
      cases k with
      | nil => rfl
      | cons c k => exact absurd hk (hnone c k)

namespace Parameters

@[ext]
structure Settings where
  username : Option String
  password : Option String
  sslEnabled : Bool
  verifyCertificate : Bool
  verifyHostnames : Bool
  defaultBucket : Option String
  samplingSize : Nat
  scanConsistency : ScanConsistency
  loggingLevel : LoggingLevel
  loggingLevelGiven : Bool
deriving DecidableEq

def settings (p : Parameters) : Settings :=
  ⟨p.username, p.password, p.sslEnabled, p.verifyCertificate, p.verifyHostnames,
    p.defaultBucket, p.samplingSize, p.scanConsistency, p.loggingLevel, p.loggingLevelGiven⟩

/-- Each setting is what the value of its option means, else its default. -/
structure Settings.Decided (s : Settings) (value : String → Option String)
    (keyspace : Option (List Char)) : Prop where
  username : s.username = value OptionName.user
  password : s.password = value OptionName.password
  sslEnabled : Understood IsFlag false (value OptionName.sslEnabled) s.sslEnabled
  verifyCertificate :
    Understood IsFlag true (value OptionName.verifyCertificate) s.verifyCertificate
  verifyHostnames : Understood IsFlag true (value OptionName.verifyHostnames) s.verifyHostnames
  defaultBucket : BucketOf keyspace (value OptionName.defaultBucket) s.defaultBucket
  samplingSize : Understood IsSize 1000 (value OptionName.samplingSize) s.samplingSize
  scanConsistency :
    Understood IsConsistency .notBounded (value OptionName.scanConsistency) s.scanConsistency
  loggingLevel : Understood IsLevel .severe (value OptionName.loggingLevel) s.loggingLevel
  loggingLevelGiven : s.loggingLevelGiven = (value OptionName.loggingLevel).isSome

section Deciding

variable {uri : String} {overlay : Overlay} {hosts : List Host} {l : LinkText}

theorem decided_iff {s : Settings} {hostText : List Char} {keyspace : Option (List Char)}
    {options : Option (List (String × String))} :
    s.Decided (Sources.find? ⟨overlay, options.getD []⟩) keyspace ↔
      s = (resolve uri hostText hosts keyspace options overlay).settings := by
  constructor
  · rintro ⟨huser, hpassword, hssl, hcertificate, hhostnames, hbucket, hsize, hconsistency, hlevel,
      hlevelGiven⟩
    exact Settings.ext huser hpassword (understood_flag_iff.mp hssl)
      (understood_flag_iff.mp hcertificate) (understood_flag_iff.mp hhostnames)
      (bucketOf_iff.mp hbucket) ((understood_iff isSize_iff).mp hsize)
      (understood_consistency_iff.mp hconsistency) ((understood_iff isLevel_iff).mp hlevel)
      hlevelGiven
  · rintro rfl
    exact ⟨rfl, rfl, understood_flag_iff.mpr rfl, understood_flag_iff.mpr rfl,
      understood_flag_iff.mpr rfl, bucketOf_iff.mpr rfl, (understood_iff isSize_iff).mpr rfl,
      understood_consistency_iff.mpr rfl, (understood_iff isLevel_iff).mpr rfl, rfl⟩

theorem read_of_spells (huri : l.Spells uri) (hhosts : Host.readList l.hosts = .ok hosts)
    (hne : hosts ≠ []) : read uri overlay =
      .ok (resolve uri l.hosts hosts l.keyspace (l.options.map readOptions) overlay) := by
  rw [read_eq_ok_iff]
  refine ⟨l.text, hosts, LinkText.afterScheme?_of_spells huri, ?_, hne, ?_⟩
  · rw [l.parts_text]
    exact hhosts
  · rw [l.parts_text]

/-- A link with hosts is read, and of its options and its overlay nothing matters to its
settings but the one value that is given for each name. -/
theorem settings_of_given_values (huri : l.Spells uri)
    (hhosts : Host.readList l.hosts = .ok hosts) (hne : hosts ≠ [])
    (hkeys : DistinctKeys overlay) :
    ∃ p value, read uri overlay = .ok p ∧
      (∀ name ∈ OptionName.recognized, ∀ v, Given overlay l.options name v ↔ v = value name) ∧
      ∀ s : Settings, s.Decided value l.keyspace ↔ s = p.settings := by
  refine ⟨_, Sources.find? ⟨overlay, (l.options.map readOptions).getD []⟩,
    read_of_spells huri hhosts hne, fun name _ v => ?_, fun s => decided_iff⟩
  rw [← find?_eq_iff_given hkeys, eq_comm]

/-- Repeated names in any case, both separators, escapes, values that are not understood and
a path that is empty. -/
theorem settings_of_mixed_sources :
    let options := "USER=x&user;sslenabled=1;Use%72=%6Ao&defaultBucket=b%2Fc&loggingLevel=fine" ++
      "&query.scan.consistency=Request_Plus;meta.sampling.size=%20+0500 &verifyHostnames=on"
    let uri := "jdbc:couchbase:h:1,[::1]/?" ++ options
    let overlay := [("LOGGINGLEVEL", "loud"), ("Password", "")]
    ∃ p value, read uri overlay = .ok p ∧
      (∀ name ∈ OptionName.recognized, ∀ v,
        Given overlay (some options.toList) name v ↔ v = value name) ∧
      (∀ s : Settings, s.Decided value (some []) ↔ s = p.settings) ∧
      p.settings = ⟨some "jo", some "", true, true, false, some "b/c", 500, .requestPlus,
        .severe, true⟩ := by
  intro options uri overlay
  let l : LinkText :=
    { hosts := "h:1,[::1]".toList
      keyspace := some []
      options := some options.toList
      hosts_mark := by decide
      hosts_slash := by simp
      keyspace_marks := by simp }
  have hstart : "jdbc:couchbase:h:1,[::1]/?".toList = otherScheme.toList ++ l.server ++ ['?'] := by
    decide +kernel
  have huri : l.Spells uri := by
    refine .inr ?_
    rw [String.toList_append, hstart, List.append_assoc, List.append_assoc]
    rfl
  have hhosts : Host.readList l.hosts = .ok [⟨"h", some 1⟩, ⟨"::1", none⟩] := by decide +kernel
  have hkeys : DistinctKeys overlay := by
    rw [DistinctKeys]
    decide +kernel
  obtain ⟨p, value, hread, hvalue, hdecided⟩ :=
    settings_of_given_values huri hhosts (List.cons_ne_nil _ _) hkeys
  have hp : Except.ok p = .ok (resolve uri l.hosts _ l.keyspace _ overlay) :=
    hread.symm.trans (read_of_spells huri hhosts (List.cons_ne_nil _ _))
  refine ⟨p, value, hread, hvalue, hdecided, ?_⟩
  rw [Except.ok.inj hp]
  decide +kernel

end Deciding

end Parameters

end KeyspaceLink

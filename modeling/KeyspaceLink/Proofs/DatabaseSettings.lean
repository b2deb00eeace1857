import KeyspaceLink.Access.Database
import KeyspaceLink.Proofs.LinkSettings

/-! What a database holds after a series of calls that set its options. An option of the link
is held once for each spelling of its name, with the last value set under that spelling. -/

namespace KeyspaceLink

namespace DatabaseOption

/-- The name under which an option is laid over the link. -/
def linkOf? : DatabaseOption → Option String
  | username => some OptionName.user
  | password => some OptionName.password
  | link name => some name
  | _ => none

def linkKey (name : String) : String := "couchbase." ++ name

theorem linkName?_linkKey (name : String) : linkName? (linkKey name) = some name := by
  have hkey : (linkKey name).toList = linkStart ++ name.toList := String.toList_append
  rw [linkName?, hkey, dropStart?_append]
  exact congrArg some String.ofList_toList

theorem lookup_fixedKeys_eq_none_iff {key : String} :
    fixedKeys.lookup key = none ↔ ∀ p ∈ fixedKeys, p.1 ≠ key := by
  rw [List.lookup_eq_none_iff]
  exact forall₂_congr fun p _ => bne_iff_ne.trans ne_comm

theorem ofKey?_linkKey {name : String} (hname : name ≠ "")
    (hfixed : ∀ p ∈ fixedKeys, p.1 ≠ linkKey name) : ofKey? (linkKey name) = some (.link name) := by
  have hempty : (!name.isEmpty) = true := by simpa using hname
  rw [ofKey?, lookup_fixedKeys_eq_none_iff.mpr hfixed, linkName?_linkKey, Option.none_or,
    Option.filter_some, if_pos hempty, Option.map_some]

theorem ofKey?_eq_some {key : String} {option : DatabaseOption} (h : ofKey? key = some option) :
    (key, option) ∈ fixedKeys ∨ ∃ name, name ≠ "" ∧ key = linkKey name ∧ option = .link name ∧
      ∀ p ∈ fixedKeys, p.1 ≠ key := by
  rcases Option.or_eq_some_iff.mp h with h | ⟨hfixed, h⟩
  · obtain ⟨before, after, heq, -⟩ := List.lookup_eq_some_iff.mp h
    exact .inl (by simp [heq])
  · obtain ⟨name, hfilter, rfl⟩ := Option.map_eq_some_iff.mp h
    obtain ⟨hname, hne⟩ := Option.filter_eq_some_iff.mp hfilter
    obtain ⟨r, hr, rfl⟩ := Option.map_eq_some_iff.mp hname
    refine .inr ⟨_, by simpa using hne, ?_, rfl, lookup_fixedKeys_eq_none_iff.mp hfixed⟩
    have hkey := dropStart?_eq_some hr
    rw [← String.ofList_toList (s := key), hkey, String.ofList_append]
    rfl

end DatabaseOption

namespace Database

open DatabaseOption

/-- A call that fails changes nothing. -/
def perform (d : Database) (call : String × OptionValue) : Database :=
  match d.set call.1 call.2 with
  | .ok d' => d'
  | .error _ => d

def after (calls : List (String × OptionValue)) : Database := calls.foldl perform {}

/-- The calls that set an option of the link, with its name as they spell it. -/
inductive Sets : String × OptionValue → String → String → Prop
  | username {v : OptionValue} {value : String} (h : v.text? = some value) :
      Sets ("username", v) OptionName.user value
  | password {v : OptionValue} {value : String} (h : v.text? = some value) :
      Sets ("password", v) OptionName.password value
  | link {v : OptionValue} {name value : String} (hname : name ≠ "")
      (hfixed : ∀ p ∈ fixedKeys, p.1 ≠ linkKey name) (h : v.text? = some value) :
      Sets (linkKey name, v) name value

def LastSet (calls : List (String × OptionValue)) (name value : String) : Prop :=
  ∃ before call after, calls = before ++ call :: after ∧ Sets call name value ∧
    ∀ c ∈ after, ∀ v, ¬ Sets c name v

def linkSet? (call : String × OptionValue) : Option (String × String) :=
  ((ofKey? call.1).bind linkOf?).bind fun name => call.2.text?.map fun value => (name, value)

variable {call : String × OptionValue} {calls : List (String × OptionValue)} {name value : String}

theorem sets_iff : Sets call name value ↔ linkSet? call = some (name, value) := by
  obtain ⟨key, v⟩ := call
  constructor
  · intro h
    cases h with
    | username h =>
      have hkey : ofKey? "username" = some .username := rfl
      simp [linkSet?, hkey, linkOf?, h]
    | password h =>
      have hkey : ofKey? "password" = some .password := rfl
      simp [linkSet?, hkey, linkOf?, h]
    | link hname hfixed h => simp [linkSet?, ofKey?_linkKey hname hfixed, linkOf?, h]
  · intro h
    obtain ⟨_, hlink, hvalue⟩ := Option.bind_eq_some_iff.mp h
    obtain ⟨option, hkey, hname⟩ := Option.bind_eq_some_iff.mp hlink
    obtain ⟨_, htext, heq⟩ := Option.map_eq_some_iff.mp hvalue
    obtain ⟨rfl, rfl⟩ := Prod.mk.inj heq
    rcases ofKey?_eq_some hkey with hmem | ⟨_, hne, rfl, rfl, hfixed⟩
    · cases option with
      | username =>
        obtain rfl : key = "username" := by simpa [fixedKeys] using hmem
        obtain rfl := Option.some.inj hname
        exact .username htext
      | password =>
        obtain rfl : key = "password" := by simpa [fixedKeys] using hmem
        obtain rfl := Option.some.inj hname
        exact .password htext
      | link name => simp [fixedKeys] at hmem
      | _ => cases hname
    · obtain rfl := Option.some.inj hname
      exact .link hne hfixed htext

theorem accept_bind {α β : Type} (v : OptionValue) (key : String) (read : OptionValue → Option α)
    (f : α → Except Failure β) : (v.accept key read >>= f) =
      match read v with
      | some a => f a
      | none => .error (.badOption key v.shown) := by
  rw [OptionValue.accept]
  cases read v <;> rfl

theorem overlay_perform (d : Database) (call : String × OptionValue) :
    (d.perform call).overlay = match linkSet? call with
      | some p => place p.1 p.2 d.overlay
      | none => d.overlay := by
  obtain ⟨key, v⟩ := call
  cases hkey : ofKey? key with
  | none => simp [perform, set, linkSet?, hkey]
  | some option =>
    -- the first three lay a pair over the link if the value is read, the others none ever
    cases option with
    | username | password | link name =>
      cases htext : v.text? <;>
        simp [perform, set, linkSet?, hkey, accept_bind, htext, linkOf?, setLink, pure, Except.pure]
    | uri | logFile =>
      cases htext : v.text? <;>
        simp [perform, set, linkSet?, hkey, accept_bind, htext, linkOf?, pure, Except.pure]
    | connectTimeout | readTimeout | maxRetries =>
      cases hnatural : v.natural? <;>
        simp [perform, set, linkSet?, hkey, accept_bind, hnatural, linkOf?, pure, Except.pure]

theorem overlay_after (calls : List (String × OptionValue)) :
    (after calls).overlay = sorted (calls.filterMap linkSet?) := by
  have hfold : ∀ d : Database, (calls.foldl perform d).overlay =
      (calls.filterMap linkSet?).foldl (fun done p => place p.1 p.2 done) d.overlay := by
    induction calls with
    | nil =>
      intro d
      rfl
    | cons call calls ih =>
      intro d
      rw [List.foldl_cons, ih, overlay_perform]
      cases hset : linkSet? call with
      | none => rw [List.filterMap_cons_none hset]
      | some p => rw [List.filterMap_cons_some hset, List.foldl_cons]
  exact hfold {}

theorem lookup_overlay_after :
    (after calls).overlay.lookup name = some value ↔ LastSet calls name value := by
  rw [overlay_after, lookup_sorted, lastValue?_filterMap_eq_some_iff]
  simp only [LastSet, sets_iff]

section Orders

variable {o : Overlay}

theorem names_of_perm (ho : o.Perm (after calls).overlay) : o.Pairwise fun p q => p.1 ≠ q.1 := by
  have hsorted : SortedByName (after calls).overlay := by
    rw [overlay_after]
    exact sortedByName_sorted _
  exact (ho.pairwise_iff fun h => h.symm).mpr hsorted.names_ne

/-- In whatever order an overlay is gone through, it has each spelling once. -/
theorem mem_of_perm (ho : o.Perm (after calls).overlay) :
    (name, value) ∈ o ↔ LastSet calls name value := by
  rw [ho.mem_iff, ← lookup_eq_some_iff_mem (names_of_perm (.refl _)), lookup_overlay_after]

theorem lookup_of_perm (ho : o.Perm (after calls).overlay) :
    o.lookup name = some value ↔ LastSet calls name value := by
  rw [lookup_eq_some_iff_mem (names_of_perm ho), mem_of_perm ho]

theorem LastSet.unique {v w : String} (hv : LastSet calls name v) (hw : LastSet calls name w) :
    v = w := by
  rw [← lookup_overlay_after] at hv hw
  exact Option.some.inj (hv.symm.trans hw)

/-- One of the spellings of an option that were set, with its last value. -/
def SetAs (calls : List (String × OptionValue)) (name value : String) : Prop :=
  ∃ spelling, sameIgnoringCase spelling name = true ∧ LastSet calls spelling value

theorem find?_of_setAs (ho : o.Perm (after calls).overlay) (h : SetAs calls name value) :
    ∃ v, SetAs calls name v ∧ ∀ written, Sources.find? ⟨o, written⟩ name = some v := by
  obtain ⟨spelling, hspelling, hlast⟩ := h
  have hmem : (spelling, value) ∈ o := (mem_of_perm ho).mpr hlast
  have hfind : ∀ written, Sources.find? ⟨o, written⟩ name =
      (lastValue? (lower name) (folded o)).or (lastValue? (lower name) written) := fun _ => rfl
  cases hv : lastValue? (lower name) (folded o) with
  | none =>
    have hnone := lastValue?_folded_eq_none_iff.mp hv _ hmem
    rw [hspelling] at hnone
    cases hnone
  | some v =>
    obtain ⟨key, hkey, hname⟩ := mem_of_lastValue?_folded hv
    refine ⟨v, ⟨key, hname, (mem_of_perm ho).mp hkey⟩, fun written => ?_⟩
    rw [hfind, hv, Option.some_or]

theorem linkValue?_of_setAs {d : Database} (ho : d.overlay.Perm (after calls).overlay)
    (h : SetAs calls name value) {t : String} (ht : sameIgnoringCase t name = true)
    (hpassword : sameIgnoringCase t OptionName.password = false) :
    ∃ v, SetAs calls name v ∧ d.linkValue? t = some v := by
  obtain ⟨spelling, hspelling, hlast⟩ := h
  have hmem : (spelling, value) ∈ d.overlay := (mem_of_perm ho).mpr hlast
  have hlower : lower t = lower name := eq_of_beq ht
  cases hfind : d.overlay.find? fun p => sameIgnoringCase p.1 t with
  | none =>
    have hnone := List.find?_eq_none.mp hfind _ hmem
    rw [sameIgnoringCase, hlower] at hnone
    exact absurd hspelling hnone
  | some p =>
    have hp : sameIgnoringCase p.1 t = true :=
      List.find?_some (p := fun p : String × String => sameIgnoringCase p.1 t) hfind
    rw [sameIgnoringCase, hlower] at hp
    refine ⟨p.2, ⟨p.1, hp, (mem_of_perm ho).mp (List.mem_of_find?_eq_some hfind)⟩, ?_⟩
    rw [linkValue?, hpassword, hfind]
    rfl

end Orders

section Getting

variable {t : String} {d : Database}

theorem fixedKeys_ne_linkKey (hname : name ∈ OptionName.recognized)
    (ht : sameIgnoringCase t name = true) : ∀ p ∈ fixedKeys, p.1 ≠ linkKey t := by
  have hfixed : ∀ p ∈ fixedKeys, ∀ name ∈ OptionName.recognized, ∀ t ∈ linkName? p.1,
      sameIgnoringCase t name = false := by
    decide +kernel
  intro p hp heq
  have hlink : linkName? p.1 = some t := by rw [heq, linkName?_linkKey]
  rw [hfixed p hp name hname t hlink] at ht
  cases ht

theorem ne_empty_of_recognized (hname : name ∈ OptionName.recognized)
    (ht : sameIgnoringCase t name = true) : t ≠ "" := by
  have hnone : ∀ name ∈ OptionName.recognized, sameIgnoringCase "" name = false := by
    decide +kernel
  rintro rfl
  rw [hnone name hname] at ht
  cases ht

theorem ne_password_of_recognized (hname : name ∈ OptionName.recognized)
    (hne : name ≠ OptionName.password) (ht : sameIgnoringCase t name = true) :
    sameIgnoringCase t OptionName.password = false := by
  have hapart : ∀ name ∈ OptionName.recognized, name ≠ OptionName.password →
      sameIgnoringCase name OptionName.password = false := by
    decide +kernel
  have hlower : lower t = lower name := eq_of_beq ht
  rw [sameIgnoringCase, hlower]
  exact hapart name hname hne

theorem getText_linkKey (hname : name ∈ OptionName.recognized)
    (ht : sameIgnoringCase t name = true) (hvalue : d.linkValue? t = some value) :
    d.getText (linkKey t) = .ok value := by
  have hkey : ofKey? (linkKey t) = some (.link t) :=
    ofKey?_linkKey (ne_empty_of_recognized hname ht) (fixedKeys_ne_linkKey hname ht)
  rw [getText, hkey]
  simp only [linkName?_linkKey, Option.bind_some, hvalue]

theorem getText_username :
    d.getText "username" = .ok value ↔ d.overlay.lookup OptionName.user = some value := by
  have hget : d.getText "username" = given "username" (d.overlay.lookup OptionName.user) := rfl
  rw [hget]
  cases d.overlay.lookup OptionName.user <;> simp [given]

end Getting

/-- The link, which can be read, is read with this value for the option. -/
def Resolves (d : Database) (name value : String) : Prop :=
  ∀ uri q, d.uri = some uri → Parameters.read uri [] = .ok q →
    ∃ p, d.parameters = .ok p ∧ ∃ (l : LinkText) (given : String → Option String),
      l.Spells uri ∧ given name = some value ∧ p.settings.Decided given l.keyspace

theorem resolves_of_find? {d : Database}
    (h : ∀ written, Sources.find? ⟨d.overlay, written⟩ name = some value) :
    d.Resolves name value := by
  intro uri q huri hread
  obtain ⟨body, hosts, hbody, hhosts, hne, -⟩ := Parameters.read_eq_ok_iff.mp hread
  obtain ⟨l, hspells, rfl⟩ := LinkText.exists_spells hbody
  rw [l.parts_text] at hhosts
  have hread : d.parameters = .ok (Parameters.resolve uri l.hosts hosts l.keyspace
      (l.options.map readOptions) d.overlay) := by
    rw [parameters, huri]
    exact Parameters.read_of_spells hspells hhosts hne
  exact ⟨_, hread, l, _, hspells, h _, Parameters.decided_iff.mpr rfl⟩

/-- A database keeps to what was set last under a spelling. It resolves and tells an option as
one of its spellings was set; where all calls spell it alike, that is the last value of all. The
name of the user is told as it was set under its own spelling only. -/
theorem last_setting_of_spelling_wins {o : Overlay} (ho : o.Perm (after calls).overlay)
    (hname : name ∈ OptionName.recognized) {spelling : String}
    (hspelling : sameIgnoringCase spelling name = true) (hlast : LastSet calls spelling value) :
    let d : Database := { after calls with overlay := o }
    (∀ call e, (after calls).set call.1 call.2 = .error e → after (calls ++ [call]) = after calls) ∧
      (∃ v, SetAs calls name v ∧ d.Resolves name v) ∧
      (name ≠ OptionName.password → ∀ t, sameIgnoringCase t name = true →
        ∃ v, SetAs calls name v ∧ d.getText (linkKey t) = .ok v) ∧
      ((∀ other v, sameIgnoringCase other name = true → LastSet calls other v →
          other = spelling) →
        d.Resolves name value ∧ (name ≠ OptionName.password → ∀ t,
          sameIgnoringCase t name = true → d.getText (linkKey t) = .ok value)) ∧
      ∀ v, d.getText "username" = .ok v ↔ LastSet calls OptionName.user v := by
  intro d
  have hset : SetAs calls name value := ⟨spelling, hspelling, hlast⟩
  have hresolves : ∃ v, SetAs calls name v ∧ d.Resolves name v := by
    obtain ⟨v, hv, hfind⟩ := find?_of_setAs ho hset
    exact ⟨v, hv, resolves_of_find? hfind⟩
  have htells : name ≠ OptionName.password → ∀ t, sameIgnoringCase t name = true →
      ∃ v, SetAs calls name v ∧ d.getText (linkKey t) = .ok v := by
    intro hne t ht
    obtain ⟨v, hv, hvalue⟩ :=
      linkValue?_of_setAs (d := d) ho hset ht (ne_password_of_recognized hname hne ht)
    exact ⟨v, hv, getText_linkKey hname ht hvalue⟩
  refine ⟨fun call e hfails => ?_, hresolves, htells, fun halike => ?_, fun v => ?_⟩
  · rw [after, List.foldl_append, List.foldl_cons, List.foldl_nil, ← after, perform, hfails]
  · have hvalue : ∀ v, SetAs calls name v → v = value := by
      rintro v ⟨other, hother, hv⟩
      obtain rfl := halike other v hother hv
      exact hv.unique hlast
    constructor
    · obtain ⟨v, hv, h⟩ := hresolves
      rwa [hvalue v hv] at h
    · intro hne t ht
      obtain ⟨v, hv, h⟩ := htells hne t ht
      rwa [hvalue v hv] at h
  · rw [getText_username]
    exact lookup_of_perm ho

theorem last_setting_of_user_wins :
    let calls := [("uri", OptionValue.text "adbc:couchbase:h/k?USER=x"), ("username", .text "a"),
      ("couchbase.SslEnabled", .text "1"), ("username", .bytes [0]), ("couchbase.user", .int 7)]
    let d : Database := { after calls with overlay := (after calls).overlay.reverse }
    d.overlay = [("user", "7"), ("SslEnabled", "1")] ∧ d.Resolves OptionName.user "7" ∧
      d.getText "couchbase.USER" = .ok "7" ∧ d.getText "username" = .ok "7" := by
  intro calls d
  have hoverlay : d.overlay = [("user", "7"), ("SslEnabled", "1")] := by decide +kernel
  have hperm : d.overlay.Perm (after calls).overlay := List.reverse_perm _
  have hname : OptionName.user ∈ OptionName.recognized := List.mem_cons_self
  have hlast : LastSet calls OptionName.user "7" := by
    rw [← mem_of_perm hperm, hoverlay]
    exact List.mem_cons_self
  have halike : ∀ other v, sameIgnoringCase other OptionName.user = true →
      LastSet calls other v → other = OptionName.user := by
    intro other v hother hv
    rw [← mem_of_perm hperm, hoverlay] at hv
    have hnone : sameIgnoringCase "SslEnabled" OptionName.user = false := by decide +kernel
    rcases List.mem_cons.mp hv with heq | hmem
    · exact (Prod.mk.inj heq).1
    · obtain ⟨rfl, -⟩ := Prod.mk.inj (List.mem_singleton.mp hmem)
      rw [hnone] at hother
      cases hother
  obtain ⟨-, -, -, hwins, huser⟩ :=
    last_setting_of_spelling_wins hperm hname (beq_self_eq_true _) hlast
  obtain ⟨hresolves, htells⟩ := hwins halike
  exact ⟨hoverlay, hresolves, htells (by decide) "USER" (by decide +kernel), (huser _).mpr hlast⟩

/-- A name of the user that is set under another spelling is held and resolved, but not told. -/
theorem respelled_user_is_not_told :
    let calls := [("couchbase.User", OptionValue.text "a")]
    LastSet calls "User" "a" ∧ sameIgnoringCase "User" OptionName.user = true ∧
      (∀ written, Sources.find? ⟨(after calls).overlay, written⟩ OptionName.user = some "a") ∧
      (after calls).getText "couchbase.user" = .ok "a" ∧
      (after calls).getText "username" =
        .error (.invalidState "option 'username' is not set") := by
  intro calls
  have hoverlay : (after calls).overlay = [("User", "a")] := by decide +kernel
  refine ⟨?_, by decide +kernel, fun written => ?_, by decide +kernel, by decide +kernel⟩
  · rw [← mem_of_perm (.refl _), hoverlay]
    exact List.mem_cons_self
  · rw [hoverlay]
    rfl

/-- Of two spellings the one that comes last in the overlay is resolved. -/
example : Sources.find? ⟨[("User", "b"), ("user", "a")], []⟩ OptionName.user = some "a" ∧
    Sources.find? ⟨[("user", "a"), ("User", "b")], []⟩ OptionName.user = some "b" := by
  decide +kernel

end Database

end KeyspaceLink

import KeyspaceLink.Proofs.ClusterCalls
import KeyspaceLink.Proofs.JsonRange
import KeyspaceLink.Proofs.JsonText
import KeyspaceLink.Proofs.SettingsBlock
import KeyspaceLink.Session.Describe

/-! The document that describes a bucket, used as settings to create one again: every setting
comes back, whatever a bucket is called and whatever its settings are. -/

namespace KeyspaceLink

open Plan

/-- The quota is a word, the other numbers half of one. -/
structure BucketSettings.InRange (s : BucketSettings) : Prop where
  quota : s.ramQuotaMB < word64
  replicas : s.replicaNumber < word32
  ttl : s.maxTTL < word32

section Words

theorem Compression.says_text (c : Compression) : SaysWord words (.text c.text) c := by
  have hmem : (lower c.text, c) ∈ words := by cases c <;> decide +kernel
  exact .text hmem

theorem BucketKind.says_text (k : BucketKind) : SaysWord words (.text k.text) k := by
  have hmem : (lower k.text, k) ∈ words := by cases k <;> decide +kernel
  exact .text hmem

theorem ConflictResolution.says_text (r : ConflictResolution) :
    SaysWord words (.text r.text) r := by
  have hmem : (lower r.text, r) ∈ words := by cases r <;> decide +kernel
  exact .text hmem

theorem Eviction.says_text (e : Eviction) : SaysWord words (.text e.text) e := by
  have hmem : (lower e.text, e) ∈ words := by cases e <;> decide +kernel
  exact .text hmem

end Words

namespace SettingsPatch

/-- The patch that sets all there is. -/
def ofSettings (s : BucketSettings) : SettingsPatch where
  flushEnabled := some s.flushEnabled
  ramQuotaMB := some s.ramQuotaMB
  replicaNumber := some s.replicaNumber
  replicaIndexes := some s.replicaIndexes
  maxTTL := some s.maxTTL
  compression := some s.compression
  kind := some s.kind
  conflictResolution := some s.conflictResolution
  eviction := s.eviction

theorem apply_ofSettings (s : BucketSettings) :
    ({ name := s.name } : BucketSettings).apply (ofSettings s) = s := by
  simp [BucketSettings.apply, ofSettings]

end SettingsPatch

namespace BucketSettings

variable {s : BucketSettings}

theorem legible_document (h : s.InRange) : s.document.Legible Json.depthLimit := by
  have hnumber : ∀ {n : Nat}, n < word64 → (Json.ofNat n).Legible 126 :=
    fun h => .int (by omega) (by omega)
  have heviction : (Json.ofText? (s.eviction.map Eviction.text)).Legible 126 := by
    cases s.eviction with
    | none => exact .null
    | some e => exact .text e.text
  have hhalf : word32 < word64 := by decide
  refine .object (by simp) ?_
  simp only [List.forall_mem_cons, List.not_mem_nil, false_implies, implies_true, and_true]
  exact ⟨.bool _, hnumber h.quota, hnumber (Nat.lt_trans h.replicas hhalf), .bool _,
    hnumber (Nat.lt_trans h.ttl hhalf), .text _, .text _, .text _, heviction⟩

end BucketSettings

namespace SettingsPatch

variable {s : BucketSettings} {p : SettingsPatch}

theorem foldlM_set_cons {p p' : SettingsPatch} {name : String} {v : Json}
    {rest : List (String × Json)} (h : p.set name v = some p') :
    ((name, v) :: rest).foldlM (fun p m => p.set m.1 m.2) p =
      rest.foldlM (fun p m => p.set m.1 m.2) p' := by
  rw [List.foldlM_cons, h]
  rfl

theorem set_eviction (hp : p.eviction = none) (eviction : Option Eviction) :
    p.set Setting.evictionPolicy.name (.ofText? (eviction.map Eviction.text)) =
      some { p with eviction } := by
  cases eviction with
  | none =>
    have hnull : p.set Setting.evictionPolicy.name .null = some p := set_of_null rfl
    have hsame : p = { p with eviction := none } := by
      rw [← hp]
    rw [Option.map_none, Json.ofText?, hnull]
    exact congrArg some hsame
  | some e => exact set_name rfl e.says_text

/-- Each member of the document sets its own setting, and an eviction policy that is not there
sets nothing. -/
theorem ofMembers_document (h : s.InRange) :
    s.document.members?.bind ofMembers = some (ofSettings s) := by
  have hflush : ∀ p : SettingsPatch, p.set "flushEnabled" (.bool s.flushEnabled) =
      some { p with flushEnabled := some s.flushEnabled } :=
    fun p => set_name (s := .flushEnabled) rfl (.bool _)
  have hquota : ∀ p : SettingsPatch, p.set "ramQuotaMB" (.ofNat s.ramQuotaMB) =
      some { p with ramQuotaMB := some s.ramQuotaMB } :=
    fun p => set_name (s := .ramQuotaMB) rfl (.int h.quota)
  have hreplicas : ∀ p : SettingsPatch, p.set "replicaNumber" (.ofNat s.replicaNumber) =
      some { p with replicaNumber := some s.replicaNumber } :=
    fun p => set_name (s := .replicaNumber) rfl (.int h.replicas)
  have hindexes : ∀ p : SettingsPatch, p.set "replicaIndexes" (.bool s.replicaIndexes) =
      some { p with replicaIndexes := some s.replicaIndexes } :=
    fun p => set_name (s := .replicaIndexes) rfl (.bool _)
  have httl : ∀ p : SettingsPatch, p.set "maxTTL" (.ofNat s.maxTTL) =
      some { p with maxTTL := some s.maxTTL } :=
    fun p => set_name (s := .maxTTL) rfl (.int h.ttl)
  have hcompression : ∀ p : SettingsPatch, p.set "compressionMode" (.text s.compression.text) =
      some { p with compression := some s.compression } :=
    fun p => set_name (s := .compressionMode) rfl s.compression.says_text
  have hkind : ∀ p : SettingsPatch, p.set "bucketType" (.text s.kind.text) =
      some { p with kind := some s.kind } :=
    fun p => set_name (s := .bucketType) rfl s.kind.says_text
  have hconflict : ∀ p : SettingsPatch,
      p.set "conflictResolutionType" (.text s.conflictResolution.text) =
        some { p with conflictResolution := some s.conflictResolution } :=
    fun p => set_name (s := .conflictResolutionType) rfl s.conflictResolution.says_text
  rw [BucketSettings.document, Json.members?, Option.bind_some, ofMembers]
  rw [foldlM_set_cons (hflush _), foldlM_set_cons (hquota _), foldlM_set_cons (hreplicas _),
    foldlM_set_cons (hindexes _), foldlM_set_cons (httl _), foldlM_set_cons (hcompression _),
    foldlM_set_cons (hkind _), foldlM_set_cons (hconflict _)]
  exact foldlM_set_cons (set_eviction rfl s.eviction)

theorem read_document (h : s.InRange) : read s.document.print = .ok (ofSettings s) := by
  have hlegible := BucketSettings.legible_document h
  have hparse : Json.parseChars (Json.relax s.document.print.toList) = .ok s.document := by
    rw [Json.print, String.toList_ofList, Json.relax_write hlegible, Json.parseChars_write hlegible]
  obtain ⟨members, hmembers, hpatch⟩ := Option.bind_eq_some_iff.mp (ofMembers_document h)
  have hdocument : s.document = .object members := congrArg Json.object (Option.some.inj hmembers)
  have hdecodes : Decodes s.document.print members := hparse.trans (congrArg Except.ok hdocument)
  exact read_eq_ok_iff.mpr ⟨members, hdecodes, hpatch⟩

end SettingsPatch

namespace BucketSettings

theorem halfWord_lt (n : Nat) : halfWord n < word32 := by
  have hpos : 0 < word32 := by decide
  rw [halfWord]
  omega

theorem elim_halfWord_lt (n? : Option Nat) {n : Nat} (hn : n < word32) :
    n?.elim n halfWord < word32 := by
  cases n? with
  | none => exact hn
  | some m => exact halfWord_lt m

/-- The numbers of a description fit the settings read from it. -/
theorem inRange_ofManager {v : Json} {s : BucketSettings} (hv : v.Bounded)
    (h : ofManager v = .ok s) : s.InRange := by
  have hquota : (((v.get? "quota").bind (Json.get? · "rawRAM")).bind Json.natural?).elim 100
      (· / (1024 * 1024)) < word64 := by
    cases hraw : ((v.get? "quota").bind (Json.get? · "rawRAM")).bind Json.natural? with
    | none => exact (by decide : 100 < word64)
    | some n =>
      obtain ⟨raw, hraw, hn⟩ := Option.bind_eq_some_iff.mp hraw
      obtain ⟨quota, hquota, hraw⟩ := Option.bind_eq_some_iff.mp hraw
      have hlt : n < word64 := ((hv.get? hquota).get? hraw).natural?_lt hn
      exact Nat.lt_of_le_of_lt (Nat.div_le_self n _) hlt
  unfold ofManager at h
  split at h
  · cases h
  · cases h
    exact ⟨hquota, elim_halfWord_lt _ (by decide : 1 < word32),
      elim_halfWord_lt _ (by decide : 0 < word32)⟩

/-- Creating a bucket of the same name, with the document as its settings, gives the same
settings and so the same form. -/
def Recreated (s : BucketSettings) : Prop :=
  ∃ patch, SettingsPatch.read s.document.print = .ok patch ∧
    ({ name := s.name } : BucketSettings).apply patch = s ∧
    (({ name := s.name } : BucketSettings).apply patch).form = s.form

theorem InRange.recreated {s : BucketSettings} (h : s.InRange) : s.Recreated := by
  have hsame := SettingsPatch.apply_ofSettings s
  exact ⟨_, SettingsPatch.read_document h, hsame, congrArg form hsame⟩

theorem json_of_parse {reply : ManagerReply} {v : Json} (h : Json.parse reply.body = .ok v) :
    reply.json = .ok v := by
  rw [ManagerReply.json, h]

theorem bounded_of_json {reply : ManagerReply} {v : Json} (h : reply.json = .ok v) : v.Bounded := by
  rw [ManagerReply.json] at h
  split at h
  · next w hparse =>
    cases h
    exact Json.bounded_of_parse hparse
  · cases h

/-- The document of a row that describes a bucket is that of settings read from the reply. -/
theorem row_of_describe {name : String} {talk : List ClusterEvent} {outcome : Outcome}
    (h : (DescribeBucket.settings name).Conversation talk (.ok outcome)) :
    ∃ reply v s, talk = [.answered (.manage (.get (bucketPath name))) (.ok reply)] ∧
      reply.json = .ok v ∧ ofManager v = .ok s ∧ outcome = resultRows [s.document] := by
  simp only [DescribeBucket.settings, bind_eq] at h
  obtain ⟨reply, first, second, rfl, hreply, h⟩ := conversation_bind_ok_iff.mp h
  split at h
  · cases (conversation_fail_iff.mp h).2
  · obtain ⟨reply', hrequire, h⟩ := conversation_ofExcept_bind_ok_iff.mp h
    obtain ⟨v, hv, h⟩ := conversation_ofExcept_bind_ok_iff.mp h
    obtain ⟨s, hs, h⟩ := conversation_ofExcept_bind_ok_iff.mp h
    obtain ⟨rfl, he⟩ := conversation_done_iff.mp h
    cases he
    obtain rfl : reply' = reply := (ManagerReply.require_eq_ok_iff.mp hrequire).2
    exact ⟨reply', v, s, by rw [conversation_manage_iff.mp hreply, List.append_nil], hv, hs, rfl⟩

end BucketSettings

open BucketSettings

/-- Settings are recreated from the document that describes them: all there are, those read from
a description by the cluster manager, and so those in a row that describes a bucket. -/
theorem described_settings_are_recreated :
    (∀ s : BucketSettings, s.InRange → s.Recreated) ∧
      (∀ v s, v.Bounded → ofManager v = .ok s → s.Recreated) ∧
      ∀ name talk outcome, (DescribeBucket.settings name).Conversation talk (.ok outcome) →
        ∃ reply v s, talk = [.answered (.manage (.get (bucketPath name))) (.ok reply)] ∧
          reply.json = .ok v ∧ ofManager v = .ok s ∧ outcome = resultRows [s.document] ∧
          s.Recreated := by
  refine ⟨fun s h => h.recreated, fun v s hv h => (inRange_ofManager hv h).recreated, ?_⟩
  intro name talk outcome h
  obtain ⟨reply, v, s, htalk, hv, hs, houtcome⟩ := row_of_describe h
  have hrange : s.InRange := inRange_ofManager (bounded_of_json hv) hs
  exact ⟨reply, v, s, htalk, hv, hs, houtcome, hrange.recreated⟩

/-- Settings with every number at its limit, a description whose numbers are past it, and a
row that describes the bucket. -/
theorem settings_at_limits_are_recreated :
    let s : BucketSettings :=
      { name := "größe", flushEnabled := true, ramQuotaMB := 18446744073709551615,
        replicaNumber := 4294967295, replicaIndexes := true, maxTTL := 4294967295,
        compression := .off, kind := .memcached, conflictResolution := .custom,
        eviction := some .notRecentlyUsed }
    let v : Json := .object [("name", .text "b"), ("controllers", .object [("flush", .null)]),
      ("quota", .object [("rawRAM", .int 18446744073709551615)]),
      ("replicaNumber", .int 4294967296), ("evictionPolicy", .text "valueOnly")]
    let d : BucketSettings :=
      { name := "b", flushEnabled := true, ramQuotaMB := 17592186044415,
        replicaNumber := 4294967295, eviction := some .valueOnly }
    let talk : List ClusterEvent :=
      [.answered (.manage (.get (bucketPath "b"))) (.ok ⟨200, v.print⟩)]
    s.InRange ∧ s.Recreated ∧ v.Bounded ∧ ofManager v = .ok d ∧ d.Recreated ∧
      (DescribeBucket.settings "b").Conversation talk (.ok (resultRows [d.document])) ∧
      ∃ reply v' s', talk = [.answered (.manage (.get (bucketPath "b"))) (.ok reply)] ∧
        reply.json = .ok v' ∧ ofManager v' = .ok s' ∧
        resultRows [d.document] = resultRows [s'.document] ∧ s'.Recreated := by
  intro s v d talk
  have hs : s.InRange := ⟨by decide, by decide, by decide⟩
  have hlegible : v.Legible Json.depthLimit := by
    refine .object (by simp) ?_
    simp only [List.forall_mem_cons, List.not_mem_nil, false_implies, implies_true, and_true]
    refine ⟨.text _, .object (by simp) ?_, .object (by simp) ?_, .int (by decide) (by decide),
      .text _⟩
    · exact List.forall_mem_singleton.mpr .null
    · exact List.forall_mem_singleton.mpr (.int (by decide) (by decide))
  have hparse : Json.parse v.print = .ok v := by
    rw [Json.parse, Json.print, String.toList_ofList, Json.parseChars_write hlegible]
    rfl
  have hread : ofManager v = .ok d := rfl
  have hjson : (ManagerReply.mk 200 v.print).json = .ok v := json_of_parse hparse
  have hv : v.Bounded := bounded_of_json hjson
  have hrow : (DescribeBucket.settings "b").Conversation talk (.ok (resultRows [d.document])) := by
    refine .call _ _ (conversation_ofExcept_bind_ok_iff.mpr ⟨_, rfl, ?_⟩)
    refine conversation_ofExcept_bind_ok_iff.mpr ⟨_, rfl, ?_⟩
    refine conversation_ofExcept_bind_ok_iff.mpr ⟨_, hjson, ?_⟩
    exact conversation_ofExcept_bind_ok_iff.mpr ⟨_, hread, .done _⟩
  obtain ⟨hall, hdescribed, hrows⟩ := described_settings_are_recreated
  exact ⟨hs, hall s hs, hv, hread, hdescribed v d hv hread, hrow, hrows "b" talk _ hrow⟩

end KeyspaceLink

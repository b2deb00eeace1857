import KeyspaceLink.Proofs.ClusterCalls
import KeyspaceLink.Session.Readiness

/-! Waits: a probe found not ready is repeated after a pause, any other ends the wait. The
last probe is made at the deadline. -/

namespace KeyspaceLink

open Plan

section Waits

variable {Call : Type} {Reply : Call → Type} {α : Type}

/-- A probe that finds what is waited for not ready. -/
def IsUnready (outcome : Except Failure α) : Prop := ∃ e, outcome = .error e ∧ e.kind = .notReady

/-- A wait from a time and a number of pauses on. -/
inductive Waited (timeout : Nat) (resource : String) (probe : Plan Call Reply α) :
    Nat → Nat → List (Event Call Reply) → Except Failure α → Prop where
  | ended {elapsed attempt : Nat} {talk : List (Event Call Reply)} {outcome : Except Failure α}
      (h : Conversation probe talk outcome) (ready : ¬ IsUnready outcome) :
      Waited timeout resource probe elapsed attempt talk outcome
  | expired {elapsed attempt : Nat} {talk : List (Event Call Reply)} {e : Failure}
      (h : Conversation probe talk (.error e)) (unready : e.kind = .notReady)
      (late : timeout ≤ elapsed) :
      Waited timeout resource probe elapsed attempt talk (.error (timedOut timeout resource e))
  | again {elapsed attempt : Nat} {first rest : List (Event Call Reply)}
      {outcome : Except Failure α} {e : Failure} (h : Conversation probe first (.error e))
      (unready : e.kind = .notReady) (early : elapsed < timeout)
      (later : Waited timeout resource probe
        (elapsed + min (backoff attempt) (timeout - elapsed)) (attempt + 1) rest outcome) :
      Waited timeout resource probe elapsed attempt
        (first ++ .paused (min (backoff attempt) (timeout - elapsed)) :: rest) outcome

theorem conversation_waitFrom_iff {timeout : Nat} {resource : String}
    {probe : Plan Call Reply α} {elapsed attempt : Nat} {talk : List (Event Call Reply)}
    {outcome : Except Failure α} :
    Conversation (waitFrom timeout resource probe elapsed attempt) talk outcome ↔
      Waited timeout resource probe elapsed attempt talk outcome := by
  constructor
  · intro h
    induction hleft : timeout - elapsed using Nat.strongRecOn generalizing elapsed attempt talk with
    | ind left ih =>
      rw [waitFrom] at h
      obtain ⟨x, first, rest, rfl, hprobe, h₂⟩ := conversation_attempt_bind_iff.mp h
      cases x with
      | ok a =>
        obtain ⟨rfl, rfl⟩ := conversation_done_iff.mp h₂
        rw [List.append_nil]
        refine .ended hprobe ?_
        rintro ⟨e, he, -⟩
        cases he
      | error e =>
        dsimp only at h₂
        split at h₂
        · next hk =>
          split at h₂
          · next ht =>
            obtain ⟨later, rfl, hlater⟩ := conversation_sleep_iff.mp h₂
            have := backoff_pos attempt
            refine .again hprobe hk ht (ih _ ?_ hlater rfl)
            omega
          · next ht =>
            obtain ⟨rfl, rfl⟩ := conversation_fail_iff.mp h₂
            rw [List.append_nil]
            exact .expired hprobe hk (by omega)
        · next hk =>
          obtain ⟨rfl, rfl⟩ := conversation_fail_iff.mp h₂
          rw [List.append_nil]
          refine .ended hprobe ?_
          rintro ⟨e', he, hk'⟩
          cases he
          exact hk hk'
  · intro h
    induction h with
    | @ended elapsed attempt talk outcome h ready =>
      rw [waitFrom, ← List.append_nil talk]
      refine (conversation_attempt_iff.mpr ⟨_, h, rfl⟩).bind ?_
      cases outcome with
      | ok a => exact .done a
      | error e =>
        have hk : e.kind ≠ .notReady := fun hk => ready ⟨e, rfl, hk⟩
        simp only [if_neg hk]
        exact .fail e
    | @expired elapsed attempt talk e h unready late =>
      rw [waitFrom, ← List.append_nil talk]
      refine (conversation_attempt_iff.mpr ⟨_, h, rfl⟩).bind ?_
      simp only [if_pos unready, dif_neg (Nat.not_lt.mpr late)]
      exact .fail _
    | again h unready early _ ih =>
      rw [waitFrom]
      refine (conversation_attempt_iff.mpr ⟨_, h, rfl⟩).bind ?_
      simp only [if_pos unready, dif_pos early]
      exact .sleep _ ih

theorem asks_waitFrom {P : Call → Prop} {timeout : Nat} {resource : String}
    {probe : Plan Call Reply α} (hp : probe.Asks P) (elapsed attempt : Nat) :
    (waitFrom timeout resource probe elapsed attempt).Asks P := by
  induction hleft : timeout - elapsed using Nat.strongRecOn generalizing elapsed attempt with
  | ind left ih =>
    rw [waitFrom]
    refine hp.attempt.bind fun outcome => ?_
    cases outcome with
    | ok a => exact .done a
    | error e =>
      dsimp only
      split
      · split
        · have := backoff_pos attempt
          exact .sleep _ (ih _ (by omega) _ _ rfl)
        · exact .fail _
      · exact .fail _

/-- Answers that were not what is waited for, with the pauses after them, and the last. -/
def polls (c : Call) (waits : List (Reply c × Nat)) (last : Reply c) : List (Event Call Reply) :=
  (waits.flatMap fun w => [.answered c w.1, .paused w.2]) ++ [.answered c last]

/-- A wait on a plan of one call polls; it succeeds with the last poll or not at all. -/
theorem Waited.polls {timeout : Nat} {resource : String} {probe : Plan Call Reply α} {c : Call}
    {V : Reply c → Except Failure α → Prop} (hp : AsksOnce probe c V) {elapsed attempt : Nat}
    {talk : List (Event Call Reply)} {outcome : Except Failure α}
    (h : Waited timeout resource probe elapsed attempt talk outcome) :
    ∃ waits last x, talk = KeyspaceLink.polls c waits last ∧
      (∀ w ∈ waits, ∃ e, V w.1 (.error e) ∧ e.kind = .notReady) ∧ V last x ∧
      ∀ a, outcome = .ok a ↔ x = .ok a := by
  induction h with
  | ended h _ =>
    obtain ⟨r, rfl, hv⟩ := hp _ _ h
    exact ⟨[], r, _, rfl, by simp, hv, fun _ => Iff.rfl⟩
  | expired h _ _ =>
    obtain ⟨r, rfl, hv⟩ := hp _ _ h
    exact ⟨[], r, _, rfl, by simp, hv, by simp⟩
  | @again elapsed attempt first rest outcome e h unready _ _ ih =>
    obtain ⟨r, rfl, hv⟩ := hp _ _ h
    obtain ⟨waits, last, x, rfl, hwaits, hlast, hx⟩ := ih
    refine ⟨(r, min (backoff attempt) (timeout - elapsed)) :: waits, last, x, rfl, ?_, hlast, hx⟩
    intro w hw
    rcases List.mem_cons.mp hw with rfl | hw
    · exact ⟨e, hv, unready⟩
    · exact hwaits w hw

theorem conversation_waitFor {timeout : Nat} {resource : String} {probe : Plan Call Reply α}
    {c : Call} {V : Reply c → Except Failure α → Prop} (hp : AsksOnce probe c V)
    {talk : List (Event Call Reply)} {outcome : Except Failure α}
    (h : Conversation (waitFor timeout resource probe) talk outcome) :
    ∃ waits last x, talk = polls c waits last ∧
      (∀ w ∈ waits, ∃ e, V w.1 (.error e) ∧ e.kind = .notReady) ∧ V last x ∧
      ∀ a, outcome = .ok a ↔ x = .ok a :=
  (conversation_waitFrom_iff.mp h).polls hp

theorem conversation_waitFor_done {β : Type} {b : β} {timeout : Nat} {resource : String}
    {probe : Plan Call Reply Unit} {c : Call} {L : Reply c → Prop}
    (hp : AsksOnce probe c fun r outcome => ∀ u, outcome = .ok u ↔ L r)
    {talk : List (Event Call Reply)} {outcome : Except Failure β}
    (h : Conversation ((waitFor timeout resource probe).bind fun _ => .done b) talk outcome) :
    ∃ waits last, talk = polls c waits last ∧ ((∃ o, outcome = .ok o) ↔ L last) := by
  rcases conversation_bind_iff.mp h with ⟨e, he, rfl⟩ | ⟨u, first, second, rfl, h₁, h₂⟩
  · obtain ⟨waits, last, x, rfl, -, hlast, hx⟩ := conversation_waitFor hp he
    refine ⟨waits, last, rfl, nofun, fun hr => ?_⟩
    cases (hx ()).mpr ((hlast ()).mpr hr)
  · obtain ⟨waits, last, x, rfl, -, hlast, hx⟩ := conversation_waitFor hp h₁
    obtain ⟨rfl, rfl⟩ := conversation_done_iff.mp h₂
    rw [List.append_nil]
    exact ⟨waits, last, rfl, fun _ => (hlast u).mp ((hx u).mp rfl), fun _ => ⟨b, rfl⟩⟩

theorem asked_polls {c : Call} {waits : List (Reply c × Nat)} {last : Reply c} :
    ∀ call ∈ asked (polls c waits last), call = c := by
  intro call hc
  simp only [polls, asked, List.filterMap_append, List.mem_append, List.mem_filterMap,
    List.mem_flatMap] at hc
  rcases hc with ⟨event, ⟨w, -, hw⟩, hcall⟩ | ⟨event, hevent, hcall⟩
  · simp only [List.mem_cons, List.not_mem_nil, or_false] at hw
    rcases hw with rfl | rfl
    · exact (Option.some.inj hcall).symm
    · cases hcall
  · rw [List.mem_singleton.mp hevent] at hcall
    exact (Option.some.inj hcall).symm

theorem getLast?_polls {c : Call} {waits : List (Reply c × Nat)} {last : Reply c} :
    (polls c waits last).getLast? = some (.answered c last) := by
  rw [polls, List.getLast?_concat]

end Waits

theorem queryAnswers_polls_query {sql : String} {options : QueryOptions}
    {waits : List (ClusterCall.Reply (.query sql options) × Nat)}
    {last : ClusterCall.Reply (.query sql options)} :
    queryAnswers (polls (.query sql options) waits last) = waits.map Prod.fst ++ [last] := by
  induction waits with
  | nil => rfl
  | cons w rest ih =>
    rw [List.map_cons, List.cons_append, ← ih]
    rfl

theorem queryAnswers_polls_manage {request : ManagerRequest}
    {waits : List (ClusterCall.Reply (.manage request) × Nat)}
    {last : ClusterCall.Reply (.manage request)} :
    queryAnswers (polls (.manage request) waits last) = [] := by
  induction waits with
  | nil => rfl
  | cons w rest ih => exact ih

theorem bind_text?_eq_some_iff {v : Option Json} {s : String} :
    v.bind Json.text? = some s ↔ v = some (.text s) := by
  cases v with
  | none => simp
  | some v => cases v <;> simp [Json.text?]

namespace IndexStatus

/-- The answer is a list of indexes. -/
def Lists (answer : Except Failure ManagerReply) (s : IndexStatus) : Prop :=
  ∃ reply, answer = .ok reply ∧ reply.Succeeds ∧ read reply.body = .ok s

/-- An entry of the primary index of a bucket. -/
def IsPrimaryOf (bucket : String) (entry : Json) : Prop :=
  entry.get? "bucket" = some (.text bucket) ∧ entry.get? "index" = some (.text "#primary")

def ListsReady (bucket : String) (answer : Except Failure ManagerReply) : Prop :=
  ∃ s, Lists answer s ∧ (∃ entry ∈ s.indexes, IsPrimaryOf bucket entry) ∧
    ∀ entry ∈ s.indexes, IsPrimaryOf bucket entry →
      entry.get? "status" = some (.text "Ready")

def ListsGone (bucket : String) (answer : Except Failure ManagerReply) : Prop :=
  ∃ s, Lists answer s ∧ ∀ entry ∈ s.indexes, ¬ IsPrimaryOf bucket entry

theorem mem_find_iff {s : IndexStatus} {bucket : String} {entry : Json} :
    entry ∈ s.find bucket primaryName ↔ entry ∈ s.indexes ∧ IsPrimaryOf bucket entry := by
  rw [find, List.mem_filter, Bool.and_eq_true, beq_iff_eq, beq_iff_eq, bind_text?_eq_some_iff,
    bind_text?_eq_some_iff]
  rfl

theorem asksOnce_fetch :
    AsksOnce fetch (.manage (.get "/indexStatus")) fun r outcome =>
      ∀ s, outcome = .ok s ↔ Lists r s := by
  refine (asksOnce_manage _).bind fun reply talk outcome h => ?_
  rcases conversation_ofExcept_bind_iff.mp h with ⟨e, he, rfl, rfl⟩ | ⟨reply', hr, h₁⟩
  · refine ⟨rfl, fun s => ⟨nofun, fun hs => ?_⟩⟩
    rw [ManagerReply.require_eq_ok_iff.mpr ⟨hs.1, rfl⟩] at he
    cases he
  · obtain ⟨hsucceeds, rfl⟩ := ManagerReply.require_eq_ok_iff.mp hr
    cases hread : read reply'.body with
    | ok status =>
      rw [hread] at h₁
      obtain ⟨rfl, rfl⟩ := conversation_done_iff.mp h₁
      refine ⟨rfl, fun s => ?_⟩
      rw [and_iff_right hsucceeds, Except.ok.injEq, Except.ok.injEq]
    | error e =>
      rw [hread] at h₁
      obtain ⟨rfl, rfl⟩ := conversation_fail_iff.mp h₁
      exact ⟨rfl, fun s => ⟨nofun, fun hs => nomatch hs.2⟩⟩

theorem asksOnce_probePrimaryGone (bucket : String) :
    AsksOnce (probePrimaryGone bucket) (.manage (.get "/indexStatus")) fun r outcome =>
      ∀ u, outcome = .ok u ↔ ListsGone bucket r := by
  refine asksOnce_fetch.bind fun s talk outcome h => ?_
  cases hfind : s.find bucket primaryName with
  | nil =>
    rw [hfind] at h
    obtain ⟨rfl, rfl⟩ := conversation_done_iff.mp h
    refine ⟨rfl, fun _ => ⟨fun _ entry hm hp => ?_, fun _ => rfl⟩⟩
    have he : entry ∈ s.find bucket primaryName := mem_find_iff.mpr ⟨hm, hp⟩
    rw [hfind] at he
    cases he
  | cons first rest =>
    rw [hfind] at h
    obtain ⟨rfl, rfl⟩ := conversation_fail_iff.mp h
    obtain ⟨hm, hp⟩ := mem_find_iff.mp (show first ∈ s.find bucket primaryName by simp [hfind])
    exact ⟨rfl, fun _ => ⟨nofun, fun hq => absurd hp (hq first hm)⟩⟩

end IndexStatus

end KeyspaceLink

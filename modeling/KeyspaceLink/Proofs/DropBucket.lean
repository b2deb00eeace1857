import KeyspaceLink.Proofs.CreateBucket
import KeyspaceLink.Session.DropBucket

/-! What dropping a bucket asks a cluster, whatever it answers: one statement for the index,
then one deletion of the bucket, then polls of the index list. -/

namespace KeyspaceLink

open Plan

namespace DropBucket

/-- The statement failed because there is no such keyspace. -/
def Missing (e : Failure) : Prop :=
  (∃ entry ∈ e.entries, entry.code = "12003") ∨ e.Tells "not exist"

theorem isMissing_iff {e : Failure} : isMissing e = true ↔ Missing e := by
  rw [isMissing, Bool.or_eq_true, Failure.hasCode_iff, Failure.mentions_iff]
  rfl

/-- What follows the answer to the deletion. -/
structure Deletion (c : DropBucket) (answer : Except Failure ManagerReply)
    (rest : List ClusterEvent) (outcome : Except Failure Outcome) : Prop where
  failed : ∀ e, answer = .error e → rest = [] ∧ outcome = .error e
  absent : ∀ reply, answer = .ok reply → reply.status = 404 → rest = [] ∧ outcome = .ok .done
  refused : ∀ reply, answer = .ok reply → reply.status ≠ 404 → ¬ reply.Succeeds →
    rest = [] ∧ ∃ e, outcome = .error e
  polled : ∀ call ∈ asked rest, call = .manage (.get "/indexStatus")
  gone : ∀ reply, answer = .ok reply → reply.Succeeds → ((∃ o, outcome = .ok o) ↔ ∃ listed,
    rest.getLast? = some (.answered (.manage (.get "/indexStatus")) listed) ∧
      IndexStatus.ListsGone c.table.name listed)

/-- What follows the answer to the statement for the index. -/
structure Dropping (c : DropBucket) (answer : Except Failure QueryReply)
    (rest : List ClusterEvent) (outcome : Except Failure Outcome) : Prop where
  unrelated : ∀ e, answer = .error e → ¬ Missing e → rest = [] ∧ outcome = .error e
  deleted : (∀ e, answer = .error e → Missing e) → ∃ deletion later,
    rest = .answered (.manage (.delete (bucketPath c.table.name))) deletion :: later ∧
      Deletion c deletion later outcome

theorem deletion_of_ended {c : DropBucket} {answer : Except Failure ManagerReply}
    {outcome : Except Failure Outcome}
    (failed : ∀ e, answer = .error e → outcome = .error e)
    (absent : ∀ reply, answer = .ok reply → reply.status = 404 → outcome = .ok .done)
    (refused : ∀ reply, answer = .ok reply → reply.status ≠ 404 →
      ¬ reply.Succeeds ∧ ∃ e, outcome = .error e) : Deletion c answer [] outcome where
  failed e he := ⟨rfl, failed e he⟩
  absent reply hr hs := ⟨rfl, absent reply hr hs⟩
  refused reply hr hs _ := ⟨rfl, (refused reply hr hs).2⟩
  polled := by simp [asked]
  gone reply hr hs := by
    by_cases habsent : reply.status = 404
    · have := hs.2
      omega
    · exact absurd hs (refused reply hr habsent).1

theorem deletion_of_polls {c : DropBucket} {reply : ManagerReply} {rest : List ClusterEvent}
    {outcome : Except Failure Outcome} (hs : reply.Succeeds) (ha : reply.status ≠ 404)
    (h : Conversation
      ((waitFor indexGoneTimeout "A requested index"
        (IndexStatus.probePrimaryGone c.table.name)).bind fun _ => .done .done) rest outcome) :
    Deletion c (.ok reply) rest outcome := by
  obtain ⟨waits, last, rfl, ho⟩ :=
    conversation_waitFor_done (IndexStatus.asksOnce_probePrimaryGone c.table.name) h
  constructor
  case failed => exact nofun
  case absent =>
    rintro reply' hr h404
    cases hr
    exact absurd h404 ha
  case refused =>
    rintro reply' hr - hn
    cases hr
    exact absurd hs hn
  case polled => exact asked_polls
  case gone =>
    rintro reply' hr -
    cases hr
    rw [ho, getLast?_polls]
    constructor
    · intro hlast
      exact ⟨last, rfl, hlast⟩
    · rintro ⟨listed, he, hlisted⟩
      cases he
      exact hlisted

theorem conversation_deletion {c : DropBucket} {rest : List ClusterEvent}
    {outcome : Except Failure Outcome}
    (h : Conversation
      ((ClusterPlan.manage (.delete (bucketPath c.table.name))).bind fun reply =>
        if (reply.status == 404) = true then .done .done
        else (Plan.ofExcept (reply.require ("Dropping bucket " ++ c.table.name))).bind fun _ =>
          (waitFor indexGoneTimeout "A requested index"
            (IndexStatus.probePrimaryGone c.table.name)).bind fun _ => .done .done)
      rest outcome) :
    ∃ deletion later,
      rest = .answered (.manage (.delete (bucketPath c.table.name))) deletion :: later ∧
        Deletion c deletion later outcome := by
  rcases conversation_bind_iff.mp h with ⟨e, he, rfl⟩ | ⟨reply, first, later, rfl, h₁, h₂⟩
  · refine ⟨.error e, [], conversation_manage_iff.mp he, deletion_of_ended ?_ nofun nofun⟩
    intro e' he'
    cases he'
    rfl
  · obtain rfl := conversation_manage_iff.mp h₁
    refine ⟨.ok reply, later, rfl, ?_⟩
    split at h₂
    · next h404 =>
      obtain ⟨rfl, rfl⟩ := conversation_done_iff.mp h₂
      refine deletion_of_ended nofun (fun _ _ _ => rfl) fun reply' hr hn => ?_
      cases hr
      exact absurd (beq_iff_eq.mp h404) hn
    · next h404 =>
      have habsent : reply.status ≠ 404 := fun hn => h404 (beq_iff_eq.mpr hn)
      rcases conversation_ofExcept_bind_iff.mp h₂ with ⟨e, he, rfl, rfl⟩ | ⟨reply', hr, h₃⟩
      · have hrefused : ¬ reply.Succeeds := by
          intro hs
          rw [ManagerReply.require_eq_ok_iff.mpr ⟨hs, rfl⟩] at he
          cases he
        refine deletion_of_ended nofun (fun reply' hr hn => ?_) fun reply' hr _ => ?_
        · cases hr
          exact absurd hn habsent
        · cases hr
          exact ⟨hrefused, e, rfl⟩
      · obtain ⟨hs, -⟩ := ManagerReply.require_eq_ok_iff.mp hr
        exact deletion_of_polls hs habsent h₃

theorem conversation_execute {c : DropBucket} (hsystem : c.table.isSystem = false)
    {talk : List ClusterEvent} {outcome : Except Failure Outcome}
    (h : Conversation c.execute talk outcome) :
    ∃ answer rest, talk = .answered (.query (indexStatement c.table) {}) answer :: rest ∧
      Dropping c answer rest outcome := by
  simp only [execute, hsystem, Bool.false_eq_true, if_false, bind_eq] at h
  obtain ⟨answer, first, rest, rfl, hanswer, h₂⟩ := conversation_attempt_bind_iff.mp h
  obtain rfl := conversation_query_iff.mp hanswer
  refine ⟨answer, rest, rfl, ?_⟩
  cases answer with
  | ok reply => exact ⟨nofun, fun _ => conversation_deletion h₂⟩
  | error e =>
    dsimp only at h₂
    split at h₂
    · next hm =>
      refine ⟨fun e' he hn => ?_, fun _ => conversation_deletion h₂⟩
      cases he
      exact absurd (isMissing_iff.mp hm) hn
    · next hm =>
      obtain ⟨rfl, rfl⟩ := conversation_fail_iff.mp h₂
      have hn : ¬ Missing e := fun hn => hm (isMissing_iff.mpr hn)
      refine ⟨fun e' he _ => ?_, fun hall => absurd (hall e rfl) hn⟩
      cases he
      exact ⟨rfl, rfl⟩

theorem Dropping.asked {c : DropBucket} {answer : Except Failure QueryReply}
    {rest : List ClusterEvent} {outcome : Except Failure Outcome}
    (h : Dropping c answer rest outcome) :
    asked rest = [] ∨ ∃ polls, asked rest = .manage (.delete (bucketPath c.table.name)) ::
      List.replicate polls (.manage (.get "/indexStatus")) := by
  by_cases hm : ∀ e, answer = .error e → Missing e
  · obtain ⟨deletion, later, rfl, hd⟩ := h.deleted hm
    refine .inr ⟨(Plan.asked later).length, ?_⟩
    exact congrArg _ (List.eq_replicate_iff.mpr ⟨rfl, hd.polled⟩)
  · obtain ⟨e, he⟩ := Classical.not_forall.mp hm
    obtain ⟨he, hn⟩ := Classical.not_imp.mp he
    rw [(h.unrelated e he hn).1]
    exact .inl rfl

/-- The command so many times, as long as it succeeds. -/
def repeated (c : DropBucket) : Nat → ClusterPlan Outcome
  | 0 => .done .done
  | times + 1 => c.execute.bind fun _ => c.repeated times

end DropBucket

end KeyspaceLink

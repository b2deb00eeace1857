import KeyspaceLink.Proofs.Readiness
import KeyspaceLink.Session.CreateBucket

/-! What creating a bucket asks a cluster, whatever it answers: one form first, then the
statement for the index and polls of the index list, or polls of the keys of the bucket. -/

namespace KeyspaceLink

open Plan

/-- A failure whose message or entries hold the text. -/
def Failure.Tells (f : Failure) (text : String) : Prop :=
  text.toList <:+: f.message.toList ∨ ∃ e ∈ f.entries, text.toList <:+: e.text.toList

namespace CreateBucket

/-- The form was taken, or the bucket was there before. -/
def Accepted (answer : Except Failure ManagerReply) : Prop :=
  ∃ reply, answer = .ok reply ∧
    (reply.Succeeds ∨ "already exists".toList <:+: reply.body.toList)

/-- Answers to the statement for the index, and the polls of the index list after them. -/
structure Indexing (table : Keyspace) (waits : List (Except Failure QueryReply × Nat))
    (last : Except Failure QueryReply) (listing : List ClusterEvent)
    (outcome : Except Failure Outcome) : Prop where
  repeated : ∀ w ∈ waits, ∃ e, w.1 = .error e ∧ (e.kind = .notReady ∨ e.Tells "GSI")
  listed : (listing = [] ∧ ∃ e, outcome = .error e) ∨
    ∃ reply polled listed, last = .ok reply ∧
      listing = polls (.manage (.get "/indexStatus")) polled listed ∧
      ((∃ o, outcome = .ok o) ↔ IndexStatus.ListsReady table.name listed)

namespace Indexing

variable {table : Keyspace} {waits : List (Except Failure QueryReply × Nat)}
  {last : Except Failure QueryReply} {listing : List ClusterEvent}
  {outcome : Except Failure Outcome}

theorem asked_listing (h : Indexing table waits last listing outcome) :
    ∀ call ∈ asked listing, call = .manage (.get "/indexStatus") := by
  rcases h.listed with ⟨rfl, -⟩ | ⟨reply, polled, listed, -, rfl, -⟩
  · simp [asked]
  · exact asked_polls

theorem asked (h : Indexing table waits last listing outcome) :
    ∀ call ∈ asked (polls (.query (indexStatement table) {}) waits last ++ listing),
      call = .query (indexStatement table) {} ∨ call = .manage (.get "/indexStatus") := by
  intro call hc
  rw [asked_append, List.mem_append] at hc
  exact hc.imp (asked_polls call) (h.asked_listing call)

theorem queryAnswers (h : Indexing table waits last listing outcome) :
    queryAnswers (polls (.query (indexStatement table) {}) waits last ++ listing) =
      waits.map Prod.fst ++ [last] := by
  rw [queryAnswers_append, queryAnswers_polls_query]
  rcases h.listed with ⟨rfl, -⟩ | ⟨reply, polled, listed, -, rfl, -⟩
  · exact List.append_nil _
  · rw [queryAnswers_polls_manage, List.append_nil]

end Indexing

end CreateBucket

end KeyspaceLink

import KeyspaceLink.Proofs.Conversation
import KeyspaceLink.Session.Basic

/-! Conversations with a cluster: the two calls, their answers, and what was answered to the
queries. -/

namespace KeyspaceLink

open Plan

abbrev ClusterEvent := Event ClusterCall ClusterCall.Reply

/-- A cluster that answers all queries alike, and all requests. -/
def uniformPeer (query : Except Failure QueryReply) (manage : Except Failure ManagerReply) :
    (c : ClusterCall) → c.Reply
  | .query _ _ => query
  | .manage _ => manage

/-- The answers to the queries, in order. -/
def queryAnswers (talk : List ClusterEvent) : List (Except Failure QueryReply) :=
  talk.filterMap fun
    | .answered (.query _ _) r => some r
    | _ => none

theorem queryAnswers_append (first second : List ClusterEvent) :
    queryAnswers (first ++ second) = queryAnswers first ++ queryAnswers second :=
  List.filterMap_append

section Calls

variable {talk : List ClusterEvent}

theorem conversation_query_iff {sql : String} {options : QueryOptions}
    {outcome : Except Failure QueryReply} :
    Conversation (ClusterPlan.query sql options) talk outcome ↔
      talk = [.answered (.query sql options) outcome] := by
  constructor
  · intro h
    obtain ⟨r, rest, rfl, hr⟩ := conversation_call_iff.mp h
    obtain ⟨rfl, rfl⟩ := conversation_ofExcept_iff.mp hr
    rfl
  · rintro rfl
    exact conversation_call_iff.mpr ⟨outcome, [], rfl, conversation_ofExcept_iff.mpr ⟨rfl, rfl⟩⟩

theorem conversation_manage_iff {request : ManagerRequest}
    {outcome : Except Failure ManagerReply} :
    Conversation (ClusterPlan.manage request) talk outcome ↔
      talk = [.answered (.manage request) outcome] := by
  constructor
  · intro h
    obtain ⟨r, rest, rfl, hr⟩ := conversation_call_iff.mp h
    obtain ⟨rfl, rfl⟩ := conversation_ofExcept_iff.mp hr
    rfl
  · rintro rfl
    exact conversation_call_iff.mpr ⟨outcome, [], rfl, conversation_ofExcept_iff.mpr ⟨rfl, rfl⟩⟩

theorem asksOnce_manage (request : ManagerRequest) :
    AsksOnce (ClusterPlan.manage request) (.manage request) fun r outcome =>
      ∀ reply, outcome = .ok reply ↔ r = .ok reply :=
  fun _ outcome h => ⟨outcome, conversation_manage_iff.mp h, fun _ => Iff.rfl⟩

theorem Session.query_of_open {s : Session} (hopen : s.closed = false) (sql : String)
    (readOnly : Bool) :
    s.query sql readOnly = ClusterPlan.query sql (s.queryOptions readOnly) := by
  rw [query, requireOpen, hopen]
  rfl

end Calls

/-- Told of success by its status. -/
def ManagerReply.Succeeds (r : ManagerReply) : Prop := 200 ≤ r.status ∧ r.status < 300

theorem ManagerReply.succeeded_iff {r : ManagerReply} : r.succeeded = true ↔ r.Succeeds := by
  simp [succeeded, isSuccess, Succeeds]

theorem ManagerReply.require_eq_ok_iff {r r' : ManagerReply} {doing : String} :
    r.require doing = .ok r' ↔ r.Succeeds ∧ r' = r := by
  rw [require, ← succeeded_iff]
  split
  · next h => simp [h, eq_comm]
  · next h => simp [h]

end KeyspaceLink

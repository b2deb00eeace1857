import KeyspaceLink.Cluster.Rest
import KeyspaceLink.Proofs.Conversation
import KeyspaceLink.Session.Basic

/-! How often a request is sent, and how often it can come to a server. Every way of sending
one is a number of sends worth another try, each with its pause, and the send that decides. -/

namespace KeyspaceLink

open Plan

abbrev HttpEvent := Event HttpRequest fun _ => HttpOutcome

/-- The outcomes after which a request with this method may be sent again. -/
def MayRetry (method : Method) : HttpOutcome → Prop
  | .ok reply => method ∈ [.get, .head, .delete] ∧ reply.status ∈ [429, 502, 503, 504]
  | .error fault =>
    fault.kind = .connect ∨ fault.kind = .timeout ∧ method ∈ [.get, .head, .delete]

/-- Sends worth another try, from the try with this number on, and the pauses after them. -/
def failedSends (request : HttpRequest) (delay : Nat) : Nat → List HttpOutcome → List HttpEvent
  | _, [] => []
  | number, outcome :: rest =>
    .answered request outcome :: .paused (delay * min (Nat.pow 2 (number - 1)) 4294967295) ::
      failedSends request delay (number + 1) rest

/-- What a caller is told of the last of so many sends. -/
def reported (request : HttpRequest) (sends : Nat) : HttpOutcome → Except Failure HttpReply
  | .ok reply => .ok reply
  | .error fault =>
    .error { Failure.cluster ("HTTP request to " ++ request.url.text ++ " failed after " ++
      toString sends ++ " attempts") with cause := some fault.text }

/-- Sends with at most so many retries, and what is told of them. The word that counts the sends
holds their number. -/
def Delivery (request : HttpRequest) (settings : HttpSettings) (talk : List HttpEvent)
    (told : Except Failure HttpReply) : Prop :=
  ∃ failed last, talk = failedSends request settings.retryDelay 1 failed ++
      [.answered request last] ∧
    failed.length ≤ settings.maxRetries.toNat ∧ failed.length + 1 < word32 ∧
    (∀ outcome ∈ failed, MayRetry request.method outcome) ∧
    (MayRetry request.method last → failed.length = settings.maxRetries.toNat) ∧
    told = reported request (failed.length + 1) last

/-- Whether a send may have come to the server: it did not if no connection was made. -/
def delivered : HttpEvent → Bool
  | .answered _ (.ok _) => true
  | .answered _ (.error fault) => fault.kind != .connect
  | .paused _ => false

/-- Nothing follows a send that may have come to the server. -/
def EndsOnceDelivered (talk : List HttpEvent) : Prop :=
  ∀ before sent after, talk = before ++ sent :: after → delivered sent = true → after = []

theorem Method.isIdempotent_iff {method : Method} :
    method.isIdempotent = true ↔ method ∈ [.get, .head, .delete] := by
  cases method <;> simp [isIdempotent]

theorem isRetryable_iff {method : Method} {outcome : HttpOutcome} :
    isRetryable method outcome = true ↔ MayRetry method outcome := by
  cases outcome with
  | ok reply =>
    rw [isRetryable, MayRetry, Bool.and_eq_true, Method.isIdempotent_iff, isRetryableStatus,
      List.contains_iff_mem]
  | error fault =>
    rw [isRetryable, MayRetry, Bool.or_eq_true, Bool.and_eq_true, Method.isIdempotent_iff,
      beq_iff_eq, beq_iff_eq, and_comm]

theorem conclude_eq (request : HttpRequest) (sends : Nat) (outcome : HttpOutcome) :
    conclude request sends outcome = .ofExcept (reported request sends outcome) := by
  cases outcome <;> rfl

theorem toNat_add_one_of_eq_zero {n : UInt32} (h : n + 1 = 0) : n.toNat + 1 = word32 := by
  have hzero : (n + 1).toNat = 0 := congrArg UInt32.toNat h
  have := n.toNat_lt
  rw [UInt32.toNat_add, UInt32.toNat_one] at hzero
  rw [word32]
  omega

section Sends

variable {request : HttpRequest} {delay : Nat} {most tried : UInt32}

theorem sendFrom_of_eq_zero (h : tried + 1 = 0) :
    sendFrom request delay most tried = .overflow := by
  rw [sendFrom, dif_pos h]

theorem sendFrom_of_ne_zero (h : tried + 1 ≠ 0) :
    sendFrom request delay most tried = .call request fun outcome =>
      if isRetryable request.method outcome && tried + 1 ≤ most then
        .sleep (retryPause delay (tried + 1).toNat) (sendFrom request delay most (tried + 1))
      else conclude request (tried + 1).toNat outcome := by
  rw [sendFrom, dif_neg h]

theorem again_iff (h : tried + 1 ≠ 0) {outcome : HttpOutcome} :
    (isRetryable request.method outcome && tried + 1 ≤ most) = true ↔
      MayRetry request.method outcome ∧ tried.toNat + 1 ≤ most.toNat := by
  rw [Bool.and_eq_true, isRetryable_iff, decide_eq_true_iff, UInt32.le_iff_toNat_le,
    toNat_add_one h]

theorem conversation_sendFrom_iff {talk : List HttpEvent} {told : Except Failure HttpReply}
    (hle : tried ≤ most) :
    Conversation (sendFrom request delay most tried) talk told ↔
      ∃ failed last, talk = failedSends request delay (tried.toNat + 1) failed ++
          [.answered request last] ∧
        tried.toNat + failed.length ≤ most.toNat ∧ tried.toNat + failed.length + 1 < word32 ∧
        (∀ outcome ∈ failed, MayRetry request.method outcome) ∧
        (MayRetry request.method last → tried.toNat + failed.length = most.toNat) ∧
        told = reported request (tried.toNat + failed.length + 1) last := by
  induction tried using sendFrom.induct generalizing talk with
  | case1 tried hzero =>
    have hend : tried.toNat + 1 = word32 := toNat_add_one_of_eq_zero hzero
    rw [sendFrom_of_eq_zero hzero]
    refine iff_of_false not_conversation_overflow ?_
    rintro ⟨failed, last, -, -, hfits, -⟩
    omega
  | case2 tried hne ih =>
    have hnext : (tried + 1).toNat = tried.toNat + 1 := toNat_add_one hne
    have hroom : tried.toNat + 1 < word32 := hnext ▸ (tried + 1).toNat_lt
    simp only [sendFrom_of_ne_zero hne, conversation_call_iff, conclude_eq, retryPause, hnext]
    constructor
    · rintro ⟨first, rest, rfl, hrest⟩
      by_cases hagain : MayRetry request.method first ∧ tried.toNat + 1 ≤ most.toNat
      · rw [if_pos ((again_iff hne).mpr hagain)] at hrest
        obtain ⟨later, rfl, hlater⟩ := conversation_sleep_iff.mp hrest
        obtain ⟨failed, last, rfl, hlength, hfits, hfailed, hlast, rfl⟩ :=
          (ih (UInt32.le_iff_toNat_le.mpr (hnext ▸ hagain.2))).mp hlater
        have hnumber : (tried + 1).toNat + failed.length =
            tried.toNat + (first :: failed).length := by
          rw [hnext, List.length_cons]
          omega
        rw [hnumber] at hlength hfits hlast ⊢
        refine ⟨first :: failed, last, by rw [hnext]; rfl, hlength, hfits, ?_, hlast, rfl⟩
        exact List.forall_mem_cons.mpr ⟨hagain.1, hfailed⟩
      · rw [if_neg (mt (again_iff hne).mp hagain)] at hrest
        obtain ⟨rfl, rfl⟩ := conversation_ofExcept_iff.mp hrest
        have hle' : tried.toNat ≤ most.toNat := UInt32.le_iff_toNat_le.mp hle
        refine ⟨[], first, rfl, hle', hroom, by simp, fun h => ?_, rfl⟩
        have hlast : ¬ tried.toNat + 1 ≤ most.toNat := fun hlt => hagain ⟨h, hlt⟩
        rw [List.length_nil]
        omega
    · rintro ⟨failed, last, rfl, hlength, hfits, hfailed, hlast, rfl⟩
      cases failed with
      | nil =>
        refine ⟨last, [], rfl, ?_⟩
        have hagain : ¬ (MayRetry request.method last ∧ tried.toNat + 1 ≤ most.toNat) := by
          rintro ⟨h, hlt⟩
          have := hlast h
          rw [List.length_nil] at this
          omega
        rw [if_neg (mt (again_iff hne).mp hagain)]
        exact conversation_ofExcept_iff.mpr ⟨rfl, rfl⟩
      | cons first failed =>
        obtain ⟨hfirst, hfailed⟩ := List.forall_mem_cons.mp hfailed
        have hnumber : (tried + 1).toNat + failed.length =
            tried.toNat + (first :: failed).length := by
          rw [hnext, List.length_cons]
          omega
        have hle' : (tried + 1).toNat ≤ most.toNat := by omega
        refine ⟨first, _, rfl, ?_⟩
        rw [if_pos ((again_iff hne).mpr ⟨hfirst, hnext ▸ hle'⟩)]
        refine .sleep _ ((ih (UInt32.le_iff_toNat_le.mpr hle')).mpr ⟨failed, last, ?_, ?_⟩)
        · rw [hnext]
          rfl
        · rw [hnumber]
          exact ⟨hlength, hfits, hfailed, hlast, rfl⟩

theorem asked_failedSends {number : Nat} {failed : List HttpOutcome} :
    asked (failedSends request delay number failed) = List.replicate failed.length request := by
  induction failed generalizing number with
  | nil => rfl
  | cons outcome rest ih =>
    simp only [failedSends, asked, List.filterMap_cons, Event.call?, List.length_cons,
      List.replicate_succ] at ih ⊢
    rw [ih]

theorem failedSends_not_delivered {number : Nat} {failed : List HttpOutcome}
    (hm : request.method ∉ [.get, .head, .delete])
    (h : ∀ outcome ∈ failed, MayRetry request.method outcome) :
    ∀ sent ∈ failedSends request delay number failed, delivered sent = false := by
  induction failed generalizing number with
  | nil => simp [failedSends]
  | cons outcome rest ih =>
    have hfirst : delivered (.answered request outcome) = false := by
      cases outcome with
      | ok reply =>
        have hr : MayRetry request.method (.ok reply) := h (.ok reply) (by simp)
        exact absurd hr.1 hm
      | error fault =>
        rcases h (.error fault) (by simp) with hc | ⟨-, hm'⟩
        · rw [delivered, hc]
          rfl
        · exact absurd hm' hm
    intro sent hs
    simp only [failedSends, List.mem_cons] at hs
    rcases hs with rfl | rfl | hs
    · exact hfirst
    · rfl
    · exact ih (fun o ho => h o (by simp [ho])) sent hs

end Sends

theorem endsOnceDelivered_append {first : List HttpEvent} {last : HttpEvent}
    (h : ∀ sent ∈ first, delivered sent = false) : EndsOnceDelivered (first ++ [last]) := by
  intro before sent after hsplit hsent
  rcases List.eq_nil_or_concat after with rfl | ⟨rest, final, rfl⟩
  · rfl
  · have heq : first ++ [last] = (before ++ sent :: rest) ++ [final] := by
      rw [hsplit, List.concat_eq_append, List.append_assoc, List.cons_append]
    have hfirst : first = before ++ sent :: rest := (List.append_inj' heq rfl).1
    have := h sent (by simp [hfirst])
    rw [hsent] at this
    cases this

theorem endsOnceDelivered_nil : EndsOnceDelivered [] := by
  intro before sent after hsplit _
  simp at hsplit

theorem EndsOnceDelivered.countP_le {talk : List HttpEvent} (h : EndsOnceDelivered talk) :
    talk.countP delivered ≤ 1 := by
  induction talk with
  | nil => simp
  | cons sent rest ih =>
    by_cases hs : delivered sent = true
    · obtain rfl : rest = [] := h [] sent rest rfl hs
      simp [hs]
    · rw [List.countP_cons_of_neg hs]
      refine ih fun before again after hsplit => h (sent :: before) again after ?_
      rw [hsplit, List.cons_append]

namespace Delivery

variable {request : HttpRequest} {settings : HttpSettings} {talk : List HttpEvent}
  {told : Except Failure HttpReply}

theorem asked (h : Delivery request settings talk told) :
    ∃ sends, sends ≤ settings.maxRetries.toNat + 1 ∧
      asked talk = List.replicate sends request := by
  obtain ⟨failed, last, rfl, hlength, -⟩ := h
  refine ⟨failed.length + 1, by omega, ?_⟩
  rw [Plan.asked, List.filterMap_append, List.replicate_succ']
  exact congrArg (· ++ [request]) asked_failedSends

theorem endsOnceDelivered (h : Delivery request settings talk told)
    (hm : request.method ∉ [.get, .head, .delete]) : EndsOnceDelivered talk := by
  obtain ⟨failed, last, rfl, -, -, hfailed, -⟩ := h
  exact endsOnceDelivered_append (failedSends_not_delivered hm hfailed)

end Delivery

section Clients

variable {http : HttpClient} {client : RestClient} {talk : List HttpEvent}

theorem conversation_execute_iff {request : HttpRequest} {told : Except Failure HttpReply} :
    Conversation (http.execute request) talk told ↔
      if request.url.isRequestable then Delivery request http.settings talk told
      else talk = [] ∧ told = reported request 1 (.error ⟨.other, unbuilt request.url⟩) := by
  unfold HttpClient.execute
  split
  · simp only [conversation_sendFrom_iff UInt32.zero_le, UInt32.toNat_zero, Nat.zero_add, Delivery]
  · rw [conclude_eq]
    exact conversation_ofExcept_iff

theorem conversation_send {method : Method} {url : String} {content : Option (String × String)}
    {told : Except Failure HttpReply} (h : Conversation (http.send method url content) talk told) :
    talk = [] ∨ ∃ request told', http.request method url content = .ok request ∧
      Conversation (http.execute request) talk told' := by
  rcases conversation_bind_iff.mp h with ⟨e, he, -⟩ | ⟨request, first, second, rfl, h₁, h₂⟩
  · exact .inl (conversation_ofExcept_iff.mp he).1
  · obtain ⟨rfl, hr⟩ := conversation_ofExcept_iff.mp h₁
    exact .inr ⟨request, told, hr.symm, h₂⟩

/-- A statement over HTTP is at most one request. -/
theorem conversation_perform_executeNative {session : Session} {sql : String} {readOnly : Bool}
    {told : Except Failure Outcome}
    (h : Conversation (client.perform (session.executeNative sql readOnly)) talk told) :
    talk = [] ∨ ∃ content request told',
      client.http.request .post (client.queryBase ++ "/query/service") content = .ok request ∧
        Conversation (client.http.execute request) talk told' := by
  simp only [RestClient.perform, Session.executeNative, bind_eq, through_bind] at h
  obtain ⟨_, h⟩ := h.of_bind fun reply rest o hrest => by
    revert hrest
    split
    · exact fun hrest => (conversation_done_iff.mp hrest).1
    · split <;> exact fun hrest => (conversation_done_iff.mp hrest).1
  simp only [Session.query, Session.requireOpen, bind_eq] at h
  split at h
  · exact .inl (conversation_fail_iff.mp h).1
  · obtain ⟨_, h⟩ := h.of_bind fun reply rest o hrest => by
      cases reply <;> cases hrest <;> rfl
    obtain ⟨_, h, -⟩ := conversation_attempt_iff.mp h
    obtain ⟨_, h⟩ := h.of_bind fun reply rest o hrest => (conversation_ofExcept_iff.mp hrest).1
    rcases conversation_send h with rfl | ⟨request, told', hr, hsent⟩
    · exact .inl rfl
    · exact .inr ⟨_, request, told', hr, hsent⟩

theorem method_of_request {method : Method} {url : String} {content : Option (String × String)}
    {request : HttpRequest} (h : http.request method url content = .ok request) :
    request.method = method := by
  unfold HttpClient.request at h
  split at h
  · cases h
  · split at h <;> cases h
    rfl

theorem asked_execute {request : HttpRequest} {told : Except Failure HttpReply}
    (h : Conversation (http.execute request) talk told) :
    ∃ sends, sends ≤ http.settings.maxRetries.toNat + 1 ∧
      asked talk = List.replicate sends request := by
  have h := conversation_execute_iff.mp h
  split at h
  · exact h.asked
  · rw [h.1]
    exact ⟨0, by omega, rfl⟩

/-- The tries can be counted if one more than the retries can. -/
theorem asks_sendFrom {request : HttpRequest} {delay : Nat} {most tried : UInt32}
    (hle : tried ≤ most) : (sendFrom request delay most tried).AsksOr
      (word32 ≤ most.toNat + 1) (· = request) := by
  induction tried using sendFrom.induct with
  | case1 tried hzero =>
    have hend := toNat_add_one_of_eq_zero hzero
    have hle' : tried.toNat ≤ most.toNat := UInt32.le_iff_toNat_le.mp hle
    rw [sendFrom_of_eq_zero hzero]
    exact .overflow (by omega)
  | case2 tried hne ih =>
    rw [sendFrom_of_ne_zero hne]
    refine .call rfl fun outcome => ?_
    split
    · next hagain => exact .sleep _ (ih (of_decide_eq_true (Bool.and_eq_true_iff.mp hagain).2))
    · rw [conclude_eq]
      exact .ofExcept _

/-- The tries of a request cannot all be counted. -/
def HttpClient.Overflows (http : HttpClient) : Prop :=
  word32 ≤ http.settings.maxRetries.toNat + 1

theorem asks_execute (request : HttpRequest) :
    (http.execute request).AsksOr http.Overflows (· = request) := by
  unfold HttpClient.execute
  split
  · exact asks_sendFrom UInt32.zero_le
  · rw [conclude_eq]
    exact .ofExcept _

theorem asks_send (method : Method) (url : String) (content : Option (String × String)) :
    (http.send method url content).AsksOr http.Overflows
      fun r => http.request method url content = .ok r := by
  unfold HttpClient.send
  cases hrequest : http.request method url content with
  | error e => exact .fail e
  | ok request => exact (asks_execute request).mono fun r hr => by rw [hr]

theorem asks_perform_executeNative (session : Session) (sql : String) (readOnly : Bool) :
    (client.perform (session.executeNative sql readOnly)).AsksOr client.http.Overflows
      fun _ => True := by
  have hstatement : (session.executeNative sql readOnly).Asks fun _ => True := by
    refine AsksOr.bind (AsksOr.bind ?_ fun _ => .call trivial fun r => .ofExcept r)
      fun reply => ?_
    · unfold Session.requireOpen
      split <;> constructor
    · split
      · exact .done _
      · split <;> exact .done _
  refine hstatement.through fun call _ => ?_
  have hsent : ∀ method url content, (client.http.send method url content).AsksOr
      client.http.Overflows fun _ => True := fun _ _ _ => (asks_send _ _ _).mono fun _ _ => trivial
  cases call with
  | query sql options => exact ((hsent _ _ _).bind fun reply => .ofExcept _).attempt
  | manage request => exact ((hsent _ _ _).bind fun reply => .done _).attempt

/-- Where the tries cannot all be counted, an end is told only of an outcome that is not worth
another try. -/
theorem exists_not_mayRetry {request : HttpRequest} {told : Except Failure HttpReply}
    (hover : http.Overflows) (hurl : request.url.isRequestable = true)
    (h : Conversation (http.execute request) talk told) :
    ∃ outcome, .answered request outcome ∈ talk ∧ ¬ MayRetry request.method outcome := by
  rw [conversation_execute_iff, if_pos hurl] at h
  obtain ⟨failed, last, rfl, -, hfits, -, hlast, -⟩ := h
  refine ⟨last, by simp, fun hretry => ?_⟩
  have := hlast hretry
  rw [HttpClient.Overflows] at hover
  omega

/-- A peer that refuses every connection is asked until the count is at its end. -/
theorem asked_sendFrom_of_refused {request : HttpRequest} {delay : Nat} {most tried : UInt32}
    {text : String} (hmost : word32 ≤ most.toNat + 1) (now : Nat) :
    (asked ((sendFrom request delay most tried).events
      (fun _ _ s => (.error ⟨.connect, text⟩, s)) now ())).length = word32 - 1 - tried.toNat := by
  induction tried using sendFrom.induct generalizing now with
  | case1 tried hzero =>
    have hend := toNat_add_one_of_eq_zero hzero
    rw [sendFrom_of_eq_zero hzero, Nat.sub_sub, Nat.add_comm, hend, Nat.sub_self]
    rfl
  | case2 tried hne ih =>
    have hnext := toNat_add_one hne
    have hbound := (tried + 1).toNat_lt
    have hretry : MayRetry request.method (.error ⟨.connect, text⟩) := .inl rfl
    have hle : tried.toNat + 1 ≤ most.toNat := by
      rw [word32] at hmost
      omega
    rw [sendFrom_of_ne_zero hne, events, if_pos ((again_iff hne).mpr ⟨hretry, hle⟩), events]
    have hlater := ih (now + retryPause delay (tried + 1).toNat)
    simp only [asked, List.filterMap_cons, Event.call?, List.length_cons] at hlater ⊢
    rw [hlater, hnext, word32]
    omega

theorem endsOnceDelivered_execute {request : HttpRequest} {told : Except Failure HttpReply}
    (hm : request.method ∉ [.get, .head, .delete])
    (h : Conversation (http.execute request) talk told) : EndsOnceDelivered talk := by
  have h := conversation_execute_iff.mp h
  split at h
  · exact h.endsOnceDelivered hm
  · rw [h.1]
    exact endsOnceDelivered_nil

end Clients

/-- A request is sent again only after an outcome worth another try, at most so often and with
the pauses that are set, and the last outcome is told. So nothing follows a send of a request
that may not be repeated once it may have come to the server, and a statement comes to the
query service at most once. An end is told whatever the peer does if the word that counts the
sends holds one more than the retries. -/
theorem requests_are_delivered_at_most_once (http : HttpClient) :
    (∀ (request : HttpRequest) (talk : List HttpEvent) (told : Except Failure HttpReply),
      Conversation (http.execute request) talk told ↔
        if request.url.isRequestable then Delivery request http.settings talk told
        else talk = [] ∧ told = reported request 1 (.error ⟨.other, unbuilt request.url⟩)) ∧
    ((∀ (request : HttpRequest) (σ : Type) (answer : HttpRequest → Nat → σ → HttpOutcome × σ)
        (now : Nat) (s : σ), Conversation (http.execute request)
          ((http.execute request).events answer now s)
          ((http.execute request).run answer now s).1) ↔
      http.settings.maxRetries.toNat + 1 < word32) ∧
    (∀ (request : HttpRequest) (talk : List HttpEvent) (told : Except Failure HttpReply),
      Conversation (http.execute request) talk told →
      (asked talk).length ≤ http.settings.maxRetries.toNat + 1 ∧
      (∀ sent ∈ asked talk, sent = request) ∧
      (request.method ∉ [.get, .head, .delete] → EndsOnceDelivered talk)) ∧
    ∀ (client : RestClient) (session : Session) (sql : String) (readOnly : Bool),
      (client.http.settings.maxRetries.toNat + 1 < word32 →
        ∀ (σ : Type) (answer : HttpRequest → Nat → σ → HttpOutcome × σ) (now : Nat) (s : σ),
        Conversation (client.perform (session.executeNative sql readOnly))
          ((client.perform (session.executeNative sql readOnly)).events answer now s)
          ((client.perform (session.executeNative sql readOnly)).run answer now s).1) ∧
      ∀ (talk : List HttpEvent) (told : Except Failure Outcome),
      Conversation (client.perform (session.executeNative sql readOnly)) talk told →
      (∀ sent ∈ asked talk, sent.method = .post ∧ ∃ content,
        client.http.request .post (client.queryBase ++ "/query/service") content = .ok sent) ∧
      EndsOnceDelivered talk ∧ talk.countP delivered ≤ 1 := by
  refine ⟨fun _ _ _ => conversation_execute_iff, ⟨fun h => ?_, fun hmost => ?_⟩, ?_,
    fun client session sql readOnly => ⟨fun hmost => ?_, ?_⟩⟩
  · refine Nat.lt_of_not_le fun hover => ?_
    let request : HttpRequest := ⟨.get, ⟨"http", some ⟨none, "h", none⟩, .segments [], none, none⟩,
      none, none, none, "driver"⟩
    obtain ⟨outcome, hmem, hretry⟩ := exists_not_mayRetry hover (by decide)
      (h request Unit (fun _ _ s => (.error ⟨.connect, "refused"⟩, s)) 0 ())
    obtain ⟨_, _, rfl⟩ := answered_of_mem_events hmem
    exact hretry (.inl rfl)
  · exact fun request _ answer now s =>
      ((asks_execute request).asks (Nat.not_le_of_lt hmost)).conversation_run answer now s
  · intro request talk told h
    refine ⟨?_, ?_, fun hm => endsOnceDelivered_execute hm h⟩
    · obtain ⟨sends, hsends, heq⟩ := asked_execute h
      rw [heq, List.length_replicate]
      exact hsends
    · obtain ⟨sends, -, heq⟩ := asked_execute h
      intro sent hs
      rw [heq] at hs
      exact List.eq_of_mem_replicate hs
  · exact fun _ answer now s =>
      ((asks_perform_executeNative session sql readOnly).asks
        (Nat.not_le_of_lt hmost)).conversation_run answer now s
  · intro talk told h
    rcases conversation_perform_executeNative h with rfl | ⟨content, request, told', hr, hsent⟩
    · exact ⟨by simp [asked], endsOnceDelivered_nil, by simp⟩
    · have hmethod : request.method = .post := method_of_request hr
      have hends : EndsOnceDelivered talk :=
        endsOnceDelivered_execute (by rw [hmethod]; simp) hsent
      refine ⟨?_, hends, hends.countP_le⟩
      intro sent hs
      obtain ⟨sends, -, heq⟩ := asked_execute hsent
      rw [heq] at hs
      rw [List.eq_of_mem_replicate hs]
      exact ⟨hmethod, content, hr⟩

theorem refused_post_is_sent_again :
    let http : HttpClient :=
      { settings := { maxRetries := 1 }, credentials := .password "u" "p", security := .cleartext }
    let client : RestClient :=
      { http, managerBase := "http://h:8091", queryBase := "http://h:8093", queryTimeout := none }
    let session : Session := { parameters := .resolve "adbc:couchbase:h" ['h'] [] none none [] }
    let statement := client.perform (session.executeNative "DELETE FROM b" false)
    let url : Url :=
      ⟨"http", some ⟨none, "h", some 8093⟩, .segments ["query", "service"], none, none⟩
    let request : HttpRequest := ⟨.post, url, none, none, http.credentials.header?, "driver"⟩
    let answer : HttpRequest → Nat → Nat → HttpOutcome × Nat := fun _ _ sends =>
      (if sends = 0 then .error ⟨.connect, "refused"⟩ else .ok ⟨503, ""⟩, sends + 1)
    let talk : List HttpEvent :=
      [.answered request (.error ⟨.connect, "refused"⟩), .paused 500,
        .answered request (.ok ⟨503, ""⟩)]
    Conversation (http.execute request) talk (.ok ⟨503, ""⟩) ∧ EndsOnceDelivered talk ∧
      EndsOnceDelivered (statement.events answer 0 0) := by
  intro http client session statement url request answer talk
  have hurl : url.isRequestable = true := by decide
  have hrun : Conversation (http.execute request) talk (.ok ⟨503, ""⟩) := by
    refine ((requests_are_delivered_at_most_once http).1 request talk _).mpr ?_
    rw [if_pos hurl]
    refine ⟨[.error ⟨.connect, "refused"⟩], .ok ⟨503, ""⟩, rfl, Nat.le_refl 1, by decide, ?_,
      fun _ => rfl, rfl⟩
    simp [MayRetry]
  have hstatement :=
    (requests_are_delivered_at_most_once http).2.2.2 client session "DELETE FROM b" false
  refine ⟨hrun, ?_, ?_⟩
  · exact ((requests_are_delivered_at_most_once http).2.2.1 request talk _ hrun).2.2
      (by simp [request])
  · exact (hstatement.2 _ _ (hstatement.1 (by decide) Nat answer 0 0)).2.1

/-- With the largest number of retries no end is told while every connection is refused: after as
many sends, the first among them, the count is at its end, and the last retry is still to come. -/
theorem largest_number_of_retries_has_no_end :
    let http : HttpClient :=
      { settings := { maxRetries := 4294967295, retryDelay := 0 }
        credentials := .password "u" "p", security := .cleartext }
    let url : Url := ⟨"http", some ⟨none, "n1", some 8091⟩, .segments ["x"], none, none⟩
    let request : HttpRequest := ⟨.get, url, none, none, http.credentials.header?, "driver"⟩
    let refused : HttpOutcome := .error ⟨.connect, "refused"⟩
    (asked ((http.execute request).events (fun _ _ s => (refused, s)) 0 ())).length = 4294967295 ∧
      ¬ ∃ talk told, Conversation (http.execute request) talk told ∧
        ∀ outcome, .answered request outcome ∈ talk → outcome = refused := by
  intro http url request refused
  have hurl : request.url.isRequestable = true := by decide
  have hover : word32 ≤ http.settings.maxRetries.toNat + 1 := by decide
  constructor
  · rw [HttpClient.execute, if_pos hurl]
    exact asked_sendFrom_of_refused hover 0
  · rintro ⟨talk, told, h, hrefused⟩
    obtain ⟨outcome, hmem, hretry⟩ := exists_not_mayRetry hover hurl h
    rw [hrefused outcome hmem] at hretry
    exact hretry (.inl rfl)

end KeyspaceLink

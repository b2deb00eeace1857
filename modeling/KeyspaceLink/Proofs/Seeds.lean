import KeyspaceLink.Proofs.Delivery

/-! Which seed a cluster is opened from. Seeds are asked in turn, those that do not answer are
passed over with an account of why, and the first answer decides: where the services are, or
that the credentials are refused. -/

namespace KeyspaceLink

open Plan RestClient

/-- One seed asked for the services of the nodes: what was sent, and what was told of it. -/
structure SeedExchange (http : HttpClient) where
  seed : Host
  request : HttpRequest
  talk : List HttpEvent
  told : Except Failure HttpReply
  built : http.request .get (seedBase http.security seed ++ "/pools/default/nodeServices") none =
    .ok request
  held : Conversation (http.execute request) talk told

/-- An answer after which no other seed is asked. -/
def HttpReply.Decides (r : HttpReply) : Prop := 200 ≤ r.status ∧ r.status < 300 ∨ r.status = 401

namespace SeedExchange

variable {http : HttpClient}

def PassedOver (x : SeedExchange http) : Prop := ∀ reply, x.told = .ok reply → ¬ reply.Decides

def account (x : SeedExchange http) : String :=
  match x.told with
  | .error e => x.seed.text ++ ": " ++ e.display
  | .ok reply => x.seed.text ++ ": HTTP " ++ toString reply.status

end SeedExchange

def Node.queryPort? (security : Security) (node : Node) : Option Nat :=
  node.services.lookup (if security.isTls then "n1qlSSL" else "n1ql")

/-- Where the query service is, as the body of an answer tells. -/
inductive QueryAddress (security : Security) (seed : Host) (body : String) : String → Prop
  | listed (before after : List Node) (node : Node) (port : Nat)
      (read : Node.readList body = .ok (before ++ node :: after))
      (first : ∀ n ∈ before, n.queryPort? security = none)
      (lists : node.queryPort? security = some port) :
      QueryAddress security seed body
        (base security ((node.hostname.map bracketed).getD seed.urlName) port)
  | unlisted (nowhere : ∀ nodes, Node.readList body = .ok nodes →
        ∀ n ∈ nodes, n.queryPort? security = none) :
      QueryAddress security seed body
        (base security seed.urlName (if security.isTls then 18093 else 8093))

structure Located (http : HttpClient) (seed : Host) (body : String) (client : RestClient) :
    Prop where
  http_eq : client.http = http
  managerBase : client.managerBase = base http.security seed.urlName
    (seed.port.getD (if http.security.isTls then 18091 else 8091))
  queryBase : QueryAddress http.security seed body client.queryBase
  queryTimeout : client.queryTimeout = none

/-- How asking seeds ends, after some were passed over. -/
inductive BootstrapEnd (http : HttpClient) (accounts : List String) :
    List Host → List HttpEvent → Except Failure RestClient → Prop
  | exhausted : BootstrapEnd http accounts [] []
      (.error (.cluster ("Could not connect to any seed node: " ++ "; ".intercalate accounts)))
  | refused (x : SeedExchange http) (rest : List Host) {reply : HttpReply}
      (told : x.told = .ok reply) (status : reply.status = 401) :
      BootstrapEnd http accounts (x.seed :: rest) x.talk
        (.error (.cluster ("Authentication failed against " ++ x.seed.text)))
  | located (x : SeedExchange http) (rest : List Host) {reply : HttpReply} {client : RestClient}
      (told : x.told = .ok reply) (status : 200 ≤ reply.status ∧ reply.status < 300)
      (located : Located http x.seed reply.body client) :
      BootstrapEnd http accounts (x.seed :: rest) x.talk (.ok client)
  | unbuilt (seed : Host) (rest : List Host) {e : Failure}
      (request : http.request .get (seedBase http.security seed ++ "/pools/default/nodeServices")
        none = .error e) :
      BootstrapEnd http accounts (seed :: rest) [] (.error e)

section QueryService

variable {security : Security} {seed : Host} {body address : String}

theorem find?_queryService (nodes : List Node) :
    Node.find? (queryService security.isTls) nodes =
      nodes.findSome? fun n => (n.queryPort? security).map fun port => (n.hostname, port) := rfl

theorem queryAddress_locateQuery :
    QueryAddress security seed body (locateQuery security seed body) := by
  rw [locateQuery]
  split
  · next host port hfound =>
    obtain ⟨nodes, hnodes, hfind⟩ := Option.bind_eq_some_iff.mp hfound
    have hread : Node.readList body = .ok nodes := by
      cases hr : Node.readList body with
      | error e =>
        rw [hr] at hnodes
        cases hnodes
      | ok read =>
        rw [hr] at hnodes
        rw [Option.some.inj hnodes]
    rw [find?_queryService, List.findSome?_eq_some_iff] at hfind
    obtain ⟨before, node, after, rfl, hnode, hbefore⟩ := hfind
    obtain ⟨port', hport, heq⟩ := Option.map_eq_some_iff.mp hnode
    cases heq
    exact .listed before after node port hread
      (fun n hn => Option.map_eq_none_iff.mp (hbefore n hn)) hport
  · next hnone =>
    refine .unlisted fun nodes hread n hn => ?_
    rw [hread] at hnone
    have hfind : Node.find? (queryService security.isTls) nodes = none := hnone
    rw [find?_queryService, List.findSome?_eq_none_iff] at hfind
    exact Option.map_eq_none_iff.mp (hfind n hn)

/-- There is one address only. -/
theorem QueryAddress.eq_locateQuery (h : QueryAddress security seed body address) :
    address = locateQuery security seed body := by
  cases h with
  | listed before after node port hread hfirst hlists =>
    have hfind : Node.find? (queryService security.isTls) (before ++ node :: after) =
        some (node.hostname, port) := by
      rw [find?_queryService, List.findSome?_eq_some_iff]
      exact ⟨before, node, after, rfl, by rw [hlists]; rfl, fun n hn => by rw [hfirst n hn]; rfl⟩
    have hfound : (Node.readList body).toOption.bind (Node.find? (queryService security.isTls)) =
        some (node.hostname, port) := by
      rw [hread]
      exact hfind
    rw [locateQuery, hfound]
  | unlisted hnowhere =>
    have hnone : (Node.readList body).toOption.bind (Node.find? (queryService security.isTls)) =
        none := by
      cases hread : Node.readList body with
      | error e => rfl
      | ok nodes =>
        have hfind : Node.find? (queryService security.isTls) nodes = none := by
          rw [find?_queryService, List.findSome?_eq_none_iff]
          intro n hn
          rw [hnowhere nodes hread n hn]
          rfl
        exact hfind
    rw [locateQuery, hnone]
    rfl

/-- Under encryption the plain port of the first node does not count. -/
example :
    locateQuery .trustAny ⟨"::1", some 9000⟩ ("\x7b\"nodesExt\":[\x7b\"services\":\x7b\"n1ql\":8093\x7d\x7d," ++
      "\x7b\"hostname\":\"fd00::2\",\"services\":\x7b\"n1qlSSL\":19093\x7d\x7d]\x7d") =
    "https://[fd00::2]:19093" := by
  decide +kernel

end QueryService

section Seeds

variable {http : HttpClient}

theorem located_iff {seed : Host} {body : String} {client : RestClient} :
    Located http seed body client ↔
      client = ⟨http, seedBase http.security seed, locateQuery http.security seed body, none⟩ := by
  constructor
  · rintro ⟨hhttp, hmanager, hquery, htimeout⟩
    cases client
    simp only at hhttp hmanager hquery htimeout
    rw [hhttp, hmanager, hquery.eq_locateQuery, htimeout]
    rfl
  · rintro rfl
    exact ⟨rfl, rfl, queryAddress_locateQuery, rfl⟩

theorem isSuccess_iff {status : Nat} : isSuccess status = true ↔ 200 ≤ status ∧ status < 300 := by
  simp [isSuccess]

variable {failures : List String} {seed : Host} {rest : List Host} {talk : List HttpEvent}
  {outcome : Except Failure RestClient}

namespace SeedExchange

variable {x : SeedExchange http} {reply : HttpReply}

/-- How asking goes on with what the seed told. -/
def next (x : SeedExchange http) (failures : List String) (rest : List Host) :
    HttpPlan RestClient :=
  match x.told with
  | .error e => bootstrapFrom http ((x.seed.text ++ ": " ++ e.display) :: failures) rest
  | .ok reply =>
    if reply.status = 401 then
      .fail (.cluster ("Authentication failed against " ++ x.seed.text))
    else if isSuccess reply.status then
      .done ⟨http, seedBase http.security x.seed, locateQuery http.security x.seed reply.body, none⟩
    else bootstrapFrom http ((x.seed.text ++ ": HTTP " ++ toString reply.status) :: failures) rest

theorem not_passedOver_iff :
    ¬ x.PassedOver ↔ ∃ reply, x.told = .ok reply ∧ reply.Decides := by
  simp only [PassedOver, Classical.not_forall, Classical.not_not, exists_prop]

theorem next_of_passedOver (h : x.PassedOver) :
    x.next failures rest = bootstrapFrom http (x.account :: failures) rest := by
  rw [next, account]
  cases htold : x.told with
  | error e => rfl
  | ok reply =>
    have hrefused : ¬ reply.status = 401 := fun hs => h reply htold (.inr hs)
    have hsuccess : ¬ isSuccess reply.status = true := fun hs =>
      h reply htold (.inl (isSuccess_iff.mp hs))
    dsimp only
    rw [if_neg hrefused, if_neg hsuccess]

theorem next_of_refused (htold : x.told = .ok reply) (hstatus : reply.status = 401) :
    x.next failures rest = .fail (.cluster ("Authentication failed against " ++ x.seed.text)) := by
  rw [next, htold]
  exact if_pos hstatus

theorem next_of_success (htold : x.told = .ok reply)
    (hstatus : 200 ≤ reply.status ∧ reply.status < 300) :
    x.next failures rest =
      .done ⟨http, seedBase http.security x.seed, locateQuery http.security x.seed reply.body, none⟩ := by
  have hrefused : ¬ reply.status = 401 := by omega
  rw [next, htold]
  dsimp only
  rw [if_neg hrefused, if_pos (isSuccess_iff.mpr hstatus)]

end SeedExchange

theorem conversation_next_iff :
    Conversation (bootstrapFrom http failures (seed :: rest)) talk outcome ↔
      (∃ e, http.request .get (seedBase http.security seed ++ "/pools/default/nodeServices") none =
        .error e ∧ talk = [] ∧ outcome = .error e) ∨
      ∃ x : SeedExchange http, x.seed = seed ∧ ∃ later, talk = x.talk ++ later ∧
        Conversation (x.next failures rest) later outcome := by
  simp only [bootstrapFrom, bind_eq, conversation_ofExcept_bind_iff, conversation_attempt_bind_iff]
  refine or_congr_right ?_
  constructor
  · rintro ⟨request, hrequest, told, first, later, rfl, hheld, hnext⟩
    refine ⟨⟨seed, request, first, told, hrequest, hheld⟩, rfl, later, rfl, ?_⟩
    cases told with
    | error e => exact hnext
    | ok reply => exact hnext
  · rintro ⟨⟨seed, request, first, told, hrequest, hheld⟩, rfl, later, rfl, hnext⟩
    refine ⟨request, hrequest, told, first, later, rfl, hheld, ?_⟩
    cases told with
    | error e => exact hnext
    | ok reply => exact hnext

/-- The next seed is passed over, or it is the last one. -/
theorem conversation_bootstrapFrom_cons_iff :
    Conversation (bootstrapFrom http failures (seed :: rest)) talk outcome ↔
      (∃ x : SeedExchange http, x.seed = seed ∧ x.PassedOver ∧ ∃ later, talk = x.talk ++ later ∧
        Conversation (bootstrapFrom http (x.account :: failures) rest) later outcome) ∨
      BootstrapEnd http failures.reverse (seed :: rest) talk outcome := by
  rw [conversation_next_iff]
  constructor
  · rintro (⟨e, hrequest, rfl, rfl⟩ | ⟨x, rfl, later, rfl, hnext⟩)
    · exact .inr (.unbuilt seed rest hrequest)
    · by_cases hover : x.PassedOver
      · rw [SeedExchange.next_of_passedOver hover] at hnext
        exact .inl ⟨x, rfl, hover, later, rfl, hnext⟩
      · -- an answer decides, so nothing comes later
        obtain ⟨reply, htold, hstatus | hstatus⟩ := SeedExchange.not_passedOver_iff.mp hover
        · rw [SeedExchange.next_of_success htold hstatus] at hnext
          obtain ⟨rfl, rfl⟩ := conversation_done_iff.mp hnext
          rw [List.append_nil]
          exact .inr (.located x rest htold hstatus (located_iff.mpr rfl))
        · rw [SeedExchange.next_of_refused htold hstatus] at hnext
          obtain ⟨rfl, rfl⟩ := conversation_fail_iff.mp hnext
          rw [List.append_nil]
          exact .inr (.refused x rest htold hstatus)
  · rintro (⟨x, rfl, hover, later, rfl, hnext⟩ | hend)
    · rw [← SeedExchange.next_of_passedOver hover] at hnext
      exact .inr ⟨x, rfl, later, rfl, hnext⟩
    · cases hend with
      | refused x rest htold hstatus =>
        refine .inr ⟨x, rfl, [], (List.append_nil _).symm, ?_⟩
        rw [SeedExchange.next_of_refused htold hstatus]
        exact .fail _
      | located x rest htold hstatus hlocated =>
        refine .inr ⟨x, rfl, [], (List.append_nil _).symm, ?_⟩
        rw [SeedExchange.next_of_success htold hstatus, located_iff.mp hlocated]
        exact .done _
      | unbuilt seed rest hrequest => exact .inl ⟨_, hrequest, rfl, rfl⟩

theorem conversation_bootstrapFrom_iff {seeds : List Host} :
    Conversation (bootstrapFrom http failures seeds) talk outcome ↔
      ∃ (passed : List (SeedExchange http)) (left : List Host) (later : List HttpEvent),
        seeds = passed.map SeedExchange.seed ++ left ∧
        talk = passed.flatMap SeedExchange.talk ++ later ∧ (∀ x ∈ passed, x.PassedOver) ∧
        BootstrapEnd http (failures.reverse ++ passed.map SeedExchange.account) left later
          outcome := by
  induction seeds generalizing failures talk with
  | nil =>
    constructor
    · intro h
      obtain ⟨rfl, rfl⟩ := conversation_fail_iff.mp h
      refine ⟨[], [], [], rfl, rfl, by simp, ?_⟩
      rw [List.map_nil, List.append_nil]
      exact .exhausted
    · rintro ⟨passed, left, later, hseeds, rfl, -, hend⟩
      obtain ⟨hpassed, rfl⟩ := List.append_eq_nil_iff.mp hseeds.symm
      obtain rfl : passed = [] := List.map_eq_nil_iff.mp hpassed
      cases hend with
      | exhausted =>
        simp only [List.map_nil, List.flatMap_nil, List.append_nil]
        exact .fail _
  | cons seed rest ih =>
    rw [conversation_bootstrapFrom_cons_iff]
    simp only [ih, List.reverse_cons, List.append_assoc, List.singleton_append]
    constructor
    · rintro (⟨x, rfl, hover, _, rfl, passed, left, later, rfl, rfl, hpassed, hend⟩ | hend)
      · exact ⟨x :: passed, left, later, rfl, by simp, by simpa using ⟨hover, hpassed⟩, hend⟩
      · refine ⟨[], seed :: rest, talk, rfl, rfl, by simp, ?_⟩
        rw [List.map_nil, List.append_nil]
        exact hend
    · rintro ⟨passed, left, later, hseeds, rfl, hpassed, hend⟩
      cases passed with
      | nil =>
        rw [List.map_nil, List.append_nil] at hend
        rw [List.map_nil, List.nil_append] at hseeds
        exact .inr (hseeds ▸ hend)
      | cons x passed =>
        obtain ⟨rfl, rfl⟩ := List.cons.inj hseeds
        obtain ⟨hover, hrest⟩ := List.forall_mem_cons.mp hpassed
        exact .inl ⟨x, rfl, hover, _, by simp, passed, left, later, rfl, rfl, hrest, hend⟩

end Seeds

namespace SeedExchange

variable {http : HttpClient} (x : SeedExchange http)

/-- A seed is asked for the services with a bare request to its address. -/
theorem request_eq :
    ∃ url, Url.read? (seedBase http.security x.seed ++ "/pools/default/nodeServices") = some url ∧
      x.request = ⟨.get, url.withoutUser, none, none, http.credentials.header?,
        http.settings.userAgent⟩ := by
  have hbuilt := x.built
  rw [HttpClient.request] at hbuilt
  split at hbuilt
  · cases hbuilt
  · next url hurl =>
    split at hbuilt
    · cases hbuilt
    · exact ⟨url, hurl, (Except.ok.inj hbuilt).symm⟩

/-- An answer that decides is not one that is worth another try. -/
theorem not_mayRetry_of_decides {reply : HttpReply} (h : reply.Decides) :
    ¬ MayRetry x.request.method (.ok reply) := by
  rintro ⟨-, hstatus⟩
  simp only [List.mem_cons, List.not_mem_nil, or_false] at hstatus
  rcases h with ⟨-, hlt⟩ | heq <;> omega

theorem mem_of_mem_failedSends {request : HttpRequest} {outcome : HttpOutcome} {delay number : Nat}
    {failed : List HttpOutcome}
    (h : .answered request outcome ∈ failedSends request delay number failed) :
    outcome ∈ failed := by
  induction failed generalizing number with
  | nil => cases h
  | cons first failed ih =>
    rcases List.mem_cons.mp h with heq | h
    · cases heq
      exact List.mem_cons_self
    · rcases List.mem_cons.mp h with heq | h
      · cases heq
      · exact List.mem_cons_of_mem _ (ih h)

theorem last_of_decides {before after : List HttpEvent} {reply : HttpReply}
    (htalk : x.talk = before ++ .answered x.request (.ok reply) :: after) (h : reply.Decides) :
    after = [] ∧ x.told = .ok reply := by
  have hheld := conversation_execute_iff.mp x.held
  split at hheld
  · obtain ⟨failed, last, hsends, -, -, hfailed, -, htold⟩ := hheld
    have hnew : Event.answered x.request (.ok reply) ∉
        failedSends x.request http.settings.retryDelay 1 failed :=
      fun hmem => x.not_mayRetry_of_decides h (hfailed _ (mem_of_mem_failedSends hmem))
    obtain ⟨middle, rfl⟩ := prefix_of_split (hsends.symm.trans htalk) hnew
    have hlast := hsends.symm.trans htalk
    rw [List.append_assoc, List.append_cancel_left_eq] at hlast
    cases middle with
    | nil =>
      obtain ⟨heq, rfl⟩ := List.cons.inj hlast
      cases heq
      exact ⟨rfl, htold⟩
    | cons event middle =>
      have hlength := congrArg List.length hlast
      simp at hlength
  · rw [hheld.1] at htalk
    simp at htalk

end SeedExchange

theorem asks_bootstrapFrom (http : HttpClient) (failures : List String) (seeds : List Host) :
    (bootstrapFrom http failures seeds).AsksOr http.Overflows fun _ => True := by
  induction seeds generalizing failures with
  | nil => exact .fail _
  | cons seed rest ih =>
    rw [bootstrapFrom]
    refine (AsksOr.ofExcept _).bind fun request => ?_
    refine ((asks_execute request).mono fun _ _ => trivial).attempt.bind fun told => ?_
    cases told with
    | error e => exact ih _
    | ok reply =>
      dsimp only
      split
      · exact .fail _
      split
      · exact .done _
      · exact ih _

/-- Whatever the peers answer. Seeds are asked in order; the accounts of those that are passed
over make up the failure if all are, and what the first answer decides is the end. To every seed
the same bare request is sent, again only while it is worth another try, so an answer that
decides is the last thing that happens. Every run comes to its end so if the word that counts the
sends holds one more than the retries. -/
theorem first_answer_decides (http : HttpClient) (seeds : List Host) :
    (∀ talk outcome, Conversation (bootstrap http seeds) talk outcome ↔
      ∃ (passed : List (SeedExchange http)) (left : List Host) (later : List HttpEvent),
        seeds = passed.map SeedExchange.seed ++ left ∧
        talk = passed.flatMap SeedExchange.talk ++ later ∧ (∀ x ∈ passed, x.PassedOver) ∧
        BootstrapEnd http (passed.map SeedExchange.account) left later outcome) ∧
    (http.settings.maxRetries.toNat + 1 < word32 →
      ∀ (σ : Type) (answer : HttpRequest → Nat → σ → HttpOutcome × σ) (now : Nat) (s : σ),
      Conversation (bootstrap http seeds) ((bootstrap http seeds).events answer now s)
        ((bootstrap http seeds).run answer now s).1) ∧
    ∀ x : SeedExchange http,
      (∃ url, Url.read? (seedBase http.security x.seed ++ "/pools/default/nodeServices") =
        some url ∧ x.request = ⟨.get, url.withoutUser, none, none, http.credentials.header?,
          http.settings.userAgent⟩) ∧
      (∃ sends, sends ≤ http.settings.maxRetries.toNat + 1 ∧
        asked x.talk = List.replicate sends x.request) ∧
      ∀ before after reply, x.talk = before ++ .answered x.request (.ok reply) :: after →
        reply.Decides → after = [] ∧ x.told = .ok reply :=
  ⟨fun _ _ => conversation_bootstrapFrom_iff,
    fun hmost _ answer now s =>
      ((asks_bootstrapFrom http [] seeds).asks
        (Nat.not_le_of_lt hmost)).conversation_run answer now s,
    fun x =>
      ⟨x.request_eq, asked_execute x.held, fun _ _ _ htalk h => x.last_of_decides htalk h⟩⟩

theorem seed_after_unknown_path_is_located :
    let http : HttpClient :=
      { settings := {}, credentials := .password "u" "p", security := .trustAny }
    let asking (host : String) (port : Nat) : HttpRequest :=
      ⟨.get, ⟨"https", some ⟨none, host, some port⟩, .segments ["pools", "default", "nodeServices"],
        none, none⟩, none, none, http.credentials.header?, http.settings.userAgent⟩
    let body := "\x7b\"nodesExt\":[\x7b\"services\":\x7b\"n1ql\":8093\x7d\x7d," ++
      "\x7b\"hostname\":\"fd00::2\",\"services\":\x7b\"n1qlSSL\":19093\x7d\x7d]\x7d"
    let talk : List HttpEvent :=
      [.answered (asking "[::1]" 9000) (.ok ⟨404, ""⟩),
        .answered (asking "[::2]" 18091) (.ok ⟨200, body⟩)]
    let refusing : HttpRequest → Nat → Unit → HttpOutcome × Unit := fun _ _ s =>
      (.error ⟨.connect, "refused"⟩, s)
    Conversation (bootstrap http [⟨"::1", some 9000⟩, ⟨"::2", none⟩]) talk
        (.ok ⟨http, "https://[::2]:18091", "https://[fd00::2]:19093", none⟩) ∧
      Conversation (bootstrap http [⟨"::1", none⟩])
        ((bootstrap http [⟨"::1", none⟩]).events refusing 0 ())
        ((bootstrap http [⟨"::1", none⟩]).run refusing 0 ()).1 ∧
      ∃ x : SeedExchange http, x.talk = talk.take 1 ∧ x.PassedOver ∧
        x.account = "[::1]:9000: HTTP 404" ∧
        ∃ sends, sends ≤ 4 ∧ asked x.talk = List.replicate sends x.request := by
  intro http asking body talk refusing
  have hheld : ∀ host port reply, (asking host port).url.isRequestable = true →
      ¬ MayRetry .get (.ok reply) →
      Conversation (http.execute (asking host port)) [.answered (asking host port) (.ok reply)]
        (.ok reply) := by
    intro host port reply hurl hlast
    rw [conversation_execute_iff, if_pos hurl]
    exact ⟨[], .ok reply, rfl, Nat.zero_le _, by decide, by simp, fun h => absurd h hlast, rfl⟩
  let first : SeedExchange http :=
    { seed := ⟨"::1", some 9000⟩, request := asking "[::1]" 9000, talk := talk.take 1
      told := .ok ⟨404, ""⟩
      built := Json.toOption_eq_some_iff.mp (by decide +kernel)
      held := hheld _ _ _ (by decide +kernel) (by simp [MayRetry]) }
  let second : SeedExchange http :=
    { seed := ⟨"::2", none⟩, request := asking "[::2]" 18091, talk := talk.drop 1
      told := .ok ⟨200, body⟩
      built := Json.toOption_eq_some_iff.mp (by decide +kernel)
      held := hheld _ _ _ (by decide +kernel) (by simp [MayRetry]) }
  have hover : first.PassedOver := by
    rintro reply hreply
    cases hreply
    simp [HttpReply.Decides]
  have haccount : Host.text ⟨"::1", some 9000⟩ ++ ": HTTP " ++ toString 404 =
      "[::1]:9000: HTTP 404" := by
    decide +kernel
  have hlocated : Located http ⟨"::2", none⟩ body
      ⟨http, "https://[::2]:18091", "https://[fd00::2]:19093", none⟩ :=
    located_iff.mpr (by decide +kernel)
  refine ⟨((first_answer_decides http _).1 talk _).mpr ⟨[first], [second.seed], second.talk, rfl,
    rfl, by simpa using hover, ?_⟩,
    (first_answer_decides http _).2.1 (by decide) Unit refusing 0 (), first, rfl, hover, haccount, ((first_answer_decides http []).2.2 first).2.1⟩
  exact .located second [] rfl ⟨by decide, by decide⟩ hlocated

end KeyspaceLink

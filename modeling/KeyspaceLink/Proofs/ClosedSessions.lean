import KeyspaceLink.Catalog.Info
import KeyspaceLink.Catalog.Objects
import KeyspaceLink.Proofs.ClusterCalls
import KeyspaceLink.Session.Execute

/-! Sessions after they were closed. Every way to the cluster passes the check of the session,
so nothing is asked any more, and what would have asked fails. Sampling tells that failure as
one of its own. -/

namespace KeyspaceLink

open Plan

/-- What a session is used for. -/
inductive SessionUse
  | execute (sql : String) (readOnly : Bool)
  | executeNative (sql : String) (readOnly : Bool)
  | executeCatalog (sql : String) (columns : List Column)
  | sample (table : Keyspace)
  | sampleSome (table : Keyspace) (size : Nat)
  | listSchemas (schema : Option String)
  | listTables (schema table : Option String)
  | listTableColumns (t : TableEntry) (column : Option String)
  | listColumns (schema table column : Option String)
  | listKeys (schema table : Option String)
  | listIndexes (schema table : Option String) (unique : Bool)
  | getSchemas (schema : Option String)
  | getTables (schema table : Option String)
  | getColumns (schema table column : Option String)
  | getPrimaryKeys (schema table : Option String)
  | getIndexes (schema table : Option String) (unique : Bool)
  | productVersion
  | getTableSchema (schema : Option String) (table : String)
  | getObjects (depth : ObjectDepth) (f : ObjectFilter)

namespace SessionUse

abbrev Result : SessionUse → Type
  | execute _ _ | executeNative _ _ => Outcome
  | executeCatalog _ _ => Cursor
  | sample _ | sampleSome _ _ => List SampledColumn
  | listSchemas _ => List String
  | listTables _ _ => List TableEntry
  | listTableColumns _ _ | listColumns _ _ _ => List ColumnEntry
  | listKeys _ _ => List KeyEntry
  | listIndexes _ _ _ => List IndexEntry
  | getSchemas _ | getTables _ _ | getColumns _ _ _ | getPrimaryKeys _ _ | getIndexes _ _ _ => Cursor
  | productVersion => String
  | getTableSchema _ _ => List Field
  | getObjects _ _ => Batch

def perform (s : Session) : (u : SessionUse) → ClusterPlan u.Result
  | execute sql readOnly => s.execute sql readOnly
  | executeNative sql readOnly => s.executeNative sql readOnly
  | executeCatalog sql columns => s.executeCatalog sql columns
  | sample table => s.sample table
  | sampleSome table size => s.sampleSome table size
  | listSchemas schema => s.listSchemas schema
  | listTables schema table => s.listTables schema table
  | listTableColumns t column => s.listTableColumns t column
  | listColumns schema table column => s.listColumns schema table column
  | listKeys schema table => s.listKeys schema table
  | listIndexes schema table unique => s.listIndexes schema table unique
  | getSchemas schema => s.getSchemas schema
  | getTables schema table => s.getTables schema table
  | getColumns schema table column => s.getColumns schema table column
  | getPrimaryKeys schema table => s.getPrimaryKeys schema table
  | getIndexes schema table unique => s.getIndexes schema table unique
  | productVersion => s.productVersion
  | getTableSchema schema table => s.getTableSchema schema table
  | getObjects depth f => s.getObjects depth f

/-- Whether a sample is the first thing that is asked for. -/
def samples : SessionUse → Bool
  | sample _ | sampleSome _ _ | listTableColumns _ _ | getTableSchema _ _ => true
  | _ => false

/-- Whether the cluster can be called, depending on what it answers. -/
def Calls (u : SessionUse) (s : Session) : Prop :=
  ∃ talk outcome, Conversation (u.perform s) talk outcome ∧ asked talk ≠ []

end SessionUse

def closedFailure : Failure := .invalidState "Connection is closed"

/-- The failure of a sample, with what it came from as its cause. -/
def unsampledFailure : Failure :=
  { Failure.cluster "Keyspace sampling failed." with cause := some closedFailure.display }

namespace Session

variable {s : Session}

theorem query_of_closed (h : s.closed = true) (sql : String) (readOnly : Bool) :
    s.query sql readOnly = .fail closedFailure := by
  rw [query, requireOpen, if_pos h]
  rfl

theorem executeNative_of_closed (h : s.closed = true) (sql : String) (readOnly : Bool) :
    s.executeNative sql readOnly = .fail closedFailure := by
  rw [executeNative, query_of_closed h]
  rfl

theorem executeCatalog_of_closed (h : s.closed = true) (sql : String) (columns : List Column) :
    s.executeCatalog sql columns = .fail closedFailure := by
  rw [executeCatalog, query_of_closed h]
  rfl

theorem sampleSome_of_closed (h : s.closed = true) (table : Keyspace) (size : Nat) :
    s.sampleSome table size = .fail unsampledFailure := by
  rw [sampleSome, executeNative_of_closed h]
  rfl

theorem interpret_of_closed (h : s.closed = true) (kind : CommandKind) (sql : String) :
    s.interpret kind sql = .fail closedFailure := by
  rw [interpret, requireOpen, if_pos h]
  rfl

section Listings

variable (h : s.closed = true) (schema table : Option String)

include h

theorem listSchemas_of_closed : s.listSchemas schema = .fail closedFailure := by
  rw [listSchemas, executeCatalog_of_closed h]
  rfl

theorem listTables_of_closed : s.listTables schema table = .fail closedFailure := by
  rw [listTables, executeCatalog_of_closed h]
  rfl

theorem listTableColumns_of_closed (t : TableEntry) (column : Option String) :
    s.listTableColumns t column = .fail unsampledFailure := by
  rw [listTableColumns, sample, sampleSome_of_closed h]
  rfl

theorem listColumns_of_closed (column : Option String) :
    s.listColumns schema table column = .fail closedFailure := by
  rw [listColumns, listTables_of_closed h]
  rfl

theorem listKeys_of_closed : s.listKeys schema table = .fail closedFailure := by
  rw [listKeys, executeCatalog_of_closed h]
  rfl

theorem listIndexes_of_closed (unique : Bool) :
    s.listIndexes schema table unique = .fail closedFailure := by
  rw [listIndexes, executeCatalog_of_closed h]
  rfl

end Listings

theorem tryKinds_of_closed (h : s.closed = true) (sql : String) (readOnly : Bool)
    (kinds : List CommandKind) :
    s.tryKinds sql readOnly kinds = .fail closedFailure ∨
      ∃ x : Except Failure Outcome, (∀ o, x = .ok o → o = .unclaimed) ∧
        ∀ s₀ : Session, s₀.tryKinds sql readOnly kinds = Plan.ofExcept x := by
  -- whether a text is claimed, and may write, is told before the session is looked at
  induction kinds with
  | nil => exact .inr ⟨.ok .unclaimed, by simp, fun _ => rfl⟩
  | cons kind rest ih =>
    simp only [tryKinds]
    cases hread : Grammar.read kind sql with
    | error e => exact .inr ⟨.error e, by simp, fun _ => rfl⟩
    | ok claimed =>
      cases claimed with
      | none => exact ih
      | some c =>
        by_cases hwrites : (readOnly && kind.writes) = true
        · right
          refine ⟨.error .readOnly, by simp, fun s₀ => ?_⟩
          simp [Plan.ofExcept, bind_eq, Plan.bind, hwrites]
        · left
          simp [Plan.ofExcept, bind_eq, Plan.bind, hwrites, interpret_of_closed h]

theorem execute_of_closed (h : s.closed = true) (sql : String) (readOnly : Bool) :
    s.execute sql readOnly = .fail closedFailure ∨
      ∃ x, ∀ s₀ : Session, s₀.execute sql readOnly = Plan.ofExcept x := by
  simp only [execute, tryExecute]
  rcases s.tryKinds_of_closed h (.ofList (normalize sql.toList)) readOnly CommandKind.all with
    hclosed | ⟨x, hx, hsame⟩
  · left
    rw [hclosed]
    rfl
  · cases x with
    | error e =>
      right
      refine ⟨.error e, fun s₀ => ?_⟩
      rw [hsame]
      rfl
    | ok o =>
      left
      rw [hsame, hx o rfl]
      exact executeNative_of_closed h _ readOnly

theorem getObjects_of_closed (h : s.closed = true) (depth : ObjectDepth) (f : ObjectFilter) :
    s.getObjects depth f = .fail closedFailure ∨
      ∃ x, ∀ s₀ : Session, s₀.getObjects depth f = Plan.ofExcept x := by
  cases hcatalog : f.takesCatalog with
  | false =>
    right
    refine ⟨({} : ObjectTree).build, fun s₀ => ?_⟩
    rw [getObjects, collectObjects, hcatalog]
    rfl
  | true =>
    by_cases hdepth : depth = .catalogs
    · right
      refine ⟨(({} : ObjectTree).addCatalog).build, fun s₀ => ?_⟩
      rw [getObjects, collectObjects, hcatalog, hdepth]
      rfl
    · left
      simp only [getObjects, collectObjects, hcatalog, hdepth, listSchemas_of_closed h]
      rfl

end Session

namespace SessionUse

variable {s : Session}

def refusal (u : SessionUse) : Failure := if u.samples then unsampledFailure else closedFailure

/-- A use of a closed session is refused, or asks nothing whatever the session is. -/
theorem perform_of_closed (h : s.closed = true) (u : SessionUse) :
    u.perform s = .fail u.refusal ∨ ∃ x, ∀ s₀ : Session, u.perform s₀ = Plan.ofExcept x := by
  cases u with
  | execute sql readOnly => exact Session.execute_of_closed h sql readOnly
  | getObjects depth f => exact Session.getObjects_of_closed h depth f
  | executeNative sql readOnly => exact .inl (Session.executeNative_of_closed h sql readOnly)
  | executeCatalog sql columns => exact .inl (Session.executeCatalog_of_closed h sql columns)
  | sample table => exact .inl (Session.sampleSome_of_closed h table _)
  | sampleSome table size => exact .inl (Session.sampleSome_of_closed h table size)
  | listSchemas schema => exact .inl (Session.listSchemas_of_closed h schema)
  | listTables schema table => exact .inl (Session.listTables_of_closed h schema table)
  | listTableColumns t column => exact .inl (Session.listTableColumns_of_closed h t column)
  | listColumns schema table column =>
    exact .inl (Session.listColumns_of_closed h schema table column)
  | listKeys schema table => exact .inl (Session.listKeys_of_closed h schema table)
  | listIndexes schema table unique =>
    exact .inl (Session.listIndexes_of_closed h schema table unique)
  | getSchemas schema =>
    left
    rw [perform, Session.getSchemas, Session.listSchemas_of_closed h]
    rfl
  | getTables schema table =>
    left
    rw [perform, Session.getTables, Session.listTables_of_closed h]
    rfl
  | getColumns schema table column =>
    left
    rw [perform, Session.getColumns, Session.listColumns_of_closed h]
    rfl
  | getPrimaryKeys schema table =>
    left
    rw [perform, Session.getPrimaryKeys, Session.listKeys_of_closed h]
    rfl
  | getIndexes schema table unique =>
    left
    rw [perform, Session.getIndexes, Session.listIndexes_of_closed h]
    rfl
  | productVersion =>
    left
    rw [perform, Session.productVersion, Session.executeNative_of_closed h]
    rfl
  | getTableSchema schema table =>
    left
    rw [perform, Session.getTableSchema, Session.listTableColumns_of_closed h]
    rfl

variable {u : SessionUse} {talk : List ClusterEvent} {outcome : Except Failure u.Result}

theorem talk_of_closed (h : s.closed = true) (hu : Conversation (u.perform s) talk outcome) :
    talk = [] := by
  rcases u.perform_of_closed h with hfail | ⟨x, hx⟩
  · rw [hfail] at hu
    exact (conversation_fail_iff.mp hu).1
  · rw [hx] at hu
    exact (conversation_ofExcept_iff.mp hu).1

theorem outcome_of_closed (h : s.closed = true) (hu : Conversation (u.perform s) talk outcome)
    {s₀ : Session} (hcalls : u.Calls s₀) : outcome = .error u.refusal := by
  rcases u.perform_of_closed h with hfail | ⟨x, hx⟩
  · rw [hfail] at hu
    exact (conversation_fail_iff.mp hu).2
  · obtain ⟨talk₀, outcome₀, hopen, hasked⟩ := hcalls
    rw [hx] at hopen
    rw [(conversation_ofExcept_iff.mp hopen).1] at hasked
    exact absurd rfl hasked

end SessionUse

/-- A session is closed when its connection is closed or dropped. -/
inductive SessionEvent
  | closed
  | used (u : SessionUse) (talk : List ClusterEvent) (outcome : Except Failure u.Result)

/-- The uses of a session in any order, the cluster answering in any way. -/
inductive SessionRun : Session → List SessionEvent → Session → Prop
  | refl (s : Session) : SessionRun s [] s
  | close {s s' : Session} {events : List SessionEvent} (rest : SessionRun s.close.2 events s') :
      SessionRun s (.closed :: events) s'
  | use {s s' : Session} {events : List SessionEvent} {u : SessionUse} {talk : List ClusterEvent}
      {outcome : Except Failure u.Result} (h : Conversation (u.perform s) talk outcome)
      (rest : SessionRun s events s') : SessionRun s (.used u talk outcome :: events) s'

namespace SessionRun

variable {s s' : Session}

theorem append {before after : List SessionEvent} (h : SessionRun s (before ++ after) s') :
    ∃ m, SessionRun s before m ∧ SessionRun m after s' := by
  induction before generalizing s with
  | nil => exact ⟨s, .refl s, h⟩
  | cons event before ih =>
    cases h with
    | close rest =>
      obtain ⟨m, hbefore, hafter⟩ := ih rest
      exact ⟨m, .close hbefore, hafter⟩
    | use hu rest =>
      obtain ⟨m, hbefore, hafter⟩ := ih rest
      exact ⟨m, .use hu hbefore, hafter⟩

theorem closed_of_closed {events : List SessionEvent} (h : SessionRun s events s')
    (hs : s.closed = true) : s'.closed = true := by
  induction h with
  | refl s => exact hs
  | close rest ih => exact ih rfl
  | use hu rest ih => exact ih hs

/-- A use in a run that starts with a closed session is a use of a closed session. -/
theorem used_of_closed {events : List SessionEvent} (h : SessionRun s events s')
    (hs : s.closed = true) {u : SessionUse} {talk : List ClusterEvent}
    {outcome : Except Failure u.Result} (hu : .used u talk outcome ∈ events) :
    ∃ m : Session, m.closed = true ∧ Conversation (u.perform m) talk outcome := by
  induction h with
  | refl s => cases hu
  | close rest ih =>
    rcases List.mem_cons.mp hu with heq | hrest
    · cases heq
    · exact ih rfl hrest
  | use huse rest ih =>
    rcases List.mem_cons.mp hu with heq | hrest
    · cases heq
      exact ⟨_, hs, huse⟩
    · exact ih hs hrest

end SessionRun

/-- Once a session was closed it stays so, and no use of it calls the cluster. What would have
called it on an open session fails as a use of a closed one, or as a sample that was not taken. -/
theorem uses_after_close {s s' : Session} {before after : List SessionEvent}
    (h : SessionRun s (before ++ .closed :: after) s') :
    s'.closed = true ∧
      ∀ (u : SessionUse) (talk : List ClusterEvent) (outcome : Except Failure u.Result),
        .used u talk outcome ∈ after →
          talk = [] ∧ (u.Calls { s with closed := false } →
            ∃ e, outcome = .error e ∧
              (u.samples = false → e.kind = .invalidState ∧ e.status = .invalidState ∧
                e.message = "Connection is closed") ∧
              (u.samples = true → e.kind = .clusterCommunication ∧ e.status = .communication ∧
                e.message = "Keyspace sampling failed." ∧ e.cause = some "Connection is closed")) := by
  obtain ⟨m, -, hrest⟩ := SessionRun.append h
  cases hrest with
  | close rest =>
    refine ⟨rest.closed_of_closed rfl, fun u talk outcome hu => ?_⟩
    obtain ⟨c, hc, hconversation⟩ := rest.used_of_closed rfl hu
    refine ⟨SessionUse.talk_of_closed hc hconversation, fun hcalls => ?_⟩
    refine ⟨u.refusal, SessionUse.outcome_of_closed hc hconversation hcalls, ?_, ?_⟩
    · intro hsamples
      rw [SessionUse.refusal, hsamples]
      exact ⟨rfl, rfl, rfl⟩
    · intro hsamples
      rw [SessionUse.refusal, hsamples]
      exact ⟨rfl, rfl, rfl, rfl⟩

theorem objects_after_close :
    let s : Session := { parameters := .resolve "adbc:couchbase:h" ['h'] [] none none [] }
    let s' : Session := { s with closed := true }
    let statement := ({} : CatalogFilter).schemasQuery
    let query : ClusterCall := .query statement ⟨.notBounded, true, true⟩
    let listing : SessionUse := .listSchemas none
    let objects : SessionUse := .getObjects .all {}
    let before : List SessionEvent :=
      [.used listing [.answered query (.error (.cluster "down"))] (.error (.cluster "down"))]
    let after : List SessionEvent :=
      [.used listing [] (.error closedFailure), .closed, .used objects [] (.error closedFailure)]
    SessionRun s (before ++ .closed :: after) s' ∧ s'.closed = true ∧
      objects.Calls { s with closed := false } ∧
      ∃ e, (.error closedFailure : Except Failure Batch) = .error e ∧ e.kind = .invalidState ∧
        e.status = .invalidState := by
  intro s s' statement query listing objects before after
  have hopen : Conversation (listing.perform s) [.answered query (.error (.cluster "down"))]
      (.error (.cluster "down")) := .call query _ (.fail _)
  have hlisting : Conversation (listing.perform s') [] (.error closedFailure) := .fail _
  have hobjects : Conversation (objects.perform s') [] (.error closedFailure) := .fail _
  have hrun : SessionRun s (before ++ .closed :: after) s' :=
    .use hopen (.close (.use hlisting (.close (.use hobjects (.refl s')))))
  have hasking : Conversation (objects.perform s) [.answered query (.error (.cluster "down"))]
      (.error (.cluster "down")) := .call query _ (.fail _)
  have hcalls : objects.Calls { s with closed := false } :=
    ⟨_, _, hasking, List.cons_ne_nil _ _⟩
  obtain ⟨hclosed, huses⟩ := uses_after_close hrun
  obtain ⟨-, hrefused⟩ := huses objects [] (.error closedFailure) (by simp [after])
  obtain ⟨e, he, hkind, -⟩ := hrefused hcalls
  obtain ⟨hinvalid, hstatus, -⟩ := hkind rfl
  exact ⟨hrun, hclosed, hcalls, e, he, hinvalid, hstatus⟩

/-- A sample of a closed session fails as if the cluster had not answered. -/
theorem sample_after_close :
    let s : Session := { parameters := .resolve "adbc:couchbase:h" ['h'] [] none none [] }
    let sample : SessionUse := .sample ⟨none, "b"⟩
    ∃ e : Failure, SessionRun s [.closed, .used sample [] (.error e)] { s with closed := true } ∧
      sample.Calls { s with closed := false } ∧ e.kind = .clusterCommunication ∧
      e.kind ≠ .invalidState ∧ e.status = .communication := by
  intro s sample
  have hsample : Conversation (sample.perform { s with closed := true }) []
      (.error unsampledFailure) := .fail _
  let statement := Session.samplingStatement ⟨none, "b"⟩ s.parameters.samplingSize
  let down : Failure := { Failure.cluster "Keyspace sampling failed." with cause := some "down" }
  have hasking : Conversation (sample.perform s)
      [.answered (.query (.ofList (normalize statement.toList)) (s.queryOptions true))
        (.error (.cluster "down"))] (.error down) :=
    .call _ _ (.fail _)
  have hcalls : sample.Calls { s with closed := false } := ⟨_, _, hasking, List.cons_ne_nil _ _⟩
  exact ⟨unsampledFailure, .close (.use hsample (.refl _)), hcalls, rfl, by decide, rfl⟩

end KeyspaceLink

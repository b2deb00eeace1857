import Mathlib.Tactic.ByContra
import KeyspaceLink.Access.Statement
import KeyspaceLink.Proofs.ClusterCalls

/-! One statement and the readers it returned: what can be done with them, and all that each
act can do, whatever the cluster answers. -/

namespace KeyspaceLink

open Plan

/-- A statement until it is dropped, the close flags of its results, and its readers. -/
structure StatementState where
  statement : Option Statement := some {}
  results : Results := {}
  readers : List Stream := []

/-- What can be done with a statement and its readers, which go by number. -/
inductive StatementAct
  | setQuery (sql : String)
  | set (key : String) (v : OptionValue)
  /-- An execution is under way, before anything is answered. -/
  | start
  | execute (c : Connection)
  | executeUpdate (c : Connection)
  | executeSchema (c : Connection)
  | drop
  | next (reader : Nat)

/-- Executions end the live result, and so does the end of the statement. -/
def StatementAct.ends : StatementAct → Bool
  | start | execute _ | executeUpdate _ | executeSchema _ | drop => true
  | setQuery _ | set _ _ | next _ => false

/-- What an act gives back. -/
inductive Return
  | nothing
  | reader (number : Nat)
  | batch (result : Except Failure (Option Batch))

/-- One act of a run, what the cluster was asked meanwhile, and what came back. -/
structure Moment where
  act : StatementAct
  talk : List ClusterEvent
  back : Return

namespace StatementState

def withStatement (d : StatementState)
    (use : Statement → ClusterPlan (Return × StatementState)) :
    ClusterPlan (Return × StatementState) :=
  match d.statement with
  | none => .done (.nothing, d)
  | some s => use s

/-- Carries out an act; a statement that was dropped takes none. -/
def perform (d : StatementState) : StatementAct → ClusterPlan (Return × StatementState)
  | .setQuery sql =>
    d.withStatement fun s => .done (.nothing, { d with statement := some (s.setQuery sql) })
  | .set key v =>
    d.withStatement fun s =>
      .done (.nothing, { d with statement := some ((s.set key v).toOption.getD s) })
  | .start =>
    d.withStatement fun s =>
      if s.query.isNone then .done (.nothing, d)
      else .done (.nothing, ⟨some (s.release d.results).1, (s.release d.results).2, d.readers⟩)
  | .execute c =>
    d.withStatement fun s => do
      match ← s.execute c d.results with
      | (.ok stream, s, r) =>
        return (.reader d.readers.length, ⟨some s, r, d.readers ++ [stream]⟩)
      | (.error _, s, r) => return (.nothing, ⟨some s, r, d.readers⟩)
  | .executeUpdate c =>
    d.withStatement fun s => do
      let (_, s, r) ← s.executeUpdate c d.results
      return (.nothing, ⟨some s, r, d.readers⟩)
  | .executeSchema c =>
    d.withStatement fun s => do
      let (_, s, r) ← s.executeSchema c d.results
      return (.nothing, ⟨some s, r, d.readers⟩)
  | .drop =>
    d.withStatement fun s => .done (.nothing, ⟨none, (s.release d.results).2, d.readers⟩)
  | .next i =>
    match d.readers[i]? with
    | none => .done (.nothing, d)
    | some stream =>
      .done (.batch (stream.next d.results).1,
        { d with readers := d.readers.set i (stream.next d.results).2 })

end StatementState

namespace Results

variable {r : Results} {n : Nat}

theorem isClosed_add : r.add.2.isClosed n = r.isClosed n := by
  by_cases h : n < r.closed.length
  · simp [add, isClosed, List.getElem?_append_left h]
  · have hlength : r.closed.length ≤ n := Nat.le_of_not_lt h
    by_cases hn : n = r.closed.length
    · simp [add, isClosed, hn]
    · have hlast : (r.closed ++ [false]).length ≤ n := by
        rw [List.length_append, List.length_singleton]
        omega
      simp only [add, isClosed, List.getElem?_eq_none hlength, List.getElem?_eq_none hlast]

theorem isClosed_close_of_isClosed {k : Nat} (h : r.isClosed n = true) :
    (r.close k).isClosed n = true := by
  have hlt : n < r.closed.length := by
    by_contra hge
    rw [isClosed, List.getElem?_eq_none (by omega)] at h
    cases h
  by_cases hk : k = n
  · simp [close, isClosed, hk, hlt]
  · simpa [close, isClosed, List.getElem?_set_ne hk] using h

theorem isClosed_close_self (h : n < r.closed.length) : (r.close n).isClosed n = true := by
  simp [close, isClosed, h]

theorem length_add : r.add.2.closed.length = r.closed.length + 1 := by simp [add]

end Results

namespace Statement

variable {s s' : Statement} {c : Connection} {r r' : Results}
  {talk : List ClusterEvent} {n : Nat}

theorem query_release : (s.release r).1.query = s.query := by
  unfold release
  split <;> rfl

theorem batchSize_release : (s.release r).1.batchSize = s.batchSize := by
  unfold release
  split <;> rfl

theorem current_release : (s.release r).1.current = none := by
  unfold release
  split
  · rfl
  · assumption

theorem isClosed_release_of_isClosed (h : r.isClosed n = true) :
    (s.release r).2.isClosed n = true := by
  unfold release
  split
  · exact Results.isClosed_close_of_isClosed h
  · exact h

theorem isClosed_release_of_current (h : s.current = some n) (hn : n < r.closed.length) :
    (s.release r).2.isClosed n = true := by
  rw [release, h]
  exact Results.isClosed_close_self hn

theorem release_release : (s.release r).1.release (s.release r).2 = s.release r := by
  rw [release, current_release]

/-- An execution begins with closing the live result: nothing changes if that is done before. -/
theorem run_release (h : s.query ≠ none) :
    (s.release r).1.run c (s.release r).2 = s.run c r := by
  obtain ⟨sql, hsql⟩ := Option.ne_none_iff_exists'.mp h
  simp only [run, query_release, hsql, release_release]

/-- An execution closes the live result, and then makes its calls. -/
theorem conversation_run_iff {sql : String} (hsql : s.query = some sql)
    {outcome : Except Failure Outcome} :
    (s.run c r).Conversation talk (.ok (outcome, s', r')) ↔
      (c.session.execute sql c.readOnly).Conversation talk outcome ∧
        s' = (s.release r).1 ∧ r' = (s.release r).2 := by
  simp only [run, hsql, bind_eq]
  constructor
  · intro h
    obtain ⟨x, hx, he⟩ := conversation_bind_done_iff.mp h
    cases he
    obtain ⟨y, hy, hxy⟩ := conversation_attempt_iff.mp hx
    cases hxy
    exact ⟨hy, rfl, rfl⟩
  · rintro ⟨h, rfl, rfl⟩
    exact conversation_bind_done_iff.mpr ⟨outcome, conversation_attempt_iff.mpr ⟨_, h, rfl⟩, rfl⟩

/-- What an execution makes of a statement and its results: what was closed stays closed, the
result that was live is closed, and the one that is live now is new. -/
structure Replaces (s : Statement) (r : Results) (s' : Statement) (r' : Results) : Prop where
  query : s'.query = s.query
  batchSize : s'.batchSize = s.batchSize
  closed : ∀ n, r.isClosed n = true → r'.isClosed n = true
  ended : ∀ n, s.current = some n → n < r.closed.length → r'.isClosed n = true
  current : ∀ n, s'.current = some n → n < r'.closed.length ∧ r'.isClosed n = false

theorem replaces_release : Replaces s r (s.release r).1 (s.release r).2 where
  query := query_release
  batchSize := batchSize_release
  closed _ := isClosed_release_of_isClosed
  ended _ := isClosed_release_of_current
  current n h := by
    rw [current_release] at h
    cases h

/-- The reader handed out for an outcome: its rows, under the number that is live then. -/
structure Opens (s s' : Statement) (o : Outcome) (stream : Stream) : Prop where
  rows : ∀ c, o.cursor? = some c →
    stream.reader = .ofCursor c s.batchSize ∧ ∃ n, stream.number = some n ∧ s'.current = some n
  noRows : o.cursor? = none → stream.reader = .noRows [resultColumn]

theorem Replaces.deliver {s₁ : Statement} {r₁ : Results} (h : Replaces s r s₁ r₁) (o : Outcome) :
    Replaces s r (s₁.deliver r₁ o).2.1 (s₁.deliver r₁ o).2.2 ∧
      Opens s (s₁.deliver r₁ o).2.1 o (s₁.deliver r₁ o).1 := by
  unfold Statement.deliver
  cases hcursor : o.cursor? with
  | none =>
    refine ⟨h, ⟨fun c hc => ?_, fun _ => rfl⟩⟩
    rw [hcursor] at hc
    cases hc
  | some cursor =>
    refine ⟨⟨h.query, h.batchSize, fun n hn => ?_, fun n hs hn => ?_, fun n hn => ?_⟩, ⟨?_, ?_⟩⟩
    · exact Results.isClosed_add.trans (h.closed n hn)
    · exact Results.isClosed_add.trans (h.ended n hs hn)
    · cases hn
      have hlast : r₁.isClosed r₁.closed.length = false := by simp [Results.isClosed]
      exact ⟨Results.length_add ▸ Nat.lt_succ_self _, Results.isClosed_add.trans hlast⟩
    · intro c hc
      rw [hcursor] at hc
      cases hc
      exact ⟨congrArg (Reader.ofCursor cursor) h.batchSize, _, rfl, rfl⟩
    · intro hnone
      rw [hcursor] at hnone
      cases hnone

/-- What an execution does to a statement, however it ends. -/
inductive Executed (s : Statement) (r : Results) : Statement → Results → Prop
  /-- Without a query nothing changes. -/
  | unasked (hquery : s.query = none) : Executed s r s r
  | replaced {s' : Statement} {r' : Results} (hquery : s.query ≠ none)
      (h : Replaces s r s' r') : Executed s r s' r'

theorem executed_of_run {outcome : Except Failure Outcome}
    (h : (s.run c r).Conversation talk (.ok (outcome, s', r'))) :
    Executed s r s' r' ∧ (s.query = none → ∃ e, outcome = .error e) := by
  cases hsql : s.query with
  | none =>
    simp only [run, hsql] at h
    obtain ⟨-, he⟩ := conversation_done_iff.mp h
    cases he
    exact ⟨.unasked hsql, fun _ => ⟨_, rfl⟩⟩
  | some sql =>
    have hquery : s.query ≠ none := hsql ▸ Option.some_ne_none sql
    obtain ⟨-, rfl, rfl⟩ := (conversation_run_iff hsql).mp h
    exact ⟨.replaced hquery replaces_release, fun hnone => absurd hnone (Option.some_ne_none sql)⟩

/-- A reader is handed out for an outcome of the query. -/
structure Returns (s : Statement) (c : Connection) (r : Results)
    (talk : List ClusterEvent) (s' : Statement) (r' : Results)
    (sql : String) (o : Outcome) (stream : Stream) : Prop where
  query : s.query = some sql
  run : (c.session.execute sql c.readOnly).Conversation talk (.ok o)
  replaces : Replaces s r s' r'
  opens : Opens s s' o stream

theorem conversation_execute {result : Except Failure Stream}
    (h : (s.execute c r).Conversation talk (.ok (result, s', r'))) :
    Executed s r s' r' ∧
      ∀ stream, result = .ok stream → ∃ sql o, Returns s c r talk s' r' sql o stream := by
  simp only [execute, bind_eq] at h
  obtain ⟨⟨outcome, s₁, r₁⟩, first, second, rfl, h₁, h₂⟩ := conversation_bind_ok_iff.mp h
  obtain ⟨hexecuted, hfails⟩ := executed_of_run h₁
  cases outcome with
  | error e =>
    obtain ⟨-, he⟩ := conversation_done_iff.mp h₂
    cases he
    refine ⟨hexecuted, fun stream hstream => ?_⟩
    cases hstream
  | ok o =>
    obtain ⟨rfl, he⟩ := conversation_done_iff.mp h₂
    cases he
    cases hsql : s.query with
    | none =>
      obtain ⟨e, he⟩ := hfails hsql
      cases he
    | some sql =>
      obtain ⟨hrun, rfl, rfl⟩ := (conversation_run_iff hsql).mp h₁
      obtain ⟨hreplaces, hopens⟩ := (replaces_release (s := s) (r := r)).deliver o
      refine ⟨.replaced (hsql ▸ Option.some_ne_none sql) hreplaces, fun stream hstream => ?_⟩
      cases hstream
      rw [List.append_nil]
      exact ⟨sql, o, hsql, hrun, hreplaces, hopens⟩

theorem executed_of_executeUpdate {result : Except Failure (Option Int)}
    (h : (s.executeUpdate c r).Conversation talk (.ok (result, s', r'))) : Executed s r s' r' := by
  simp only [executeUpdate, bind_eq] at h
  obtain ⟨⟨outcome, s₁, r₁⟩, first, second, rfl, h₁, h₂⟩ := conversation_bind_ok_iff.mp h
  obtain ⟨-, he⟩ := conversation_done_iff.mp h₂
  cases he
  exact (executed_of_run h₁).1

theorem executed_of_executeSchema {result : Except Failure (List Field)}
    (h : (s.executeSchema c r).Conversation talk (.ok (result, s', r'))) : Executed s r s' r' := by
  simp only [executeSchema, bind_eq] at h
  obtain ⟨⟨stream, s₁, r₁⟩, first, second, rfl, h₁, h₂⟩ := conversation_bind_ok_iff.mp h
  obtain ⟨-, he⟩ := conversation_done_iff.mp h₂
  cases he
  exact (conversation_execute h₁).1

end Statement

namespace StatementState

variable {d d' : StatementState} {a : StatementAct} {back : Return} {stream : Stream}
  {talk : List ClusterEvent} {i : Nat}

/-- An execution that has been started goes on as if nothing had been done before. -/
theorem perform_of_start {c : Connection}
    (ha : a = .execute c ∨ a = .executeUpdate c ∨ a = .executeSchema c)
    (h : d.perform .start = .done (.nothing, d')) : d'.perform a = d.perform a := by
  obtain ⟨_ | s, r, readers⟩ := d
  · cases h
    rfl
  · simp only [perform, withStatement] at h
    split at h
    · cases h
      rfl
    · next hquery =>
      have hrun : (s.release r).1.run c (s.release r).2 = s.run c r :=
        Statement.run_release (by simpa using hquery)
      cases h
      rcases ha with rfl | rfl | rfl
      · simp only [perform, withStatement, Statement.execute, hrun]
      · simp only [perform, withStatement, Statement.executeUpdate, hrun]
      · simp only [perform, withStatement, Statement.executeSchema, Statement.execute, hrun]

/-- All that an act can do. -/
inductive Step (d : StatementState) :
    StatementAct → List ClusterEvent → Return → StatementState → Prop
  | idle {a : StatementAct} {talk : List ClusterEvent}
      (hquery : a.ends = true → ∀ s, d.statement = some s → s.query = none) :
      Step d a talk .nothing d
  | changed {a : StatementAct} {s s' : Statement} (ha : a.ends = false)
      (hs : d.statement = some s) (hcurrent : s'.current = s.current)
      (hquery : s.query ≠ none → s'.query ≠ none) :
      Step d a [] .nothing { d with statement := some s' }
  | ended {a : StatementAct} {talk : List ClusterEvent}
      {s s' : Statement} {r : Results} (ha : a.ends = true) (hs : d.statement = some s)
      (hquery : s.query ≠ none) (h : s.Replaces d.results s' r) :
      Step d a talk .nothing ⟨some s', r, d.readers⟩
  | returned {c : Connection} {talk : List ClusterEvent}
      {s s' : Statement} {r : Results} {sql : String} {o : Outcome} {stream : Stream}
      (hs : d.statement = some s) (h : s.Returns c d.results talk s' r sql o stream) :
      Step d (.execute c) talk (.reader d.readers.length) ⟨some s', r, d.readers ++ [stream]⟩
  | dropped {s : Statement} (hs : d.statement = some s) :
      Step d .drop [] .nothing ⟨none, (s.release d.results).2, d.readers⟩
  | next {i : Nat} {stream : Stream} (hi : d.readers[i]? = some stream) :
      Step d (.next i) [] (.batch (stream.next d.results).1)
        { d with readers := d.readers.set i (stream.next d.results).2 }

theorem step_of_withStatement {use : Statement → ClusterPlan (Return × StatementState)}
    (h : (d.withStatement use).Conversation talk (.ok (back, d')))
    (hstep : ∀ s, d.statement = some s → (use s).Conversation talk (.ok (back, d')) →
      Step d a talk back d') : Step d a talk back d' := by
  unfold withStatement at h
  split at h
  · next hs =>
    obtain ⟨-, he⟩ := conversation_done_iff.mp h
    cases he
    refine .idle fun _ s hs' => ?_
    rw [hs] at hs'
    cases hs'
  · next s hs => exact hstep s hs h

theorem step_of_executed {s s' : Statement} {r : Results} (ha : a.ends = true)
    (hs : d.statement = some s) (h : s.Executed d.results s' r) :
    Step d a talk .nothing ⟨some s', r, d.readers⟩ := by
  cases h with
  | unasked hquery =>
    rw [← hs]
    refine .idle fun _ s' hs' => ?_
    rw [hs] at hs'
    cases hs'
    exact hquery
  | replaced hquery h => exact .ended ha hs hquery h

theorem set_keeps (s : Statement) (key : String) (v : OptionValue) :
    ((s.set key v).toOption.getD s).current = s.current ∧
      ((s.set key v).toOption.getD s).query = s.query := by
  unfold Statement.set
  split
  · cases hv : v.accept key Statement.positive? <;> exact ⟨rfl, rfl⟩
  · exact ⟨rfl, rfl⟩

theorem step_of_perform (h : (d.perform a).Conversation talk (.ok (back, d'))) :
    Step d a talk back d' := by
  cases a with
  | setQuery sql =>
    refine step_of_withStatement h fun s hs h => ?_
    obtain ⟨rfl, he⟩ := conversation_done_iff.mp h
    cases he
    exact .changed rfl hs rfl fun _ => Option.some_ne_none sql
  | set key v =>
    refine step_of_withStatement h fun s hs h => ?_
    obtain ⟨rfl, he⟩ := conversation_done_iff.mp h
    cases he
    obtain ⟨hcurrent, hquery⟩ := set_keeps s key v
    exact .changed rfl hs hcurrent fun hne => hquery ▸ hne
  | start =>
    refine step_of_withStatement h fun s hs h => ?_
    split at h
    · next hnone =>
      obtain ⟨-, he⟩ := conversation_done_iff.mp h
      cases he
      have hstep : Step d .start talk .nothing ⟨some s, d.results, d.readers⟩ :=
        step_of_executed rfl hs (.unasked (Option.isNone_iff_eq_none.mp hnone))
      rwa [← hs] at hstep
    · next hsome =>
      obtain ⟨-, he⟩ := conversation_done_iff.mp h
      cases he
      exact .ended rfl hs (by simpa using hsome) Statement.replaces_release
  | execute c =>
    refine step_of_withStatement h fun s hs h => ?_
    obtain ⟨⟨result, s', r⟩, first, second, rfl, h₁, h₂⟩ := conversation_bind_ok_iff.mp h
    obtain ⟨hexecuted, hreturns⟩ := Statement.conversation_execute h₁
    cases result with
    | error e =>
      obtain ⟨-, he⟩ := conversation_done_iff.mp h₂
      cases he
      exact step_of_executed rfl hs hexecuted
    | ok stream =>
      obtain ⟨rfl, he⟩ := conversation_done_iff.mp h₂
      cases he
      obtain ⟨sql, o, hreturn⟩ := hreturns stream rfl
      rw [List.append_nil]
      exact .returned hs hreturn
  | executeUpdate c =>
    refine step_of_withStatement h fun s hs h => ?_
    obtain ⟨⟨result, s', r⟩, first, second, rfl, h₁, h₂⟩ := conversation_bind_ok_iff.mp h
    obtain ⟨-, he⟩ := conversation_done_iff.mp h₂
    cases he
    exact step_of_executed rfl hs (Statement.executed_of_executeUpdate h₁)
  | executeSchema c =>
    refine step_of_withStatement h fun s hs h => ?_
    obtain ⟨⟨result, s', r⟩, first, second, rfl, h₁, h₂⟩ := conversation_bind_ok_iff.mp h
    obtain ⟨-, he⟩ := conversation_done_iff.mp h₂
    cases he
    exact step_of_executed rfl hs (Statement.executed_of_executeSchema h₁)
  | drop =>
    refine step_of_withStatement h fun s hs h => ?_
    obtain ⟨rfl, he⟩ := conversation_done_iff.mp h
    cases he
    exact .dropped hs
  | next i =>
    simp only [perform] at h
    split at h
    · obtain ⟨-, he⟩ := conversation_done_iff.mp h
      cases he
      refine .idle fun hends => ?_
      cases hends
    · next stream hi =>
      obtain ⟨rfl, he⟩ := conversation_done_iff.mp h
      cases he
      exact .next hi

end StatementState

end KeyspaceLink

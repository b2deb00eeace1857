import KeyspaceLink.Proofs.Outcomes
import KeyspaceLink.Proofs.ReadOnly
import KeyspaceLink.Proofs.StatementActs

/-! Runs of one statement and of all readers it ever returned, in any order and whatever the
cluster answers: one result is live at most, and nothing but a later execution or the end of
the statement closes it. -/

namespace KeyspaceLink

open Plan

/-- What the calls for a batch of that reader returned, in order. -/
def batchesOf (reader : Nat) (run : List Moment) : List (Except Failure (Option Batch)) :=
  run.filterMap fun m =>
    match m.act, m.back with
    | .next i, .batch result => if i = reader then some result else none
    | _, _ => none

/-- The rows of an outcome that call number `i` returns, `size` at a time. -/
def Outcome.batch? (o : Outcome) (size i : Nat) : Option Batch :=
  o.cursor?.bind fun c => KeyspaceLink.batch? c.columns ((c.rows.drop (i * size)).take size)

namespace StatementState

/-- The states after a run, the cluster answering in any way. -/
inductive Reaches : StatementState → List Moment → StatementState → Prop
  | refl (d : StatementState) : Reaches d [] d
  | act {run : List Moment} {m : Moment} {d d₁ d₂ : StatementState}
      (step : (d.perform m.act).Conversation m.talk (.ok (m.back, d₁)))
      (rest : Reaches d₁ run d₂) : Reaches d (m :: run) d₂

variable {d d' : StatementState} {a : StatementAct} {back : Return} {stream : Stream}
  {talk : List ClusterEvent} {i : Nat}

/-- A reader that yields nothing: its result is closed, or it never had rows. -/
def IsDead (r : Results) (stream : Stream) : Prop :=
  stream.number.any r.isClosed = true ∨ ∃ columns, stream.reader = .noRows columns

theorem IsDead.mono {r r' : Results} (h : IsDead r stream)
    (hclosed : ∀ n, r.isClosed n = true → r'.isClosed n = true) : IsDead r' stream := by
  rcases h with h | h
  · left
    cases hnumber : stream.number with
    | none =>
      rw [hnumber] at h
      cases h
    | some n =>
      rw [hnumber] at h
      exact hclosed n h
  · exact .inr h

theorem IsDead.next {r : Results} (h : IsDead r stream) :
    (stream.next r).1 = .ok none ∧ IsDead r (stream.next r).2 := by
  obtain ⟨reader, number⟩ := stream
  rcases h with h | ⟨columns, hreader⟩
  · have hclosed : number.any r.isClosed = true := h
    refine ⟨?_, .inl hclosed⟩
    simp only [Stream.next, hclosed]
    cases reader <;> rfl
  · have hrows : reader = .noRows columns := hreader
    rw [hrows]
    exact ⟨rfl, .inr ⟨columns, rfl⟩⟩

/-- What holds in every state of a run: only the result that the statement holds can be live. -/
structure Sound (d : StatementState) : Prop where
  query : d.readers ≠ [] → ∀ s, d.statement = some s → s.query ≠ none
  live : ∀ stream ∈ d.readers, IsDead d.results stream ∨
    ∃ s n, d.statement = some s ∧ s.current = some n ∧ stream.number = some n
  current : ∀ s n, d.statement = some s → s.current = some n → n < d.results.closed.length

theorem sound_start : Sound {} where
  query h := absurd rfl h
  live _ h := by cases h
  current s n hs hn := by
    cases hs
    cases hn

/-- An execution leaves no reader of before alive. -/
theorem Sound.isDead_of_replaces (h : d.Sound) {s s' : Statement} {r : Results}
    (hs : d.statement = some s) (hr : s.Replaces d.results s' r) :
    ∀ stream ∈ d.readers, IsDead r stream := by
  intro stream hstream
  rcases h.live stream hstream with hdead | ⟨s₁, n, hs₁, hn, hnumber⟩
  · exact hdead.mono hr.closed
  · rw [hs] at hs₁
    cases hs₁
    left
    rw [hnumber]
    exact hr.ended n hn (h.current s n hs hn)

theorem Sound.step (h : d.Sound) (hstep : Step d a talk back d') : d'.Sound := by
  cases hstep with
  | idle => exact h
  | changed ha hs hcurrent hquery =>
    refine ⟨fun hne s hs' => ?_, fun stream hstream => ?_, fun s n hs' hn => ?_⟩
    · cases hs'
      exact hquery (h.query hne _ hs)
    · rcases h.live stream hstream with hdead | ⟨s₁, n, hs₁, hn, hnumber⟩
      · exact .inl hdead
      · rw [hs] at hs₁
        cases hs₁
        exact .inr ⟨_, n, rfl, hcurrent.trans hn, hnumber⟩
    · cases hs'
      exact h.current _ n hs (hcurrent ▸ hn)
  | ended ha hs hquery hr =>
    refine ⟨fun _ s hs' => ?_, fun stream hstream => ?_, fun s n hs' hn => ?_⟩
    · cases hs'
      exact hr.query ▸ hquery
    · exact .inl (h.isDead_of_replaces hs hr stream hstream)
    · cases hs'
      exact (hr.current n hn).1
  | returned hs hr =>
    refine ⟨fun _ s hs' => ?_, fun stream hstream => ?_, fun s n hs' hn => ?_⟩
    · cases hs'
      rw [hr.replaces.query, hr.query]
      exact Option.some_ne_none _
    · rcases List.mem_append.mp hstream with hold | hnew
      · exact .inl (h.isDead_of_replaces hs hr.replaces stream hold)
      · -- The new reader is the live one, unless it has no rows.
        obtain rfl := List.mem_singleton.mp hnew
        cases hcursor : Outcome.cursor? _ with
        | none => exact .inl (.inr ⟨_, hr.opens.noRows hcursor⟩)
        | some c =>
          obtain ⟨-, n, hnumber, hcurrent⟩ := hr.opens.rows c hcursor
          exact .inr ⟨_, n, rfl, hcurrent, hnumber⟩
    · cases hs'
      exact (hr.replaces.current n hn).1
  | dropped hs =>
    refine ⟨fun _ s hs' => ?_, fun stream hstream => ?_, fun s n hs' => ?_⟩
    · cases hs'
    · exact .inl (h.isDead_of_replaces hs Statement.replaces_release stream hstream)
    · cases hs'
  | next hi =>
    refine ⟨fun hne s hs => ?_, fun stream hstream => ?_, h.current⟩
    · refine h.query (fun hnil => ?_) s hs
      rw [hnil] at hi
      cases hi
    · rcases List.mem_or_eq_of_mem_set hstream with hold | rfl
      · exact h.live stream hold
      · rcases h.live _ (List.mem_of_getElem? hi) with hdead | hcurrent
        · exact .inl hdead.next.2
        · exact .inr hcurrent

theorem Reaches.sound {run : List Moment} (h : Reaches d run d') (hd : d.Sound) : d'.Sound := by
  induction h with
  | refl d => exact hd
  | act step rest ih => exact ih (hd.step (step_of_perform step))

theorem Reaches.append {first second : List Moment} (h : Reaches d (first ++ second) d') :
    ∃ d₁, Reaches d first d₁ ∧ Reaches d₁ second d' := by
  induction first generalizing d with
  | nil => exact ⟨d, .refl d, h⟩
  | cons m first ih =>
    cases h with
    | act step rest =>
      obtain ⟨d₁, h₁, h₂⟩ := ih rest
      exact ⟨d₁, .act step h₁, h₂⟩

theorem batchesOf_cons (i : Nat) (m : Moment) (run : List Moment) :
    batchesOf i (m :: run) = batchesOf i [m] ++ batchesOf i run :=
  List.filterMap_append (l := [m])

theorem batchesOf_next (j : Nat) (result : Except Failure (Option Batch)) :
    batchesOf i [⟨.next j, talk, .batch result⟩] = if j = i then [result] else [] := by
  by_cases hji : j = i <;> simp [batchesOf, hji]

/-- Readers are added and never taken away. -/
theorem Step.length_le (h : Step d a talk back d') : d.readers.length ≤ d'.readers.length := by
  cases h with
  | returned => simp
  | next => simp
  | _ => exact Nat.le_refl _

theorem Reaches.length_le {run : List Moment} (h : Reaches d run d') :
    d.readers.length ≤ d'.readers.length := by
  induction h with
  | refl d => exact Nat.le_refl _
  | act step rest ih => exact Nat.le_trans (step_of_perform step).length_le ih

/-- A dead reader stays dead, whatever is done. -/
theorem Step.isDead (h : Step d a talk back d') (hi : d.readers[i]? = some stream)
    (hdead : IsDead d.results stream) :
    (∃ stream', d'.readers[i]? = some stream' ∧ IsDead d'.results stream') ∧
      ∀ result ∈ batchesOf i [⟨a, talk, back⟩], result = .ok none := by
  cases h with
  | idle => exact ⟨⟨stream, hi, hdead⟩, by simp [batchesOf]⟩
  | changed => exact ⟨⟨stream, hi, hdead⟩, by simp [batchesOf]⟩
  | ended ha hs hquery hr => exact ⟨⟨stream, hi, hdead.mono hr.closed⟩, by simp [batchesOf]⟩
  | returned hs hr =>
    refine ⟨⟨stream, ?_, hdead.mono hr.replaces.closed⟩, by simp [batchesOf]⟩
    rw [List.getElem?_append_left (List.getElem?_eq_some_iff.mp hi).1]
    exact hi
  | dropped hs =>
    exact ⟨⟨stream, hi, hdead.mono Statement.replaces_release.closed⟩, by simp [batchesOf]⟩
  | @next j stream₁ hj =>
    rw [batchesOf_next]
    by_cases hji : j = i
    · rw [hji] at hj ⊢
      obtain rfl : stream = stream₁ := Option.some.inj (hi.symm.trans hj)
      obtain ⟨hnone, hdead'⟩ := hdead.next
      refine ⟨⟨_, List.getElem?_set_self (List.getElem?_eq_some_iff.mp hi).1, hdead'⟩, ?_⟩
      simp [hnone]
    · refine ⟨⟨stream, ?_, hdead⟩, by simp [hji]⟩
      rw [← hi]
      exact List.getElem?_set_ne hji

theorem Reaches.isDead {run : List Moment} (h : Reaches d run d')
    (hi : d.readers[i]? = some stream) (hdead : IsDead d.results stream) :
    ∀ result ∈ batchesOf i run, result = .ok none := by
  induction h generalizing stream with
  | refl d => simp [batchesOf]
  | act step rest ih =>
    obtain ⟨⟨stream', hi', hdead'⟩, hnow⟩ := (step_of_perform step).isDead hi hdead
    rw [batchesOf_cons]
    intro result hresult
    rcases List.mem_append.mp hresult with hresult | hresult
    · exact hnow result hresult
    · exact ih hi' hdead' result hresult

/-- An act that ends the live result leaves every reader dead. -/
theorem Sound.step_ends (h : d.Sound) (hstep : Step d a talk back d') (ha : a.ends = true)
    (hi : d.readers[i]? = some stream) :
    ∃ stream', d'.readers[i]? = some stream' ∧ IsDead d'.results stream' := by
  have hmem : stream ∈ d.readers := List.mem_of_getElem? hi
  cases hstep with
  | idle hquery =>
    rcases h.live stream hmem with hdead | ⟨s, n, hs, -, -⟩
    · exact ⟨stream, hi, hdead⟩
    · exact absurd (hquery ha s hs) (h.query (List.ne_nil_of_mem hmem) s hs)
  | changed hends =>
    rw [ha] at hends
    cases hends
  | ended _ hs hquery hr => exact ⟨stream, hi, h.isDead_of_replaces hs hr stream hmem⟩
  | returned hs hr =>
    refine ⟨stream, ?_, h.isDead_of_replaces hs hr.replaces stream hmem⟩
    rw [List.getElem?_append_left (List.getElem?_eq_some_iff.mp hi).1]
    exact hi
  | dropped hs =>
    exact ⟨stream, hi, h.isDead_of_replaces hs Statement.replaces_release stream hmem⟩
  | next => cases ha

/-- While nothing ends it, a reader goes on as if it were alone. -/
theorem Step.isLive (h : Step d a talk back d') (ha : a.ends = false)
    (hi : d.readers[i]? = some stream) (hopen : stream.number.any d.results.isClosed = false) :
    d'.results = d.results ∧
      (batchesOf i [⟨a, talk, back⟩] = [] ∧ d'.readers[i]? = some stream ∨
        batchesOf i [⟨a, talk, back⟩] = [(stream.reader.next false).1] ∧
          d'.readers[i]? = some ⟨(stream.reader.next false).2, stream.number⟩) := by
  cases h with
  | idle => exact ⟨rfl, .inl ⟨by simp [batchesOf], hi⟩⟩
  | changed => exact ⟨rfl, .inl ⟨by simp [batchesOf], hi⟩⟩
  | ended hends =>
    rw [ha] at hends
    cases hends
  | returned => cases ha
  | dropped => cases ha
  | @next j stream₁ hj =>
    rw [batchesOf_next]
    refine ⟨rfl, ?_⟩
    by_cases hji : j = i
    · rw [hji] at hj ⊢
      obtain rfl : stream = stream₁ := Option.some.inj (hi.symm.trans hj)
      have hnext : stream.next d.results =
          ((stream.reader.next false).1, ⟨(stream.reader.next false).2, stream.number⟩) := by
        rw [Stream.next, hopen]
      rw [hnext, if_pos rfl]
      exact .inr ⟨rfl, List.getElem?_set_self (List.getElem?_eq_some_iff.mp hi).1⟩
    · rw [if_neg hji]
      exact .inl ⟨rfl, (List.getElem?_set_ne hji).trans hi⟩

theorem Reaches.isLive {run : List Moment} (h : Reaches d run d')
    (hrun : ∀ m ∈ run, m.act.ends = false) (hi : d.readers[i]? = some stream)
    (hopen : stream.number.any d.results.isClosed = false) :
    batchesOf i run = stream.reader.results (batchesOf i run).length := by
  induction h generalizing stream with
  | refl d => rfl
  | @act run m d d₁ d₂ step rest ih =>
    have hm : m.act.ends = false := hrun m List.mem_cons_self
    have hrest : ∀ m ∈ run, m.act.ends = false := fun m' hm' => hrun m' (List.mem_cons_of_mem m hm')
    obtain ⟨hresults, ⟨hnow, hi'⟩ | ⟨hnow, hi'⟩⟩ := (step_of_perform step).isLive hm hi hopen
    · rw [batchesOf_cons, hnow, List.nil_append]
      exact ih hrest hi' (hresults ▸ hopen)
    · have hlater := ih hrest hi' (by rw [hresults]; exact hopen)
      rw [batchesOf_cons, hnow, List.singleton_append, List.length_cons, Reader.results]
      exact congrArg _ hlater

theorem eq_map_range_of_forall {α : Type} {l : List α} {a : α} (h : ∀ b ∈ l, b = a) :
    l = (List.range l.length).map fun _ => a := by
  rw [List.map_const', List.length_range]
  exact List.eq_replicate_of_mem h

/-- A reader just returned, while nothing ends it, delivers the rows of its execution. -/
theorem batches_of_opens {s s' : Statement} {o : Outcome} {live : List Moment}
    (h : Reaches d live d') (hlive : ∀ m ∈ live, m.act.ends = false)
    (hi : d.readers[i]? = some stream) (hopens : s.Opens s' o stream) (ho : o.Fits)
    (hcurrent : ∀ n, s'.current = some n → d.results.isClosed n = false) :
    batchesOf i live = (List.range (batchesOf i live).length).map fun j =>
      .ok (o.batch? (max s.batchSize 1) j) := by
  cases hcursor : o.cursor? with
  | none =>
    have hnone := h.isDead hi (.inr ⟨_, hopens.noRows hcursor⟩)
    simp only [Outcome.batch?, hcursor, Option.bind_none]
    exact eq_map_range_of_forall hnone
  | some c =>
    obtain ⟨hreader, n, hnumber, hn⟩ := hopens.rows c hcursor
    have hopen : stream.number.any d.results.isClosed = false := by
      rw [hnumber]
      exact hcurrent n hn
    have hresults := h.isLive hlive hi hopen
    rw [hreader, Reader.ofCursor, Reader.results_of_fits (ho c hcursor)] at hresults
    simpa only [Outcome.batch?, hcursor, Option.bind_some] using hresults

/-- From an act that ends the live result on, no reader of before yields a batch. -/
theorem Sound.batches_of_ends (h : d.Sound) {run : List Moment} (hrun : Reaches d run d')
    (hends : ∀ m ∈ run.head?, m.act.ends = true) (hi : d.readers[i]? = some stream) :
    ∀ result ∈ batchesOf i run, result = .ok none := by
  cases hrun with
  | refl => simp [batchesOf]
  | @act run m d d₁ d' step rest =>
    have hm : m.act.ends = true := hends m rfl
    obtain ⟨stream', hi', hdead⟩ := h.step_ends (step_of_perform step) hm hi
    have hnow : batchesOf i [m] = [] := by
      obtain ⟨act, talk, back⟩ := m
      cases act with
      | next j => cases hm
      | _ => simp [batchesOf]
    rw [batchesOf_cons, hnow, List.nil_append]
    exact rest.isDead hi' hdead

end StatementState

open StatementState

/-- Each reader of a statement delivers the rows of its own execution, in order and in the
statement's batches, until a later execution starts or the statement is dropped; from then on
it yields nothing. -/
theorem statement_has_one_live_result {before live rest : List Moment} {c : Connection}
    {talk : List ClusterEvent} {i : Nat} {d : StatementState}
    (h : Reaches {} (before ++ ⟨.execute c, talk, .reader i⟩ :: (live ++ rest)) d)
    (hlive : ∀ m ∈ live, m.act.ends = false) (hrest : ∀ m ∈ rest.head?, m.act.ends = true) :
    ∃ d₁ s sql o, Reaches {} before d₁ ∧ d₁.statement = some s ∧ s.query = some sql ∧
      (c.session.execute sql c.readOnly).Conversation talk (.ok o) ∧
      (batchesOf i live = (List.range (batchesOf i live).length).map fun j =>
        .ok (o.batch? (max s.batchSize 1) j)) ∧
      ∀ result ∈ batchesOf i rest, result = .ok none := by
  obtain ⟨d₁, hbefore, hafter⟩ := h.append
  have hd₁ : d₁.Sound := hbefore.sound sound_start
  cases hafter with
  | @act _ _ _ d₂ _ step hafter =>
    obtain ⟨d₃, h₃, hrun⟩ := hafter.append
    have hstep := step_of_perform step
    have hd₂ : d₂.Sound := hd₁.step hstep
    have hd₃ : d₃.Sound := h₃.sound hd₂
    cases hstep with
    | @returned _ _ s s' r sql o stream hs hr =>
      have hi : (d₁.readers ++ [stream])[d₁.readers.length]? = some stream :=
        List.getElem?_concat_length
      have hlt : d₁.readers.length < d₃.readers.length :=
        Nat.lt_of_lt_of_le (by simp) h₃.length_le
      have hfits : o.Fits := hr.run.yields (c.session.yields_execute sql c.readOnly)
      refine ⟨d₁, s, sql, o, hbefore, hs, hr.query, hr.run, ?_, ?_⟩
      · exact batches_of_opens h₃ hlive hi hr.opens hfits fun n hn => (hr.replaces.current n hn).2
      · exact hd₃.batches_of_ends hrun hrest (List.getElem?_eq_getElem hlt)

/-- The second execution fails at the cluster, and the reader of the first one has ended all
the same, with a row not yet delivered. -/
theorem failed_execution_ends_reader :
    let c : Connection :=
      { session := { parameters := .resolve "adbc:couchbase:h" ['h'] [] none none [] } }
    let query : ClusterCall := .query "SELECT 1" ⟨.notBounded, false, true⟩
    let first : Except Failure QueryReply := .ok ⟨[.int 1, .int 2], none⟩
    let second : Except Failure QueryReply := .error (.cluster "down")
    let row : Batch := ⟨[resultColumn.field], layOut [resultColumn] [[.int 1]]⟩
    let before : List Moment :=
      [⟨.setQuery "SELECT 1", [], .nothing⟩, ⟨.set "couchbase.statement.batch_size" (.int 1), [], .nothing⟩]
    let live : List Moment := [⟨.next 0, [], .batch (.ok (some row))⟩]
    let rest : List Moment :=
      [⟨.execute c, [.answered query second], .nothing⟩, ⟨.next 0, [], .batch (.ok none)⟩]
    ∃ d, Reaches {} (before ++ ⟨.execute c, [.answered query first], .reader 0⟩ :: (live ++ rest)) d ∧
      (∀ m ∈ live, m.act.ends = false) ∧ (∀ m ∈ rest.head?, m.act.ends = true) ∧
      ∃ d₁ s sql o, Reaches {} before d₁ ∧ d₁.statement = some s ∧ s.query = some sql ∧
        (c.session.execute sql c.readOnly).Conversation [.answered query first] (.ok o) ∧
        (batchesOf 0 live = (List.range (batchesOf 0 live).length).map fun j =>
          .ok (o.batch? (max s.batchSize 1) j)) ∧
        ∀ result ∈ batchesOf 0 rest, result = .ok none := by
  intro c query first second row before live rest
  have hunread : c.session.execute "SELECT 1" false = c.session.executeNative "SELECT 1" false :=
    c.session.execute_of_unread (by decide +kernel)
  have hnormal : normalize "SELECT 1".toList = "SELECT 1".toList := by decide +kernel
  have hinfers : infers "SELECT 1".toList = false := by decide +kernel
  have hfirst : (c.session.execute "SELECT 1" false).Conversation [.answered query first]
      (.ok (.rows (.documents [.int 1, .int 2]))) := by
    rw [hunread, Session.executeNative, hnormal, hinfers]
    apply Conversation.call
    exact .done _
  have hsecond : (c.session.execute "SELECT 1" false).Conversation [.answered query second]
      (.error (.cluster "down")) := by
    rw [hunread, Session.executeNative, hnormal]
    apply Conversation.call
    exact .fail _
  let s₁ : Statement := { query := some "SELECT 1", batchSize := 1 }
  let s₂ : Statement := { s₁ with current := some 0 }
  let cursor : Cursor := .documents [.int 1, .int 2]
  let d₁ : StatementState := ⟨some s₁, {}, []⟩
  let d₂ : StatementState := ⟨some s₂, ⟨[false]⟩, [⟨.ofCursor cursor 1, some 0⟩]⟩
  let d₃ : StatementState := ⟨some s₂, ⟨[false]⟩, [⟨.rows (cursor.take 1).2 1, some 0⟩]⟩
  let d₄ : StatementState := ⟨some s₁, ⟨[true]⟩, [⟨.rows (cursor.take 1).2 1, some 0⟩]⟩
  have hrun₁ : (s₁.run c {}).Conversation [.answered query first] (.ok (.ok (.rows cursor), s₁, {})) :=
    (Statement.conversation_run_iff rfl).mpr ⟨hfirst, rfl, rfl⟩
  have hrun₂ : (s₂.run c ⟨[false]⟩).Conversation [.answered query second]
      (.ok (.error (.cluster "down"), s₁, ⟨[true]⟩)) :=
    (Statement.conversation_run_iff rfl).mpr ⟨hsecond, rfl, rfl⟩
  have hexecute₁ : (s₁.execute c {}).Conversation [.answered query first]
      (.ok (.ok ⟨.ofCursor cursor 1, some 0⟩, s₂, ⟨[false]⟩)) := by
    simp only [Statement.execute, bind_eq]
    exact conversation_bind_ok_iff.mpr ⟨_, _, [], rfl, hrun₁, .done _⟩
  have hexecute₂ : (s₂.execute c ⟨[false]⟩).Conversation [.answered query second]
      (.ok (.error (.cluster "down"), s₁, ⟨[true]⟩)) := by
    simp only [Statement.execute, bind_eq]
    exact conversation_bind_ok_iff.mpr ⟨_, _, [], rfl, hrun₂, .done _⟩
  have hstep₁ : (d₁.perform (.execute c)).Conversation [.answered query first]
      (.ok (.reader 0, d₂)) := by
    simp only [StatementState.perform, withStatement, bind_eq]
    exact conversation_bind_ok_iff.mpr ⟨_, _, [], rfl, hexecute₁, .done _⟩
  have hstep₂ : (d₃.perform (.execute c)).Conversation [.answered query second]
      (.ok (.nothing, d₄)) := by
    simp only [StatementState.perform, withStatement, bind_eq]
    exact conversation_bind_ok_iff.mpr ⟨_, _, [], rfl, hexecute₂, .done _⟩
  have hreach : ∃ d,
      Reaches {} (before ++ ⟨.execute c, [.answered query first], .reader 0⟩ :: (live ++ rest)) d :=
    ⟨_, .act (.done _) (.act (.done _) (.act hstep₁ (.act (.done _) (.act hstep₂
      (.act (.done _) (.refl _))))))⟩
  obtain ⟨d, hreach⟩ := hreach
  have hlive : ∀ m ∈ live, m.act.ends = false := by simp [live, StatementAct.ends]
  have hrest : ∀ m ∈ rest.head?, m.act.ends = true := by simp [rest, StatementAct.ends]
  exact ⟨d, hreach, hlive, hrest, statement_has_one_live_result hreach hlive hrest⟩

end KeyspaceLink

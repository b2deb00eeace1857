import KeyspaceLink.Proofs.Readiness
import Mathlib

/-! When the probes of a wait are made, if probes themselves take no time: pauses double up to
three seconds, and the last probe is made at the deadline. -/

namespace KeyspaceLink

namespace Plan

variable {Call : Type} {Reply : Call → Type} {α β σ : Type}

/-- Makes no pause, so that no time passes. -/
inductive Instant : Plan Call Reply α → Prop where
  | done (a : α) : Instant (.done a)
  | fail (e : Failure) : Instant (.fail e)
  | call {c : Call} {next : Reply c → Plan Call Reply α} (rest : ∀ r, Instant (next r)) :
      Instant (.call c next)

theorem Instant.bind {p : Plan Call Reply α} {f : α → Plan Call Reply β} (hp : p.Instant)
    (hf : ∀ a, (f a).Instant) : (p.bind f).Instant := by
  induction hp with
  | done a => exact hf a
  | fail e => exact .fail e
  | call _ ih => exact .call ih

theorem instant_ofExcept (x : Except Failure α) :
    (Plan.ofExcept x : Plan Call Reply α).Instant := by
  cases x with
  | ok a => exact .done a
  | error e => exact .fail e

theorem Instant.time_run {p : Plan Call Reply α} (h : p.Instant)
    (answer : (c : Call) → Nat → σ → Reply c × σ) (now : Nat) (s : σ) :
    (p.run answer now s).2.1 = now := by
  induction h generalizing s with
  | done a => rfl
  | fail e => rfl
  | call _ ih => exact ih _ _

variable {answer : (c : Call) → Nat → σ → Reply c × σ}

theorem Instant.run_attempt_bind {p : Plan Call Reply α} (h : p.Instant)
    (f : Except Failure α → Plan Call Reply β) (now : Nat) (s : σ) :
    (p.attempt.bind f).run answer now s =
      (f (p.run answer now s).1).run answer (p.run answer now s).2.1 (p.run answer now s).2.2 := by
  induction h generalizing now s with
  | done a => rfl
  | fail e => rfl
  | call _ ih => exact ih _ now _

theorem Instant.events_attempt_bind {p : Plan Call Reply α} (h : p.Instant)
    (f : Except Failure α → Plan Call Reply β) (now : Nat) (s : σ) :
    (p.attempt.bind f).events answer now s = p.events answer now s ++
      (f (p.run answer now s).1).events answer (p.run answer now s).2.1
        (p.run answer now s).2.2 := by
  induction h generalizing now s with
  | done a => rfl
  | fail e => rfl
  | call _ ih => exact congrArg _ (ih _ now _)

end Plan

open Plan

theorem suffix_timedOut (timeout : Nat) (resource : String) (last : Failure) :
    last.message.toList <:+ (timedOut timeout resource last).message.toList := by
  by_cases h : last.message.isEmpty = true
  · rw [String.isEmpty_iff.mp h]
    exact List.nil_suffix
  · simp only [timedOut, Failure.timeout, if_neg h, String.toList_append]
    exact ((List.suffix_append _ _).trans (List.suffix_append _ _))

/-- Pauses are at their longest well before a doubling would leave the word. -/
theorem backoff_eq (attempt : Nat) : backoff attempt = min (50 * 2 ^ attempt) 3000 := by
  unfold backoff doublings
  split
  · rw [Nat.one_shiftLeft]
  · next h =>
    have hpow : 2 ^ 32 ≤ 2 ^ attempt := Nat.pow_le_pow_right (by decide) (by omega)
    have hword : word32 = 2 ^ 32 := rfl
    omega

/-- A wait against a peer, from a time on. The times, the timeout among them, are whole
milliseconds, as all pauses are. -/
structure Wait (Call : Type) (Reply : Call → Type) (σ α : Type) where
  timeout : Nat
  resource : String
  probe : Plan Call Reply α
  answer : (c : Call) → Nat → σ → Reply c × σ
  start : Nat
  state : σ

namespace IndexStatus

theorem instant_fetch : fetch.Instant := by
  refine .call fun r => (instant_ofExcept r).bind fun reply => ?_
  refine (instant_ofExcept _).bind fun reply => ?_
  split
  · exact .done _
  · exact .fail _

theorem instant_probePrimaryGone (bucket : String) : (probePrimaryGone bucket).Instant := by
  refine instant_fetch.bind fun status => ?_
  split
  · exact .done _
  · exact .fail _

end IndexStatus

namespace Wait

variable {Call : Type} {Reply : Call → Type} {σ α : Type}

/-- When a probe is due, from the start on. -/
def due (w : Wait Call Reply σ α) : Nat → Nat
  | 0 => 0
  | k + 1 => min (w.due k + min (50 * 2 ^ k) 3000) w.timeout

/-- The state of the peer before a probe that is made when it is due. -/
def before (w : Wait Call Reply σ α) : Nat → σ
  | 0 => w.state
  | k + 1 => (w.probe.run w.answer (w.start + w.due k) (w.before k)).2.2

def outcome (w : Wait Call Reply σ α) (k : Nat) : Except Failure α :=
  (w.probe.run w.answer (w.start + w.due k) (w.before k)).1

def talk (w : Wait Call Reply σ α) (k : Nat) : List (Event Call Reply) :=
  w.probe.events w.answer (w.start + w.due k) (w.before k)

/-- How the wait ends, and when, and what it leaves. -/
def run (w : Wait Call Reply σ α) : Except Failure α × Nat × σ :=
  (waitFor w.timeout w.resource w.probe).run w.answer w.start w.state

def events (w : Wait Call Reply σ α) : List (Event Call Reply) :=
  (waitFor w.timeout w.resource w.probe).events w.answer w.start w.state

section Times

variable (w : Wait Call Reply σ α)

theorem due_le (k : Nat) : w.due k ≤ w.timeout := by
  cases k with
  | zero => exact Nat.zero_le _
  | succ k => exact Nat.min_le_right _ _

theorem le_due (k : Nat) : min w.timeout (3000 * k) ≤ w.due (k + 6) := by
  induction k with
  | zero => simp
  | succ k ih =>
    have hpow : 2 ^ 6 ≤ 2 ^ (k + 6) := Nat.pow_le_pow_right (by decide) (by omega)
    have hpause : min (50 * 2 ^ (k + 6)) 3000 = 3000 := by omega
    rw [Nat.add_right_comm, due, hpause]
    omega

theorem pause_eq (k : Nat) : w.due k + min (backoff k) (w.timeout - w.due k) = w.due (k + 1) := by
  have hdue := w.due_le k
  rw [due, backoff_eq]
  omega

theorem lt_of_due_lt {k : Nat} (hlimit : w.timeout < word32 * 1000)
    (h : ∀ j < k, w.due j < w.timeout) : k < word32 := by
  have hword : word32 = 4294967296 := rfl
  -- from the sixth pause on each takes three seconds
  by_contra hk
  have hle := w.le_due (k - 7)
  have hlt := h (k - 7 + 6) (by omega)
  omega

end Times

section Steps

variable (w : Wait Call Reply σ α) {k : Nat}

/-- The wait from a probe on. -/
def runFrom (k : Nat) : Except Failure α × Nat × σ :=
  (waitFrom w.timeout w.resource w.probe (w.due k) k).run w.answer (w.start + w.due k) (w.before k)

def eventsFrom (k : Nat) : List (Event Call Reply) :=
  (waitFrom w.timeout w.resource w.probe (w.due k) k).events w.answer (w.start + w.due k)
    (w.before k)

variable {w}

theorem ends_of_ready (hprobe : w.probe.Instant) (h : ¬ IsUnready (w.outcome k)) :
    w.runFrom k = (w.outcome k, w.start + w.due k, w.before (k + 1)) ∧
      w.eventsFrom k = w.talk k := by
  have htime := hprobe.time_run w.answer (w.start + w.due k) (w.before k)
  rw [runFrom, eventsFrom, waitFrom, hprobe.run_attempt_bind, hprobe.events_attempt_bind, htime]
  cases hx : w.outcome k with
  | ok a =>
    rw [outcome] at hx
    rw [hx]
    exact ⟨rfl, List.append_nil _⟩
  | error e =>
    have hkind : e.kind ≠ .notReady := fun hkind => h ⟨e, hx, hkind⟩
    rw [outcome] at hx
    simp only [hx, if_neg hkind]
    exact ⟨rfl, List.append_nil _⟩

theorem ends_of_late (hprobe : w.probe.Instant) {e : Failure} (he : w.outcome k = .error e)
    (hkind : e.kind = .notReady) (hlate : w.timeout ≤ w.due k) :
    w.runFrom k =
        (.error (timedOut w.timeout w.resource e), w.start + w.due k, w.before (k + 1)) ∧
      w.eventsFrom k = w.talk k := by
  have htime := hprobe.time_run w.answer (w.start + w.due k) (w.before k)
  rw [outcome] at he
  rw [runFrom, eventsFrom, waitFrom, hprobe.run_attempt_bind, hprobe.events_attempt_bind, htime]
  simp only [he, if_pos hkind, dif_neg (Nat.not_lt.mpr hlate)]
  exact ⟨rfl, List.append_nil _⟩

/-- A probe that finds nothing ready in time is followed by the next, when that is due. -/
theorem goes_on (hprobe : w.probe.Instant) (h : IsUnready (w.outcome k))
    (hearly : w.due k < w.timeout) :
    w.runFrom k = w.runFrom (k + 1) ∧
      w.eventsFrom k = w.talk k ++ .paused (w.due (k + 1) - w.due k) :: w.eventsFrom (k + 1) := by
  obtain ⟨e, he, hkind⟩ := h
  have htime := hprobe.time_run w.answer (w.start + w.due k) (w.before k)
  have hpause := w.pause_eq k
  have hlength : min (backoff k) (w.timeout - w.due k) = w.due (k + 1) - w.due k := by omega
  have hnext : w.start + w.due k + min (backoff k) (w.timeout - w.due k) =
      w.start + w.due (k + 1) := by omega
  rw [outcome] at he
  rw [runFrom, eventsFrom, waitFrom, hprobe.run_attempt_bind, hprobe.events_attempt_bind, htime]
  simp only [he, if_pos hkind, dif_pos hearly, Plan.run, Plan.events, hnext, hpause]
  rw [hlength]
  exact ⟨rfl, rfl⟩

theorem goes_on_to (hprobe : w.probe.Instant) {last : Nat}
    (h : ∀ k < last, IsUnready (w.outcome k) ∧ w.due k < w.timeout) :
    w.run = w.runFrom last ∧
      w.events = ((List.range last).flatMap fun k =>
        w.talk k ++ [.paused (w.due (k + 1) - w.due k)]) ++ w.eventsFrom last := by
  induction last with
  | zero => exact ⟨rfl, rfl⟩
  | succ last ih =>
    obtain ⟨hrun, hevents⟩ := ih fun k hk => h k (by omega)
    obtain ⟨hunready, hearly⟩ := h last (by omega)
    obtain ⟨hrun', hevents'⟩ := goes_on hprobe hunready hearly
    refine ⟨hrun.trans hrun', ?_⟩
    rw [hevents, hevents', List.range_succ]
    simp

theorem exists_last (w : Wait Call Reply σ α) :
    ∃ last, (∀ k < last, IsUnready (w.outcome k) ∧ w.due k < w.timeout) ∧
      (¬ IsUnready (w.outcome last) ∨ w.due last = w.timeout) := by
  classical
  -- if nothing else ends the wait, the deadline does, as no pause is empty
  have hend : ∃ k, ¬ (IsUnready (w.outcome k) ∧ w.due k < w.timeout) := by
    refine ⟨w.timeout + 6, fun h => ?_⟩
    have hle := w.le_due w.timeout
    omega
  refine ⟨Nat.find hend, fun k hk => not_not.mp (Nat.find_min hend hk), ?_⟩
  rcases not_and_or.mp (Nat.find_spec hend) with h | h
  · exact .inl h
  · exact .inr (Nat.le_antisymm (w.due_le _) (Nat.not_lt.mp h))

end Steps

/-- Probes are made when they are due, up to the first that finds anything but not ready, and
that is how the wait ends; if there is none, the last probe is made at the deadline, and the
wait ends right then, telling what that probe told. -/
theorem ends_at_ready_or_deadline (w : Wait Call Reply σ α) (hprobe : w.probe.Instant)
    (hlimit : w.timeout < word32 * 1000) :
    ∃ last < word32,
      (∀ k < last, IsUnready (w.outcome k) ∧ w.due k < w.timeout) ∧
      w.events = ((List.range last).flatMap fun k =>
        w.talk k ++ [.paused (w.due (k + 1) - w.due k)]) ++ w.talk last ∧
      w.run.2 = (w.start + w.due last, w.before (last + 1)) ∧
      (¬ IsUnready (w.outcome last) ∧ w.run.1 = w.outcome last ∨
        ∃ e e', w.outcome last = .error e ∧ e.kind = .notReady ∧ w.due last = w.timeout ∧
          w.run.1 = .error e' ∧ e'.kind = .timeout ∧ e.message.toList <:+ e'.message.toList) := by
  obtain ⟨last, hbefore, hlast⟩ := w.exists_last
  obtain ⟨hrun, hevents⟩ := goes_on_to hprobe hbefore
  refine ⟨last, w.lt_of_due_lt hlimit fun k hk => (hbefore k hk).2, hbefore, ?_⟩
  rw [hrun, hevents]
  by_cases hunready : IsUnready (w.outcome last)
  · obtain ⟨e, he, hkind⟩ := hunready
    have hdeadline := hlast.resolve_left fun h => h ⟨e, he, hkind⟩
    obtain ⟨hrun', hevents'⟩ := ends_of_late hprobe he hkind hdeadline.ge
    rw [hrun', hevents']
    exact ⟨rfl, rfl, .inr ⟨e, _, he, hkind, hdeadline, rfl, rfl, suffix_timedOut ..⟩⟩
  · obtain ⟨hrun', hevents'⟩ := ends_of_ready hprobe hunready
    rw [hrun', hevents']
    exact ⟨rfl, rfl, .inl ⟨hunready, rfl⟩⟩

/-- The primary index of a bucket is still listed for a tenth of a second. -/
def lingeringIndex : Wait ClusterCall ClusterCall.Reply Unit Unit where
  timeout := 120
  resource := "A requested index"
  probe := IndexStatus.probePrimaryGone "b"
  answer c now s :=
    (uniformPeer (.error Failure.readOnly)
      (.ok ⟨200,
        if now < 100 then "\x7b\"indexes\":[\x7b\"bucket\":\"b\",\"index\":\"#primary\"\x7d]\x7d"
        else "\x7b\"indexes\":[]\x7d"⟩) c, s)
  start := 0
  state := ()

/-- The pause before the last probe is cut off, and that probe finds the index gone. -/
theorem gone_at_deadline :
    lingeringIndex.probe.Instant ∧ lingeringIndex.timeout < word32 * 1000 ∧
      lingeringIndex.events = lingeringIndex.talk 0 ++ [.paused 50] ++
        (lingeringIndex.talk 1 ++ [.paused 70]) ++ lingeringIndex.talk 2 ∧
      lingeringIndex.run.1 = .ok () ∧ lingeringIndex.run.2.1 = 120 := by
  have hprobe : lingeringIndex.probe.Instant := IndexStatus.instant_probePrimaryGone "b"
  have hlimit : lingeringIndex.timeout < word32 * 1000 := by decide
  let listed : Failure := IndexStatus.unready [("b:#primary", "null")]
  have hunready : ∀ k < 2, IsUnready (lingeringIndex.outcome k) := by
    have houtcome : lingeringIndex.outcome 0 = .error listed := by decide +kernel
    have houtcome' : lingeringIndex.outcome 1 = .error listed := by decide +kernel
    intro k hk
    interval_cases k
    · exact ⟨listed, houtcome, rfl⟩
    · exact ⟨listed, houtcome', rfl⟩
  have hgone : lingeringIndex.outcome 2 = .ok () := by decide +kernel
  have hzero : lingeringIndex.due 0 = 0 := rfl
  have hfirst : lingeringIndex.due 1 = 50 := rfl
  have hsecond : lingeringIndex.due 2 = 120 := rfl
  obtain ⟨last, -, hbefore, hevents, hrun, hend⟩ :=
    ends_at_ready_or_deadline lingeringIndex hprobe hlimit
  have hlast : last = 2 := by
    apply Nat.le_antisymm
    · by_contra hlt
      exact Nat.lt_irrefl _ (hsecond ▸ (hbefore 2 (by omega)).2)
    · by_contra hlt
      rcases hend with ⟨hready, -⟩ | ⟨e, e', -, -, hdeadline, -⟩
      · exact hready (hunready last (by omega))
      · have hsoon : last < 2 := by omega
        interval_cases last <;> cases hdeadline
  subst hlast
  refine ⟨hprobe, hlimit, ?_, ?_, congrArg Prod.fst hrun⟩
  · rw [hevents, List.range_succ, List.range_one]
    simp only [List.singleton_append, List.flatMap_cons, List.flatMap_nil, List.append_nil,
      Nat.reduceAdd, hzero, hfirst, hsecond, Nat.reduceSub]
  rcases hend with ⟨-, h⟩ | ⟨e, e', he, -⟩
  · exact h.trans hgone
  · rw [hgone] at he
    cases he

end Wait

end KeyspaceLink

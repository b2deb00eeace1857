import KeyspaceLink.Cluster.Call

/-! Conversations: the calls, answers and pauses of one way in which a plan can be carried
out. A run against any peer is a conversation if no counter overflows in it, so what holds of
every conversation holds whatever the peer answers. -/

namespace KeyspaceLink.Plan

inductive Event (Call : Type) (Reply : Call → Type) where
  | answered (c : Call) (r : Reply c)
  | paused (millis : Nat)

variable {Call : Type} {Reply : Call → Type} {α β σ : Type}

def Event.call? : Event Call Reply → Option Call
  | answered c _ => some c
  | paused _ => none

/-- The calls made, in order. -/
def asked (talk : List (Event Call Reply)) : List Call := talk.filterMap Event.call?

theorem asked_append (first second : List (Event Call Reply)) :
    asked (first ++ second) = asked first ++ asked second :=
  List.filterMap_append

theorem prefix_of_split {first second before after : List (Event Call Reply)}
    {event : Event Call Reply} (h : first ++ second = before ++ event :: after)
    (hm : event ∉ first) : first <+: before := by
  rcases List.append_eq_append_iff.mp h with ⟨rest, rfl, -⟩ | ⟨rest, rfl, hrest⟩
  · exact ⟨rest, rfl⟩
  · cases rest with
    | nil => exact ⟨[], by simp⟩
    | cons e rest =>
      obtain ⟨rfl, -⟩ := List.cons.inj hrest
      simp at hm

/-- What happens while the plan is carried out, and how it ends. -/
inductive Conversation :
    Plan Call Reply α → List (Event Call Reply) → Except Failure α → Prop where
  | done (a : α) : Conversation (.done a) [] (.ok a)
  | fail (e : Failure) : Conversation (.fail e) [] (.error e)
  | call (c : Call) {next : Reply c → Plan Call Reply α} {talk : List (Event Call Reply)}
      {outcome : Except Failure α} (r : Reply c) (rest : Conversation (next r) talk outcome) :
      Conversation (.call c next) (.answered c r :: talk) outcome
  | sleep (millis : Nat) {next : Plan Call Reply α} {talk : List (Event Call Reply)}
      {outcome : Except Failure α} (rest : Conversation next talk outcome) :
      Conversation (.sleep millis next) (.paused millis :: talk) outcome

/-- The events of a run against a peer with a state of its own. -/
def events (answer : (c : Call) → Nat → σ → Reply c × σ) :
    Plan Call Reply α → Nat → σ → List (Event Call Reply)
  | .done _, _, _ => []
  | .fail _, _, _ => []
  | .call c next, now, s =>
    .answered c (answer c now s).1 ::
      (next (answer c now s).1).events answer now (answer c now s).2
  | .sleep millis next, now, s => .paused millis :: next.events answer (now + millis) s
  | .overflow, _, _ => []

/-- A run that comes to a value is a conversation: it met no counter that overflows. -/
theorem conversation_of_run_ok {answer : (c : Call) → Nat → σ → Reply c × σ}
    {p : Plan Call Reply α} {now : Nat} {s : σ} {a : α} (h : (p.run answer now s).1 = .ok a) :
    Conversation p (p.events answer now s) (.ok a) := by
  induction p generalizing now s with
  | done b => exact h ▸ .done b
  | fail e => cases h
  | call c next ih => exact .call c _ (ih _ h)
  | sleep millis next ih => exact .sleep millis (ih h)
  | overflow => cases h

theorem run_bind_ofExcept (answer : (c : Call) → Nat → σ → Reply c × σ) (p : Plan Call Reply α)
    (g : α → Except Failure β) (now : Nat) (s : σ) :
    ((p.bind fun a => Plan.ofExcept (g a)).run answer now s).1 =
      (p.run answer now s).1.bind g := by
  induction p generalizing now s with
  | done a =>
    rw [bind]
    cases hg : g a with
    | ok b => exact hg.symm
    | error e => exact hg.symm
  | fail e => rfl
  | call c next ih => exact ih _ now _
  | sleep millis next ih => exact ih (now + millis) s
  | overflow => rfl

/-- What a call is answered in a run, the peer answers it at some time and in some state. -/
theorem answered_of_mem_events {answer : (c : Call) → Nat → σ → Reply c × σ}
    {p : Plan Call Reply α} {now : Nat} {s : σ} {c : Call} {r : Reply c}
    (h : .answered c r ∈ p.events answer now s) : ∃ now s, r = (answer c now s).1 := by
  induction p generalizing now s with
  | done a => cases h
  | fail e => cases h
  | call c' next ih =>
    rcases List.mem_cons.mp h with he | h
    · cases he
      exact ⟨now, s, rfl⟩
    · exact ih _ h
  | sleep millis next ih =>
    rcases List.mem_cons.mp h with he | h
    · cases he
    · exact ih h
  | overflow => cases h

section Inversion

variable {talk : List (Event Call Reply)} {outcome : Except Failure α}

theorem conversation_done_iff {a : α} :
    Conversation (Plan.done a : Plan Call Reply α) talk outcome ↔
      talk = [] ∧ outcome = .ok a := by
  constructor
  · intro h
    cases h
    exact ⟨rfl, rfl⟩
  · rintro ⟨rfl, rfl⟩
    exact .done a

theorem conversation_fail_iff {e : Failure} :
    Conversation (Plan.fail e : Plan Call Reply α) talk outcome ↔
      talk = [] ∧ outcome = .error e := by
  constructor
  · intro h
    cases h
    exact ⟨rfl, rfl⟩
  · rintro ⟨rfl, rfl⟩
    exact .fail e

theorem conversation_call_iff {c : Call} {next : Reply c → Plan Call Reply α} :
    Conversation (.call c next) talk outcome ↔
      ∃ r rest, talk = .answered c r :: rest ∧ Conversation (next r) rest outcome := by
  constructor
  · intro h
    cases h with
    | call _ r rest => exact ⟨r, _, rfl, rest⟩
  · rintro ⟨r, rest, rfl, h⟩
    exact .call c r h

theorem conversation_sleep_iff {millis : Nat} {next : Plan Call Reply α} :
    Conversation (.sleep millis next) talk outcome ↔
      ∃ rest, talk = .paused millis :: rest ∧ Conversation next rest outcome := by
  constructor
  · intro h
    cases h with
    | sleep _ rest => exact ⟨_, rfl, rest⟩
  · rintro ⟨rest, rfl, h⟩
    exact .sleep millis h

theorem not_conversation_overflow :
    ¬ Conversation (Plan.overflow : Plan Call Reply α) talk outcome := nofun

theorem conversation_ofExcept_iff {x : Except Failure α} :
    Conversation (Plan.ofExcept x : Plan Call Reply α) talk outcome ↔
      talk = [] ∧ outcome = x := by
  cases x with
  | ok a => exact conversation_done_iff
  | error e => exact conversation_fail_iff

end Inversion

theorem bind_eq (p : Plan Call Reply α) (f : α → Plan Call Reply β) : p >>= f = p.bind f := rfl

theorem Conversation.bind {p : Plan Call Reply α} {f : α → Plan Call Reply β} {a : α}
    {first second : List (Event Call Reply)} {outcome : Except Failure β}
    (hp : Conversation p first (.ok a)) (hf : Conversation (f a) second outcome) :
    Conversation (p.bind f) (first ++ second) outcome := by
  induction p generalizing first with
  | done b =>
    obtain ⟨rfl, hb⟩ := conversation_done_iff.mp hp
    cases hb
    exact hf
  | fail e => cases (conversation_fail_iff.mp hp).2
  | call c next ih =>
    obtain ⟨r, rest, rfl, hr⟩ := conversation_call_iff.mp hp
    exact .call c r (ih r hr)
  | sleep millis next ih =>
    obtain ⟨rest, rfl, hr⟩ := conversation_sleep_iff.mp hp
    exact .sleep millis (ih hr)
  | overflow => cases hp

theorem Conversation.bind_error {p : Plan Call Reply α} {f : α → Plan Call Reply β}
    {talk : List (Event Call Reply)} {e : Failure} (hp : Conversation p talk (.error e)) :
    Conversation (p.bind f) talk (.error e) := by
  induction p generalizing talk with
  | done b => cases (conversation_done_iff.mp hp).2
  | fail e' =>
    obtain ⟨rfl, he⟩ := conversation_fail_iff.mp hp
    cases he
    exact .fail e
  | call c next ih =>
    obtain ⟨r, rest, rfl, hr⟩ := conversation_call_iff.mp hp
    exact .call c r (ih r hr)
  | sleep millis next ih =>
    obtain ⟨rest, rfl, hr⟩ := conversation_sleep_iff.mp hp
    exact .sleep millis (ih hr)
  | overflow => cases hp

/-- A plan made of two fails in its first part, or goes through it and on. -/
theorem conversation_bind_iff {p : Plan Call Reply α} {f : α → Plan Call Reply β}
    {talk : List (Event Call Reply)} {outcome : Except Failure β} :
    Conversation (p.bind f) talk outcome ↔
      (∃ e, Conversation p talk (.error e) ∧ outcome = .error e) ∨
      ∃ a first second, talk = first ++ second ∧ Conversation p first (.ok a) ∧
        Conversation (f a) second outcome := by
  constructor
  · intro h
    induction p generalizing talk with
    | done a => exact .inr ⟨a, [], talk, rfl, .done a, h⟩
    | fail e =>
      obtain ⟨rfl, rfl⟩ := conversation_fail_iff.mp h
      exact .inl ⟨e, .fail e, rfl⟩
    | call c next ih =>
      obtain ⟨r, rest, rfl, hr⟩ := conversation_call_iff.mp h
      rcases ih r hr with ⟨e, he, ho⟩ | ⟨a, first, second, rfl, h₁, h₂⟩
      · exact .inl ⟨e, .call c r he, ho⟩
      · exact .inr ⟨a, .answered c r :: first, second, rfl, .call c r h₁, h₂⟩
    | sleep millis next ih =>
      obtain ⟨rest, rfl, hr⟩ := conversation_sleep_iff.mp h
      rcases ih hr with ⟨e, he, ho⟩ | ⟨a, first, second, rfl, h₁, h₂⟩
      · exact .inl ⟨e, .sleep millis he, ho⟩
      · exact .inr ⟨a, .paused millis :: first, second, rfl, .sleep millis h₁, h₂⟩
    | overflow => cases h
  · rintro (⟨e, he, rfl⟩ | ⟨a, first, second, rfl, h₁, h₂⟩)
    · exact he.bind_error
    · exact h₁.bind h₂

theorem conversation_bind_ok_iff {p : Plan Call Reply α} {f : α → Plan Call Reply β}
    {talk : List (Event Call Reply)} {b : β} :
    Conversation (p.bind f) talk (.ok b) ↔
      ∃ a first second, talk = first ++ second ∧ Conversation p first (.ok a) ∧
        Conversation (f a) second (.ok b) := by
  rw [conversation_bind_iff, or_iff_right]
  rintro ⟨e, -, he⟩
  cases he

/-- What is made of a result without a call takes part in no conversation. -/
theorem conversation_bind_done_iff {p : Plan Call Reply α} {g : α → β}
    {talk : List (Event Call Reply)} {b : β} :
    Conversation (p.bind fun a => .done (g a)) talk (.ok b) ↔
      ∃ a, Conversation p talk (.ok a) ∧ g a = b := by
  rw [conversation_bind_ok_iff]
  constructor
  · rintro ⟨a, first, second, rfl, h, hdone⟩
    obtain ⟨rfl, hb⟩ := conversation_done_iff.mp hdone
    rw [List.append_nil]
    exact ⟨a, h, (Except.ok.inj hb).symm⟩
  · rintro ⟨a, h, rfl⟩
    exact ⟨a, talk, [], (List.append_nil talk).symm, h, .done (g a)⟩

/-- What is made of a result without a call may fail too. -/
theorem conversation_bind_ofExcept_iff {p : Plan Call Reply α} {g : α → Except Failure β}
    {talk : List (Event Call Reply)} {outcome : Except Failure β} :
    Conversation (p.bind fun a => Plan.ofExcept (g a)) talk outcome ↔
      ∃ x, Conversation p talk x ∧ outcome = x.bind g := by
  rw [conversation_bind_iff]
  constructor
  · rintro (⟨e, h, rfl⟩ | ⟨a, first, second, rfl, h, hg⟩)
    · exact ⟨.error e, h, rfl⟩
    · obtain ⟨rfl, rfl⟩ := conversation_ofExcept_iff.mp hg
      rw [List.append_nil]
      exact ⟨.ok a, h, rfl⟩
  · rintro ⟨x, h, rfl⟩
    cases x with
    | error e => exact .inl ⟨e, h, rfl⟩
    | ok a =>
      exact .inr ⟨a, talk, [], (List.append_nil talk).symm, h,
        conversation_ofExcept_iff.mpr ⟨rfl, rfl⟩⟩

theorem conversation_ofExcept_bind_iff {x : Except Failure α} {f : α → Plan Call Reply β}
    {talk : List (Event Call Reply)} {outcome : Except Failure β} :
    Conversation ((Plan.ofExcept x).bind f) talk outcome ↔
      (∃ e, x = .error e ∧ talk = [] ∧ outcome = .error e) ∨
      ∃ a, x = .ok a ∧ Conversation (f a) talk outcome := by
  cases x with
  | ok a => simp [Plan.ofExcept, Plan.bind]
  | error e => simp [Plan.ofExcept, Plan.bind, conversation_fail_iff]

theorem conversation_ofExcept_bind_ok_iff {x : Except Failure α} {f : α → Plan Call Reply β}
    {talk : List (Event Call Reply)} {b : β} :
    Conversation ((Plan.ofExcept x).bind f) talk (.ok b) ↔
      ∃ a, x = .ok a ∧ Conversation (f a) talk (.ok b) := by
  rw [conversation_ofExcept_bind_iff, or_iff_right]
  rintro ⟨e, -, -, he⟩
  cases he

/-- What is done with a result and makes no call leaves no trace. -/
theorem Conversation.of_bind {p : Plan Call Reply α} {f : α → Plan Call Reply β}
    {talk : List (Event Call Reply)} {outcome : Except Failure β}
    (h : Conversation (p.bind f) talk outcome)
    (hf : ∀ a rest o, Conversation (f a) rest o → rest = []) :
    ∃ o, Conversation p talk o := by
  rcases conversation_bind_iff.mp h with ⟨e, he, -⟩ | ⟨a, first, second, rfl, h₁, h₂⟩
  · exact ⟨.error e, he⟩
  · rw [hf a second outcome h₂, List.append_nil]
    exact ⟨.ok a, h₁⟩

theorem conversation_attempt_iff {p : Plan Call Reply α} {talk : List (Event Call Reply)}
    {outcome : Except Failure (Except Failure α)} :
    Conversation p.attempt talk outcome ↔ ∃ x, Conversation p talk x ∧ outcome = .ok x := by
  induction p generalizing talk with
  | done a =>
    simp only [attempt, conversation_done_iff]
    constructor
    · rintro ⟨rfl, rfl⟩
      exact ⟨.ok a, ⟨rfl, rfl⟩, rfl⟩
    · rintro ⟨x, ⟨rfl, rfl⟩, rfl⟩
      exact ⟨rfl, rfl⟩
  | fail e =>
    simp only [attempt, conversation_done_iff, conversation_fail_iff]
    constructor
    · rintro ⟨rfl, rfl⟩
      exact ⟨.error e, ⟨rfl, rfl⟩, rfl⟩
    · rintro ⟨x, ⟨rfl, rfl⟩, rfl⟩
      exact ⟨rfl, rfl⟩
  | call c next ih =>
    simp only [attempt, conversation_call_iff, ih]
    constructor
    · rintro ⟨r, rest, rfl, x, hx, rfl⟩
      exact ⟨x, ⟨r, rest, rfl, hx⟩, rfl⟩
    · rintro ⟨x, ⟨r, rest, rfl, hx⟩, rfl⟩
      exact ⟨r, rest, rfl, x, hx, rfl⟩
  | sleep millis next ih =>
    simp only [attempt, conversation_sleep_iff, ih]
    constructor
    · rintro ⟨rest, rfl, x, hx, rfl⟩
      exact ⟨x, ⟨rest, rfl, hx⟩, rfl⟩
    · rintro ⟨x, ⟨rest, rfl, hx⟩, rfl⟩
      exact ⟨rest, rfl, x, hx, rfl⟩
  | overflow => simp only [attempt, not_conversation_overflow, false_and, exists_false]

theorem conversation_attempt_bind_iff {p : Plan Call Reply α}
    {f : Except Failure α → Plan Call Reply β} {talk : List (Event Call Reply)}
    {outcome : Except Failure β} :
    Conversation (p.attempt.bind f) talk outcome ↔
      ∃ x first second, talk = first ++ second ∧ Conversation p first x ∧
        Conversation (f x) second outcome := by
  rw [conversation_bind_iff]
  simp only [conversation_attempt_iff]
  constructor
  · rintro (⟨e, ⟨x, -, he⟩, -⟩ | ⟨a, first, second, htalk, ⟨x, hx, ha⟩, hf⟩)
    · cases he
    · cases ha
      exact ⟨a, first, second, htalk, hx, hf⟩
  · rintro ⟨x, first, second, htalk, hx, hf⟩
    exact .inr ⟨x, first, second, htalk, ⟨x, hx, rfl⟩, hf⟩

/-- A plan that makes one call; its answer and its end are in this relation. -/
def AsksOnce (p : Plan Call Reply α) (c : Call) (V : Reply c → Except Failure α → Prop) : Prop :=
  ∀ talk outcome, Conversation p talk outcome → ∃ r, talk = [.answered c r] ∧ V r outcome

theorem AsksOnce.bind {p : Plan Call Reply α} {f : α → Plan Call Reply β} {c : Call}
    {L : Reply c → α → Prop} {Q : α → β → Prop}
    (hp : AsksOnce p c fun r outcome => ∀ a, outcome = .ok a ↔ L r a)
    (hf : ∀ a talk outcome, Conversation (f a) talk outcome →
      talk = [] ∧ ∀ b, outcome = .ok b ↔ Q a b) :
    AsksOnce (p.bind f) c fun r outcome => ∀ b, outcome = .ok b ↔ ∃ a, L r a ∧ Q a b := by
  intro talk outcome h
  rcases conversation_bind_iff.mp h with ⟨e, he, rfl⟩ | ⟨a, first, second, rfl, h₁, h₂⟩
  · obtain ⟨r, rfl, hr⟩ := hp _ _ he
    refine ⟨r, rfl, fun b => ⟨nofun, ?_⟩⟩
    rintro ⟨a, ha, -⟩
    cases (hr a).mpr ha
  · obtain ⟨r, rfl, hr⟩ := hp _ _ h₁
    obtain ⟨rfl, hq⟩ := hf _ _ _ h₂
    refine ⟨r, rfl, fun b => ⟨fun ho => ⟨a, (hr a).mp rfl, (hq b).mp ho⟩, ?_⟩⟩
    rintro ⟨a', ha', hb⟩
    cases (hr a').mpr ha'
    exact (hq b).mpr hb

/-- Holds if every call the plan can come to make has the property, whatever was answered before,
and no counter overflows in it but where `past` holds. -/
inductive AsksOr (past : Prop) (P : Call → Prop) : Plan Call Reply α → Prop where
  | done (a : α) : AsksOr past P (.done a)
  | fail (e : Failure) : AsksOr past P (.fail e)
  | call {c : Call} {next : Reply c → Plan Call Reply α} (holds : P c)
      (rest : ∀ r, AsksOr past P (next r)) : AsksOr past P (.call c next)
  | sleep (millis : Nat) {next : Plan Call Reply α} (rest : AsksOr past P next) :
      AsksOr past P (.sleep millis next)
  | overflow (h : past) : AsksOr past P .overflow

/-- Every call has the property, and no counter overflows. -/
abbrev Asks (P : Call → Prop) (p : Plan Call Reply α) : Prop := p.AsksOr False P

namespace AsksOr

variable {past : Prop} {P : Call → Prop} {p : Plan Call Reply α}

theorem ofExcept (x : Except Failure α) :
    (Plan.ofExcept x : Plan Call Reply α).AsksOr past P := by
  cases x with
  | ok a => exact .done a
  | error e => exact .fail e

theorem bind {f : α → Plan Call Reply β} (hp : p.AsksOr past P) (hf : ∀ a, (f a).AsksOr past P) :
    (p.bind f).AsksOr past P := by
  induction hp with
  | done a => exact hf a
  | fail e => exact .fail e
  | call holds _ ih => exact .call holds ih
  | sleep millis _ ih => exact .sleep millis ih
  | overflow h => exact .overflow h

theorem attempt (hp : p.AsksOr past P) : p.attempt.AsksOr past P := by
  induction hp with
  | done a => exact .done _
  | fail e => exact .done _
  | call holds _ ih => exact .call holds ih
  | sleep millis _ ih => exact .sleep millis ih
  | overflow h => exact .overflow h

theorem mono {Q : Call → Prop} (hp : p.AsksOr past P) (h : ∀ c, P c → Q c) :
    p.AsksOr past Q := by
  induction hp with
  | done a => exact .done a
  | fail e => exact .fail e
  | call holds _ ih => exact .call (h _ holds) ih
  | sleep millis _ ih => exact .sleep millis ih
  | overflow ho => exact .overflow ho

theorem asks (hp : p.AsksOr past P) (hpast : ¬ past) : p.Asks P := by
  induction hp with
  | done a => exact .done a
  | fail e => exact .fail e
  | call holds _ ih => exact .call holds ih
  | sleep millis _ ih => exact .sleep millis ih
  | overflow h => exact absurd h hpast

theorem through {Call' : Type} {Reply' : Call' → Type} {Q : Call' → Prop}
    {carryOut : (c : Call) → Plan Call' Reply' (Reply c)} (hp : p.Asks P)
    (h : ∀ c, P c → (carryOut c).AsksOr past Q) : (p.through carryOut).AsksOr past Q := by
  induction hp with
  | done a => exact .done a
  | fail e => exact .fail e
  | call holds _ ih => exact (h _ holds).bind ih
  | sleep millis _ ih => exact .sleep millis ih
  | overflow ho => exact ho.elim

end AsksOr

/-- A run against any peer is a conversation where no counter overflows. -/
theorem Asks.conversation_run {P : Call → Prop} {p : Plan Call Reply α} (hp : p.Asks P)
    (answer : (c : Call) → Nat → σ → Reply c × σ) (now : Nat) (s : σ) :
    Conversation p (p.events answer now s) (p.run answer now s).1 := by
  induction hp generalizing now s with
  | done a => exact .done a
  | fail e => exact .fail e
  | call _ _ ih => exact .call _ _ (ih _ now _)
  | sleep millis _ ih => exact .sleep millis (ih (now + millis) s)
  | overflow h => exact h.elim

theorem Conversation.asked {past : Prop} {P : Call → Prop} {p : Plan Call Reply α}
    {talk : List (Event Call Reply)} {outcome : Except Failure α}
    (h : Conversation p talk outcome) (hp : p.AsksOr past P) : ∀ c ∈ asked talk, P c := by
  induction h with
  | done a => simp [Plan.asked]
  | fail e => simp [Plan.asked]
  | call c r rest ih =>
    cases hp with
    | call holds hrest =>
      intro c' hc
      simp only [Plan.asked, List.filterMap_cons, Event.call?, List.mem_cons] at hc
      rcases hc with rfl | hc
      · exact holds
      · exact ih (hrest r) c' hc
  | sleep millis rest ih =>
    cases hp with
    | sleep _ hrest => exact ih hrest

end KeyspaceLink.Plan

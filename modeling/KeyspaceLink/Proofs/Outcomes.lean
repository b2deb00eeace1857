import KeyspaceLink.Proofs.Conversation
import KeyspaceLink.Proofs.Reading
import KeyspaceLink.Session.Execute

/-! The outcomes of executions: whatever text is executed and whatever the cluster answers,
the rows that come back fit the columns they come with. -/

namespace KeyspaceLink

namespace Plan

variable {Call : Type} {Reply : Call → Type} {α β : Type}

/-- Holds if every value the plan can end with has the property. -/
inductive Yields (P : α → Prop) : Plan Call Reply α → Prop where
  | done {a : α} (holds : P a) : Yields P (.done a)
  | fail (e : Failure) : Yields P (.fail e)
  | call (c : Call) {next : Reply c → Plan Call Reply α} (rest : ∀ r, Yields P (next r)) :
      Yields P (.call c next)
  | sleep (millis : Nat) {next : Plan Call Reply α} (rest : Yields P next) :
      Yields P (.sleep millis next)
  | overflow : Yields P .overflow

theorem Yields.bind {Q : α → Prop} {P : β → Prop} {p : Plan Call Reply α}
    {f : α → Plan Call Reply β} (hp : p.Yields Q) (hf : ∀ a, Q a → (f a).Yields P) :
    (p.bind f).Yields P := by
  induction hp with
  | done holds => exact hf _ holds
  | fail e => exact .fail e
  | call c _ ih => exact .call c ih
  | sleep millis _ ih => exact .sleep millis ih
  | overflow => exact .overflow

/-- What a plan ends with, its last part ends with. -/
theorem Yields.last {P : β → Prop} (p : Plan Call Reply α) {f : α → Plan Call Reply β}
    (hf : ∀ a, (f a).Yields P) : (p.bind f).Yields P := by
  induction p with
  | done a => exact hf a
  | fail e => exact .fail e
  | call c next ih => exact .call c ih
  | sleep millis next ih => exact .sleep millis ih
  | overflow => exact .overflow

/-- What follows a plan matters only on the values the plan can end with. -/
theorem Yields.bind_congr {P : α → Prop} {p : Plan Call Reply α} {f g : α → Plan Call Reply β}
    (hp : p.Yields P) (h : ∀ a, P a → f a = g a) : p.bind f = p.bind g := by
  induction hp with
  | done holds => exact h _ holds
  | fail e => rfl
  | call c _ ih => simp only [Plan.bind, ih]
  | sleep millis _ ih => simp only [Plan.bind, ih]
  | overflow => rfl

theorem Conversation.yields {P : α → Prop} {p : Plan Call Reply α}
    {talk : List (Event Call Reply)} {a : α} (h : Conversation p talk (.ok a)) (hp : p.Yields P) :
    P a := by
  induction p generalizing talk with
  | done b =>
    obtain ⟨-, he⟩ := conversation_done_iff.mp h
    cases he
    cases hp with
    | done holds => exact holds
  | fail e => cases (conversation_fail_iff.mp h).2
  | call c next ih =>
    obtain ⟨r, rest, -, hr⟩ := conversation_call_iff.mp h
    cases hp with
    | call _ hrest => exact ih r hr (hrest r)
  | sleep millis next ih =>
    obtain ⟨rest, -, hr⟩ := conversation_sleep_iff.mp h
    cases hp with
    | sleep _ hrest => exact ih hr hrest
  | overflow => cases h

end Plan

open Plan

/-- The rows of an outcome, if it has any, fit its columns. -/
def Outcome.Fits (o : Outcome) : Prop := ∀ c, o.cursor? = some c → c.Fits

theorem Outcome.fits_of_cursor {c : Cursor} (h : c.Fits) : (Outcome.rows c).Fits := by
  intro c' hc
  cases hc
  exact h

theorem Outcome.fits_of_none {o : Outcome} (h : o.cursor? = none) : o.Fits := by
  intro c hc
  rw [h] at hc
  cases hc

theorem fits_resultRows (values : List Json) : (resultRows values).Fits :=
  Outcome.fits_of_cursor (Cursor.fits_of_values _ _ values)

theorem CreateBucket.yields_execute (c : CreateBucket) : c.execute.Yields Outcome.Fits := by
  have hdone : (.done .done : ClusterPlan Outcome).Yields Outcome.Fits :=
    .done (Outcome.fits_of_none rfl)
  unfold execute
  split
  · exact .fail _
  · refine .last _ fun settings => .last _ fun _ => ?_
    split
    · exact .last _ fun _ => .last _ fun _ => hdone
    · split
      · exact .last _ fun _ => hdone
      · exact hdone

theorem DropBucket.yields_execute (c : DropBucket) : c.execute.Yields Outcome.Fits := by
  have hdone : (.done .done : ClusterPlan Outcome).Yields Outcome.Fits :=
    .done (Outcome.fits_of_none rfl)
  unfold execute
  split
  · exact .fail _
  · refine .last _ fun indexed => ?_
    extract_lets remove
    have hremove : ∀ r, (remove r).Yields Outcome.Fits := by
      refine fun _ => .last _ fun reply => ?_
      split
      · exact hdone
      · exact .last _ fun _ => .last _ fun _ => hdone
    split
    · exact hremove ()
    · split
      · exact hremove ()
      · exact .fail _

theorem DescribeBucket.yields_execute (s : Session) (c : DescribeBucket) :
    (c.execute s).Yields Outcome.Fits := by
  unfold execute
  split
  · refine .last _ fun reply => ?_
    split
    · exact .fail _
    · exact .last _ fun _ => .last _ fun v => .last _ fun settings => .done (fits_resultRows _)
  · exact .last _ fun columns => .done (fits_resultRows _)

theorem yields_describeIndexes : describeIndexes.Yields Outcome.Fits :=
  .last _ fun _ => .done (fits_resultRows _)

theorem GetKeys.yields_execute (c : GetKeys) : c.execute.Yields Outcome.Fits := by
  unfold execute
  split
  · exact .fail _
  · refine .last _ fun reply => ?_
    split
    · exact .fail _
    · split
      · exact .fail _
      · refine .last _ fun body => ?_
        split
        · exact .done (Outcome.fits_of_cursor (Cursor.fits_of_values _ _ _))
        · exact .fail _

theorem Command.yields_execute (s : Session) (c : Command) :
    (c.execute s).Yields Outcome.Fits := by
  cases c with
  | createBucket c => exact c.yields_execute
  | dropBucket c => exact c.yields_execute
  | describeBucket c => exact c.yields_execute s
  | describeIndexes => exact yields_describeIndexes
  | getKeys c => exact c.yields_execute

namespace Session

variable (s : Session)

theorem yields_executeNative (sql : String) (readOnly : Bool) :
    (s.executeNative sql readOnly).Yields Outcome.Fits := by
  refine .last _ fun reply => ?_
  split
  · exact .done (Outcome.fits_of_none rfl)
  · split <;> exact .done (Outcome.fits_of_cursor (Cursor.fits_of_values _ _ _))

theorem yields_interpret (kind : CommandKind) (sql : String) :
    (s.interpret kind sql).Yields Outcome.Fits := by
  refine .last _ fun _ => .last _ fun found => ?_
  split
  · next c => exact c.yields_execute s
  · exact .done (Outcome.fits_of_none rfl)

theorem yields_tryKinds (sql : String) (readOnly : Bool) (kinds : List CommandKind) :
    (s.tryKinds sql readOnly kinds).Yields Outcome.Fits := by
  induction kinds with
  | nil => exact .done (Outcome.fits_of_none rfl)
  | cons kind rest ih =>
    refine .last _ fun claimed => ?_
    split
    · exact ih
    · split
      · exact .fail _
      · exact s.yields_interpret kind sql

theorem yields_execute (sql : String) (readOnly : Bool) :
    (s.execute sql readOnly).Yields Outcome.Fits := by
  simp only [execute, bind_eq]
  refine (s.yields_tryKinds _ readOnly _).bind fun outcome houtcome => ?_
  split
  · exact s.yields_executeNative _ readOnly
  · exact .done houtcome

end Session

end KeyspaceLink

import KeyspaceLink.Failure

/-! Plans: what to ask a peer, what to do with each answer, and when to wait. A plan is
a tree; it asks nothing by itself, and it ends whatever the peer answers. Calls take no time:
an answer that comes after a deadline for which the plan waits is not described here. -/

namespace KeyspaceLink

inductive Plan (Call : Type) (Reply : Call → Type) (α : Type) where
  | done (value : α)
  | fail (failure : Failure)
  | call (c : Call) (next : Reply c → Plan Call Reply α)
  | sleep (millis : Nat) (next : Plan Call Reply α)
  /-- A counter is stepped past the largest number of its word. A build that checks stops here
  and one that does not counts on from zero, so nothing is said of what follows. -/
  | overflow

namespace Plan

variable {Call : Type} {Reply : Call → Type} {α β γ σ : Type}

def bind : Plan Call Reply α → (α → Plan Call Reply β) → Plan Call Reply β
  | done a, f => f a
  | fail e, _ => fail e
  | call c next, f => call c fun r => (next r).bind f
  | sleep millis next, f => sleep millis (next.bind f)
  | overflow, _ => overflow

instance : Monad (Plan Call Reply) where
  pure := done
  bind := bind

/-- The plan that makes one call. -/
def ask (c : Call) : Plan Call Reply (Reply c) := call c done

def ofExcept : Except Failure α → Plan Call Reply α
  | .ok a => done a
  | .error e => fail e

/-- The plan whose failures are answers. -/
def attempt : Plan Call Reply α → Plan Call Reply (Except Failure α)
  | done a => done (.ok a)
  | fail e => done (.error e)
  | call c next => call c fun r => (next r).attempt
  | sleep millis next => sleep millis next.attempt
  | overflow => overflow

/-- The plan with each call carried out by a plan of other calls. -/
def through {Call' : Type} {Reply' : Call' → Type}
    (carryOut : (c : Call) → Plan Call' Reply' (Reply c)) :
    Plan Call Reply α → Plan Call' Reply' α
  | done a => done a
  | fail e => fail e
  | call c next => (carryOut c).bind fun r => (next r).through carryOut
  | sleep millis next => sleep millis (next.through carryOut)
  | overflow => overflow

/-- What is told where a counter overflows and the build checks. -/
def overflowed : Failure := .invalidState "attempt to add with overflow"

/-- Carries a plan out against a peer with a state of its own; `now` is the time in
milliseconds, which passes only in sleep. -/
def run (answer : (c : Call) → Nat → σ → Reply c × σ) :
    Plan Call Reply α → Nat → σ → Except Failure α × Nat × σ
  | done a, now, s => (.ok a, now, s)
  | fail e, now, s => (.error e, now, s)
  | call c next, now, s =>
    match answer c now s with
    | (r, s') => (next r).run answer now s'
  | sleep millis next, now, s => next.run answer (now + millis) s
  | overflow, now, s => (.error overflowed, now, s)

theorem bind_done (p : Plan Call Reply α) : p.bind done = p := by
  induction p with
  | done => rfl
  | fail => rfl
  | call c next ih => simp only [bind, ih]
  | sleep millis next ih => simp only [bind, ih]
  | overflow => rfl

theorem bind_assoc (p : Plan Call Reply α) (f : α → Plan Call Reply β)
    (g : β → Plan Call Reply γ) : (p.bind f).bind g = p.bind fun a => (f a).bind g := by
  induction p with
  | done => rfl
  | fail => rfl
  | call c next ih => simp only [bind, ih]
  | sleep millis next ih => simp only [bind, ih]
  | overflow => rfl

theorem through_bind {Call' : Type} {Reply' : Call' → Type}
    (carryOut : (c : Call) → Plan Call' Reply' (Reply c)) (p : Plan Call Reply α)
    (f : α → Plan Call Reply β) :
    (p.bind f).through carryOut =
      (p.through carryOut).bind fun a => (f a).through carryOut := by
  induction p with
  | done => rfl
  | fail => rfl
  | call c next ih => simp only [bind, through, ih, bind_assoc]
  | sleep millis next ih => simp only [bind, through, ih]
  | overflow => rfl

instance : LawfulMonad (Plan Call Reply) :=
  LawfulMonad.mk' _ bind_done (fun _ _ => rfl) bind_assoc

end Plan

end KeyspaceLink

namespace LinkedKeys

-- One call, and what is done next for each answer to it. Who answers is left open.
inductive Script (Call : Type) (Answer : Call → Type) (α : Type) where
  | done (result : α)
  | ask (call : Call) (next : Answer call → Script Call Answer α)

namespace Script

variable {C D : Type} {A : C → Type} {B : D → Type} {α β σ : Type}

def bind : Script C A α → (α → Script C A β) → Script C A β
  | done a, f => f a
  | ask c next, f => ask c fun answer => (next answer).bind f

instance : Monad (Script C A) where
  pure := done
  bind := bind

-- A single call, answered by what it gets.
def one (c : C) : Script C A (A c) := ask c done

-- Each call is carried out by a script of calls of another kind.
def through (answer : (c : C) → Script D B (A c)) : Script C A α → Script D B α
  | done a => done a
  | ask c next => (answer c).bind fun reply => (next reply).through answer

-- A machine answers each call and moves to its next state.
def run (answer : (c : C) → σ → A c × σ) : Script C A α → σ → α × σ
  | done a, s => (a, s)
  | ask c next, s => (next (answer c s).1).run answer (answer c s).2

theorem run_bind (answer : (c : C) → σ → A c × σ) (script : Script C A α) (f : α → Script C A β)
    (s : σ) : (script.bind f).run answer s =
      (f (script.run answer s).1).run answer (script.run answer s).2 := by
  induction script generalizing s with
  | done => rfl
  | ask c next ih => exact ih _ _

-- What every answer keeps or moves forward, a whole run keeps or moves forward.
theorem run_related (rel : σ → σ → Prop) (reflexive : ∀ s, rel s s)
    (transitive : ∀ {s t u}, rel s t → rel t u → rel s u) (answer : (c : C) → σ → A c × σ)
    (step : ∀ c s, rel s (answer c s).2) (script : Script C A α) (s : σ) :
    rel s (script.run answer s).2 := by
  induction script generalizing s with
  | done => exact reflexive s
  | ask c next ih => exact transitive (step c s) (ih _ _)

end Script

end LinkedKeys

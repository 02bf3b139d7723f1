import LinkedKeys.Script

namespace LinkedKeys.Script

variable {C D : Type} {A : C → Type} {B : D → Type} {α β σ τ ε : Type}
  {answer : (c : C) → σ → A c × σ} {s : σ}

theorem run_do (script : Script C A α) (f : α → Script C A β) :
    (script >>= f).run answer s = (f (script.run answer s).1).run answer (script.run answer s).2 :=
  run_bind answer script f s

-- A machine that answers calls of the one kind answers those of the other by running their scripts.
theorem run_through (carry : (d : D) → Script C A (B d)) (script : Script D B α) (s : σ) :
    (script.through carry).run answer s = script.run (fun d => (carry d).run answer) s := by
  induction script generalizing s with
  | done a => rfl
  | ask d next ih =>
      rw [through, run_bind, ih]
      rfl

-- A machine that answers from a part of its state, and moves no other part. How it answers may
-- depend on what it does not move.
theorem run_part (machine : (c : C) → τ → A c × τ) (answer : τ → (c : C) → σ → A c × σ)
    (part : τ → σ) (put : σ → τ → τ) (part_put : ∀ s t, part (put s t) = s)
    (put_put : ∀ s s' t, put s' (put s t) = put s' t) (put_part : ∀ t, put (part t) t = t)
    (answer_put : ∀ s t, answer (put s t) = answer t)
    (step : ∀ c t, machine c t = ((answer t c (part t)).1, put (answer t c (part t)).2 t))
    (script : Script C A α) (t : τ) :
    script.run machine t =
      ((script.run (answer t) (part t)).1, put (script.run (answer t) (part t)).2 t) := by
  induction script generalizing t with
  | done a => simp [run, put_part]
  | ask c next ih => simp only [run, step, ih, part_put, put_put, answer_put]

@[simp] theorem run_pure (a : α) :
    (pure a : ExceptT ε (Script C A) α).run.run answer s = (.ok a, s) := rfl

theorem run_then (attempt : ExceptT ε (Script C A) α) (f : α → ExceptT ε (Script C A) β) :
    (attempt >>= f).run.run answer s =
      match attempt.run.run answer s with
      | (.ok a, t) => (f a).run.run answer t
      | (.error failure, t) => (.error failure, t) := by
  rw [ExceptT.run_bind, run_do]
  rcases attempt.run.run answer s with ⟨result, t⟩
  cases result <;> rfl

theorem run_then_ok {attempt : ExceptT ε (Script C A) α} {f : α → ExceptT ε (Script C A) β} {b : β}
    {t : σ} (ran : (attempt >>= f).run.run answer s = (.ok b, t)) :
    ∃ a m, attempt.run.run answer s = (.ok a, m) ∧ (f a).run.run answer m = (.ok b, t) := by
  rw [run_then] at ran
  generalize attempt.run.run answer s = ended at ran ⊢
  obtain ⟨result, m⟩ := ended
  cases result with
  | error failure => cases ran
  | ok a => exact ⟨a, m, rfl, ran⟩

theorem run_catch (attempt : ExceptT ε (Script C A) α) (f : ε → ExceptT ε (Script C A) α) :
    (tryCatch attempt f).run.run answer s =
      match attempt.run.run answer s with
      | (.ok a, t) => (.ok a, t)
      | (.error failure, t) => (f failure).run.run answer t := by
  change ((attempt.run : Script C A (Except ε α)).bind _).run answer s = _
  rw [run_bind]
  rcases attempt.run.run answer s with ⟨result, t⟩
  cases result <;> rfl

@[simp] theorem run_lift (script : Script C A α) :
    (ExceptT.lift script : ExceptT ε (Script C A) α).run.run answer s =
      (.ok (script.run answer s).1, (script.run answer s).2) := by
  change ((script >>= fun a => pure (Except.ok a)) : Script C A (Except ε α)).run answer s = _
  rw [run_do]
  rfl

end LinkedKeys.Script

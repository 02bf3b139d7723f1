import LinkedKeys.Proofs.Course

namespace LinkedKeys

section

variable {α β : Type} {a b : α} {past : List (α ⊕ α)}

def lefts (past : List (α ⊕ α)) : List α := past.filterMap Sum.getLeft?

def rights (past : List (α ⊕ α)) : List α := past.filterMap Sum.getRight?

-- Everything that happened, no matter on which side.
def both (past : List (α ⊕ α)) : List α := past.map (Sum.elim id id)

-- What `f` makes of everything that happened, each on its side.
def sift (f : α → Option β) (past : List (α ⊕ α)) : List (β ⊕ β) :=
  past.filterMap (Sum.elim (fun a => (f a).map .inl) fun a => (f a).map .inr)

@[simp] theorem lefts_inl (a : α) (rest : List (α ⊕ α)) : lefts (.inl a :: rest) = a :: lefts rest := rfl

@[simp] theorem lefts_inr (a : α) (rest : List (α ⊕ α)) : lefts (.inr a :: rest) = lefts rest := rfl

@[simp] theorem rights_inl (a : α) (rest : List (α ⊕ α)) : rights (.inl a :: rest) = rights rest := rfl

@[simp] theorem rights_inr (a : α) (rest : List (α ⊕ α)) : rights (.inr a :: rest) = a :: rights rest := rfl

@[simp] theorem both_nil : both ([] : List (α ⊕ α)) = [] := rfl

@[simp] theorem both_inl (a : α) (rest : List (α ⊕ α)) : both (.inl a :: rest) = a :: both rest := rfl

@[simp] theorem both_inr (a : α) (rest : List (α ⊕ α)) : both (.inr a :: rest) = a :: both rest := rfl

theorem lefts_sift (f : α → Option β) (past : List (α ⊕ α)) :
    lefts (sift f past) = (lefts past).filterMap f := by
  induction past with
  | nil => rfl
  | cons made rest ih =>
      cases made with
      | inl a => cases kept : f a <;> simpa [sift, kept] using ih
      | inr a => cases kept : f a <;> simpa [sift, kept] using ih

theorem rights_sift (f : α → Option β) (past : List (α ⊕ α)) :
    rights (sift f past) = (rights past).filterMap f := by
  induction past with
  | nil => rfl
  | cons made rest ih =>
      cases made with
      | inl a => cases kept : f a <;> simpa [sift, kept] using ih
      | inr a => cases kept : f a <;> simpa [sift, kept] using ih

theorem both_sift (f : α → Option β) (past : List (α ⊕ α)) :
    both (sift f past) = (both past).filterMap f := by
  induction past with
  | nil => rfl
  | cons made rest ih =>
      cases made with
      | inl a => cases kept : f a <;> simpa [sift, kept] using ih
      | inr a => cases kept : f a <;> simpa [sift, kept] using ih

theorem eq_inr_of_lefts (none : lefts past = []) : past = (rights past).map .inr := by
  induction past with
  | nil => rfl
  | cons made rest ih =>
      cases made with
      | inl a => cases none
      | inr a => exact congrArg (.inr a :: ·) (ih none)

theorem eq_inl_of_rights (none : rights past = []) : past = (lefts past).map .inl := by
  induction past with
  | nil => rfl
  | cons made rest ih =>
      cases made with
      | inl a => exact congrArg (.inl a :: ·) (ih none)
      | inr a => cases none

-- What happened once on each side happened in one of two orders.
theorem one_each (one : lefts past = [a]) (other : rights past = [b]) :
    past = [.inl a, .inr b] ∨ past = [.inr b, .inl a] := by
  cases past with
  | nil => cases one
  | cons made rest =>
      cases made with
      | inl made =>
          obtain ⟨rfl, none⟩ := List.cons.inj one
          left
          rw [eq_inr_of_lefts none, ← rights_inl made rest, other]
          rfl
      | inr made =>
          obtain ⟨rfl, none⟩ := List.cons.inj other
          right
          rw [eq_inl_of_rights none, ← lefts_inr made rest, one]
          rfl

end

namespace Script

variable {C : Type} {A : C → Type} {α β σ : Type}
  {serves serves' : (c : C) → σ → A c → σ → Prop}

-- The exchanges made so far are kept in their order, each on the side of the script that made it.
inductive Beside (serves serves' : (c : C) → σ → A c → σ → Prop) :
    Script C A α → Script C A β → σ → List (Exchange C A ⊕ Exchange C A) →
      Script C A α → Script C A β → σ → Prop where
  | here {one other s} : Beside serves serves' one other s [] one other s
  | left {c s answer m next other past one' other' t} (served : serves c s answer m)
      (later : Beside serves serves' (next answer) other m past one' other' t) :
      Beside serves serves' (.ask c next) other s (.inl ⟨c, answer⟩ :: past) one' other' t
  | right {c s answer m next one past one' other' t} (served : serves' c s answer m)
      (later : Beside serves serves' one (next answer) m past one' other' t) :
      Beside serves serves' one (.ask c next) s (.inr ⟨c, answer⟩ :: past) one' other' t

variable {one one' : Script C A α} {other other' : Script C A β} {s t : σ}
  {past : List (Exchange C A ⊕ Exchange C A)}

-- A script that is at its end leaves the other one alone.
theorem beside_done {b : β} (course : Beside serves serves' one (.done b) s past one' other' t) :
    other' = .done b ∧ Leads serves one s (lefts past) one' t := by
  generalize ended : (Script.done b : Script C A β) = other at course
  induction course with
  | here => subst ended; exact ⟨rfl, .here⟩
  | left served later ih =>
      obtain ⟨same, course⟩ := ih ended
      exact ⟨same, .ask served course⟩
  | right served later ih => cases ended

-- Where a call of the second script falls: the first has come some way before it, and goes on
-- after it from what the call left.
theorem beside_ask {c : C} {next : A c → Script C A β} {b : β}
    (course : Beside serves serves' one (.ask c next) s past one' (.done b) t) :
    ∃ front mid m answer n back, Leads serves one s front mid m ∧ serves' c m answer n ∧
      Beside serves serves' mid (next answer) n back one' (.done b) t := by
  generalize asked : Script.ask c next = other at course
  generalize ended : (Script.done b : Script C A β) = other' at course
  induction course with
  | here => subst ended; cases asked
  | left served later ih =>
      obtain ⟨front, mid, m, answer, n, back, before, met, after⟩ := ih asked ended
      exact ⟨_, mid, m, answer, n, back, .ask served before, met, after⟩
  | right served later ih =>
      cases asked
      cases ended
      exact ⟨[], _, _, _, _, _, .here, served, later⟩

-- To each script the other one is part of the surroundings: seen from it alone, the call was
-- answered by something.
theorem beside_left (course : Beside serves serves' one other s past one' other' t) :
    Leads (fun c (_ : Unit) answer _ => ∃ m n, serves c m answer n) one () (lefts past) one' () := by
  induction course with
  | here => exact .here
  | left served later ih => exact .ask ⟨_, _, served⟩ ih
  | right served later ih => exact ih

theorem beside_right (course : Beside serves serves' one other s past one' other' t) :
    Leads (fun c (_ : Unit) answer _ => ∃ m n, serves' c m answer n) other () (rights past) other' () := by
  induction course with
  | here => exact .here
  | left served later ih => exact ih
  | right served later ih => exact .ask ⟨_, _, served⟩ ih

end Script

end LinkedKeys

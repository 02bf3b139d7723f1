import LinkedKeys.Control.Handle
import LinkedKeys.Proofs.Store.Serving

namespace LinkedKeys

open Store Script

namespace Account

-- The account that the parameters stand for.
def held (p : Params) : Option Account := ofParts (p.read keysKey) (p.read usernameKey)

@[simp] theorem usernameKey_ne : usernameKey ≠ keysKey := by decide

@[simp] theorem keysKey_ne : keysKey ≠ usernameKey := by decide

theorem held_eq_some {p : Params} {account : Account} :
    held p = some account ↔ account = ⟨p.read usernameKey, p.read keysKey⟩ ∧
      account.username ≠ "" ∧ account.keys ≠ "" := by
  unfold held ofParts
  split
  · rename_i half
    constructor
    · intro none; cases none
    · rintro ⟨rfl, named, keyed⟩; exact absurd half (by simp [named, keyed])
  · rename_i whole
    simp only [not_or] at whole
    constructor
    · intro same; cases same; exact ⟨rfl, whole.2, whole.1⟩
    · rintro ⟨rfl, _⟩; rfl

end Account

namespace Control

open Account

variable {refusable : Store.Call → Prop} {past : Past} {p q : Params}

-- No fetch is awaited in a state that was read off the parameters.
theorem ofAccount_idle (account : Option Account) (username : String) :
    State.ofAccount account ≠ .loading username := by
  cases account <;> simp [State.ofAccount]

-- Reading the state again ends after an answered read of both parameters, or with the read that
-- was refused.
inductive ReadBack (refusable : Store.Call → Prop) (p : Params) : Past → Except Failure State → Prop where
  | answered (front : Past) : ReadBack refusable p
      (front ++ [⟨.get usernameKey, .ok (p.read usernameKey)⟩]) (.ok (State.ofAccount (held p)))
  | refused (front : Past) {key : String} (may : refusable (.get key)) (failure : Failure) :
      ReadBack refusable p (front ++ [⟨.get key, .error failure⟩]) (.error failure)

-- Reading the state writes nothing, whoever answers it.
theorem current_writes {σ : Type} {serves : (c : Store.Call) → σ → c.Answer → σ → Prop} {s : σ} :
    current.run.Throughout serves (fun now _ => writes now = writes past)
      (fun _ now _ => writes now = writes past) past s := by
  simp only [current, Account.stored, throughout_then, throughout_pure]
  refine ⟨rfl, fun answer t _ => ?_⟩
  cases answer with
  | error failure => simp [Throughout]
  | ok keys =>
      refine ⟨by simp, fun answer t _ => ?_⟩
      cases answer with
      | error failure => simp [Throughout]
      | ok username => simp [Throughout]

theorem current_ends :
    current.run.Throughout (Served refusable) (fun _ _ => True)
      (fun result now q => ReadBack refusable q now result) past p := by
  simp only [current, Account.stored, throughout_then, throughout_get, throughout_pure, true_and]
  exact ⟨⟨.answered _, .refused _⟩, .refused _⟩

theorem prefix_pair {α : Type} {first second : α} {part : List α} :
    part <+: [first, second] ↔ part = [] ∨ part = [first] ∨ part = [first, second] := by
  constructor
  · intro less
    simp only [List.prefix_cons_iff, List.prefix_nil] at less
    rcases less with rfl | ⟨_, rfl, rfl | ⟨_, rfl, rfl⟩⟩ <;> simp
  · rintro (rfl | rfl | rfl) <;> simp

def unlinking : List Store.Call := [.remove keysKey, .remove usernameKey]

theorem unlink_writes :
    unlink.run.Throughout (Served refusable) (fun now _ => writes now <+: unlinking)
      (fun _ now _ => writes now <+: unlinking) [] p := by
  simp only [unlink, throughout_then, throughout_remove, throughout_pure]
  refine ⟨by simp, ⟨by simp [unlinking], ?_, by simp [unlinking]⟩, by simp⟩
  refine current_writes.mono ?_ ?_
  · intro past p same; simp [same, unlinking]
  · intro result past p same; cases result <;> simp [same, unlinking]

-- An unlinking that failed may still have made both writes, but only where reading back fails.
theorem unlink_ends :
    unlink.run.Throughout (Served refusable) (fun _ _ => True)
      (fun result now q => match result with
        | .ok (effects, next) => effects = [.render] ∧ next = State.ofAccount (held q) ∧
            writes now = unlinking
        | .error _ => writes now = unlinking → ∃ key, refusable (.get key)) [] p := by
  simp only [unlink, throughout_then, throughout_remove, throughout_pure]
  refine ⟨trivial, ⟨trivial, ?_, by simp [unlinking]⟩, by simp [unlinking]⟩
  refine (current_writes.and current_ends).mono_end ?_
  intro result past p both
  obtain ⟨same, ended⟩ := both
  cases ended with
  | answered => exact ⟨trivial, rfl, same⟩
  | refused front may failure => exact fun _ => ⟨_, may⟩

def linking (username keys : String) : List Store.Call :=
  [.put usernameKey username, .put keysKey keys]

-- The write that takes a username back for the one before it.
def undo (previous : String) : Store.Call :=
  if previous = "" then .remove usernameKey else .put usernameKey previous

theorem restore_writes {previous : String} {during : Past → Params → Prop}
    {after : Except Failure Unit → Past → Params → Prop} (before : during past p)
    (ending : ∀ result now q, writes now = writes past ∨ writes now = writes past ++ [undo previous] →
      after result now q) :
    (restore previous).run.Throughout (Served refusable) during after past p := by
  unfold restore
  unfold undo at ending
  split
  · rename_i absent
    refine throughout_remove.mpr ⟨before, ending _ _ _ (.inr (by simp [absent])), fun _ _ => ?_⟩
    exact ending _ _ _ (.inl (by simp))
  · rename_i present
    refine throughout_put.mpr ⟨before, ending _ _ _ (.inr (by simp [present])), fun _ _ => ?_⟩
    exact ending _ _ _ (.inl (by simp))

-- What the writes of a linking can be at any point: up to both of them, or the first of them and
-- the one that takes it back.
def Linking (previous username keys : String) (calls : List Store.Call) : Prop :=
  calls <+: linking username keys ∨ calls = [.put usernameKey username, undo previous]

theorem persist_writes (username keys : String) :
    (persist username keys).run.Throughout (Served refusable)
      (fun now _ => Linking (p.read usernameKey) username keys (writes now))
      (fun _ now _ => Linking (p.read usernameKey) username keys (writes now)) [] p := by
  simp only [persist, throughout_then, throughout_get, throughout_put, throughout_catch,
    throughout_pure, throughout_throw]
  refine ⟨.inl (by simp), ⟨.inl (by simp), ⟨.inl (by simp [linking]), .inl (by simp [linking]), ?_⟩,
    fun _ _ => .inl (by simp)⟩, fun _ _ => .inl (by simp)⟩
  intro may failure
  refine restore_writes (.inl (by simp [linking])) ?_
  rintro result now q (kept | undone)
  · have once : Linking (p.read usernameKey) username keys (writes now) := .inl (by simp [kept, linking])
    cases result <;> exact once
  · have twice : Linking (p.read usernameKey) username keys (writes now) := .inr (by simp [undone])
    cases result <;> exact twice

-- A finished fetch writes nothing unless it brought keys.
def Concluding (previous username : String) (outcome : Outcome) (calls : List Store.Call) : Prop :=
  calls = [] ∨ ∃ keys, outcome = .fetched keys ∧ keys ≠ "" ∧ Linking previous username keys calls

theorem conclude_writes (username : String) (outcome : Outcome) :
    (conclude username outcome).run.Throughout (Served refusable)
      (fun now _ => Concluding (p.read usernameKey) username outcome (writes now))
      (fun _ now _ => Concluding (p.read usernameKey) username outcome (writes now)) [] p := by
  cases outcome with
  | fetched body =>
      by_cases empty : body = ""
      · simp only [conclude, empty, if_true, throughout_pure]
        exact .inl rfl
      · simp only [conclude, empty, if_false, throughout_then, throughout_pure]
        refine (persist_writes username body).mono ?_ ?_
        · exact fun past p kept => .inr ⟨body, rfl, empty, kept⟩
        · intro result past p kept
          cases result <;> exact .inr ⟨body, rfl, empty, kept⟩
  | timedOut => exact .inl rfl
  | notFound => exact .inl rfl
  | failed reason => exact .inl rfl

theorem handle_finished_writes (username : String) (outcome : Outcome) :
    (handle (.loading username) (.finished username outcome)).Throughout (Served refusable)
      (fun now _ => Concluding (p.read usernameKey) username outcome (writes now))
      (fun _ now _ => Concluding (p.read usernameKey) username outcome (writes now)) [] p := by
  simp only [handle, finish, if_true]
  refine throughout_do.mpr ((conclude_writes username outcome).mono (fun _ _ kept => kept) ?_)
  intro concluded past p kept
  refine throughout_do.mpr (current_writes.mono ?_ ?_)
  · intro now q same; rwa [same]
  · intro result now q same; cases result <;> · rw [← same] at kept; exact kept

theorem handle_finished_ends (username : String) (outcome : Outcome) :
    (handle (.loading username) (.finished username outcome)).Throughout (Served refusable)
      (fun _ _ => True)
      (fun turn now q => ∃ read, ReadBack refusable q now read ∧ match read with
        | .ok next => turn.state = next
        | .error failure => turn = ⟨.loading username, .error failure⟩) [] p := by
  simp only [handle, finish, if_true]
  refine throughout_do.mpr ((throughout_trivial _).mono_end ?_)
  intro concluded past p _
  refine throughout_do.mpr (current_ends.mono_end ?_)
  intro read now q ended
  cases read with
  | ok next => exact ⟨.ok next, ended, rfl⟩
  | error failure => exact ⟨.error failure, ended, rfl⟩

theorem handle_clicked_writes (username : String) :
    (handle (.linked username) .clicked).Throughout (Served refusable)
      (fun now _ => writes now <+: unlinking) (fun _ now _ => writes now <+: unlinking) [] p := by
  simp only [handle, click]
  refine throughout_do.mpr (unlink_writes.mono (fun _ _ kept => kept) ?_)
  intro result past p kept
  cases result <;> exact kept

theorem handle_clicked_ends (username : String) :
    (handle (.linked username) .clicked).Throughout (Served refusable) (fun _ _ => True)
      (fun turn now q =>
        turn.state = State.ofAccount (held q) ∧ writes now = unlinking ∨
        turn.state = .linked username ∧ (writes now = unlinking → ∃ key, refusable (.get key)))
      [] p := by
  simp only [handle, click]
  refine throughout_do.mpr (unlink_ends.mono_end ?_)
  intro result past p ended
  cases result with
  | ok both => exact .inl ⟨ended.2.1, ended.2.2⟩
  | error failure => exact .inr ⟨rfl, ended⟩

theorem valid_name {name : String} (valid : Username.isValid name = true) : name ≠ "" := by
  rintro rfl
  cases valid

-- A username is ignored, awaited or rejected.
theorem submit_cases (state : State) (text : String) :
    submit state text = ⟨state, .ok []⟩ ∨
    (state = .unlinked ∧ ∃ name, Username.isValid name = true ∧
      submit state text = ⟨.loading name, .ok [.render, .fetch name]⟩) ∨
    ∃ name, submit state text = ⟨state, .ok [.alert (.invalidUsername name), .render]⟩ := by
  simp only [submit]
  split
  · exact .inl rfl
  · rename_i asked
    split
    · rename_i valid
      exact .inr (.inl ⟨by simpa using fun other => asked (.inl other), _, valid, rfl⟩)
    · exact .inr (.inr ⟨_, rfl⟩)

-- Two events make store calls. No other does, and of those only a username moves the state.
theorem handle_cases (state : State) (event : Event) :
    (∃ username outcome, state = .loading username ∧ event = .finished username outcome) ∨
    (∃ username, state = .linked username ∧ event = .clicked) ∨
    ∃ turn, handle state event = .done turn ∧ (turn.state = state ∨
      state = .unlinked ∧ ∃ name, Username.isValid name = true ∧ turn.state = .loading name) := by
  cases event with
  | clicked =>
      cases state with
      | unlinked => exact .inr (.inr ⟨_, rfl, .inl rfl⟩)
      | loading username => exact .inr (.inr ⟨_, rfl, .inl rfl⟩)
      | linked username => exact .inr (.inl ⟨username, rfl, rfl⟩)
  | submitted text =>
      refine .inr (.inr ⟨_, rfl, ?_⟩)
      rcases submit_cases state text with same | ⟨unlinked, name, valid, same⟩ | ⟨name, same⟩
      · exact .inl (by rw [same])
      · exact .inr ⟨unlinked, name, valid, by rw [same]⟩
      · exact .inl (by rw [same])
  | dismissed => exact .inr (.inr ⟨_, rfl, .inl rfl⟩)
  | finished username outcome =>
      by_cases awaited : state = .loading username
      · exact .inl ⟨username, outcome, awaited, rfl⟩
      · refine .inr (.inr ⟨⟨state, .ok []⟩, ?_, .inl rfl⟩)
        simp only [handle, finish, awaited, if_false]
        rfl

-- The four pairs that a finished fetch can leave at any point: the one before it, once more the
-- one before it, the new username beside what was there, and the new pair.
theorem concluding_reads {username : String} {outcome : Outcome} {calls : List Store.Call}
    (kept : Concluding (p.read usernameKey) username outcome calls) :
    ((p.after calls).read usernameKey = p.read usernameKey ∧
      (p.after calls).read keysKey = p.read keysKey ∧ calls ≠ [.put usernameKey username]) ∨
    (calls = [.put usernameKey username] ∧ (p.after calls).read usernameKey = username ∧
      (p.after calls).read keysKey = p.read keysKey) ∨
    ∃ keys, outcome = .fetched keys ∧ keys ≠ "" ∧ calls = linking username keys ∧
      (p.after calls).read usernameKey = username ∧ (p.after calls).read keysKey = keys := by
  rcases kept with rfl | ⟨keys, rfl, present, written | rfl⟩
  · exact .inl ⟨rfl, rfl, by simp⟩
  · rcases prefix_pair.mp written with rfl | rfl | rfl
    · exact .inl ⟨rfl, rfl, by simp⟩
    · exact .inr (.inl ⟨rfl, by simp [Call.carry], by simp [Call.carry]⟩)
    · exact .inr (.inr ⟨keys, rfl, present, rfl, by simp [Call.carry], by simp [Call.carry]⟩)
  · left
    unfold undo
    split
    · rename_i absent; simp [Call.carry, absent]
    · simp [Call.carry]

-- Once an unlinking has begun there are no keys, and the username is there until it is through.
theorem unlinking_reads {calls : List Store.Call} (kept : calls <+: unlinking) :
    calls = [] ∨ (p.after calls).read keysKey = "" ∧
      (calls = [.remove keysKey] ∧ (p.after calls).read usernameKey = p.read usernameKey ∨
        calls = unlinking ∧ (p.after calls).read usernameKey = "") := by
  rcases prefix_pair.mp kept with rfl | rfl | rfl
  · exact .inl rfl
  · exact .inr ⟨by simp [Call.carry], .inl ⟨rfl, by simp [Call.carry]⟩⟩
  · exact .inr ⟨by simp [Call.carry], .inr ⟨rfl, by simp [Call.carry]⟩⟩

end Control

end LinkedKeys

import LinkedKeys.Proofs.Control.Fetches
import LinkedKeys.Proofs.Control.Naming

namespace LinkedKeys.Control

open Account Script

variable {σ : Type}

-- A service from when it is built, with the events it has taken and the states it took them in. It
-- may read its state again at any time, and its store may be changed by others between two events.
inductive Heard (serves : (c : Store.Call) → σ → c.Answer → σ → Prop) :
    List (State × Event) → State → σ → Prop where
  | built {s past state t} (course : Leads serves current.run s past (.done (.ok state)) t) :
      Heard serves [] state t
  | took {taken state s event past turn t} (before : Heard serves taken state s)
      (course : Leads serves (handle state event) s past (.done turn) t) :
      Heard serves ((state, event) :: taken) turn.state t
  | reread {taken state s past next t} (before : Heard serves taken state s)
      (course : Leads serves current.run s past (.done (.ok next)) t) : Heard serves taken next t
  | meanwhile {taken state s} (before : Heard serves taken state s) (t : σ) :
      Heard serves taken state t

variable {serves : (c : Store.Call) → σ → c.Answer → σ → Prop} {s t : σ} {past : Store.Past}
  {state : State} {event : Event} {taken : List (State × Event)} {name : String}

-- A username is put back: it was read before, and the keys of another could not be written.
def Restores (front : Store.Past) (name : String) : Prop :=
  ⟨.get usernameKey, .ok name⟩ ∈ front ∧ ∃ keys failure, ⟨.put keysKey keys, .error failure⟩ ∈ front

-- Of all usernames that are written, each is the awaited one or is put back.
def Entitled (state : State) (past : Store.Past) : Prop :=
  ∀ front name answer back, past = front ++ ⟨.put usernameKey name, answer⟩ :: back →
    state = .loading name ∨ Restores front name

theorem entitled_nil (state : State) : Entitled state [] := by
  intro front name answer back split
  simp at split

theorem entitled_snoc {c : Store.Call} (entitled : Entitled state past)
    (next : ∀ name, c = .put usernameKey name → state = .loading name ∨ Restores past name)
    (answer : c.Answer) : Entitled state (past ++ [⟨c, answer⟩]) := by
  intro front name given back split
  rcases List.eq_nil_or_concat back with rfl | ⟨rest, last, rfl⟩
  · obtain ⟨rfl, same⟩ := List.append_inj' split rfl
    cases same
    exact next name rfl
  · rw [List.concat_eq_append, ← List.cons_append, ← List.append_assoc] at split
    exact entitled front name given rest (List.append_inj' split rfl).1

theorem entitled_quiet {c : Store.Call} (entitled : Entitled state past)
    (quiet : ∀ name, c ≠ .put usernameKey name) (answer : c.Answer) :
    Entitled state (past ++ [⟨c, answer⟩]) :=
  entitled_snoc entitled (fun name same => absurd same (quiet name)) answer

theorem current_entitled (entitled : Entitled state past) :
    current.run.Throughout serves (fun now _ => Entitled state now)
      (fun _ now _ => Entitled state now) past s := by
  simp only [current, Account.stored, throughout_then, throughout_pure]
  refine ⟨entitled, fun answer t _ => ?_⟩
  have first : Entitled state (past ++ [⟨.get keysKey, answer⟩]) :=
    entitled_quiet entitled (by simp) answer
  cases answer with
  | error failure => exact first
  | ok keys =>
      refine ⟨first, fun answer t _ => ?_⟩
      have second : Entitled state (past ++ [⟨.get keysKey, .ok keys⟩] ++ [⟨.get usernameKey, answer⟩]) :=
        entitled_quiet first (by simp) answer
      cases answer <;> exact second

theorem current_unwritten : current.run.Throughout serves
    (fun now _ => ∀ name answer, ⟨.put usernameKey name, answer⟩ ∉ now)
    (fun _ now _ => ∀ name answer, ⟨.put usernameKey name, answer⟩ ∉ now) [] s := by
  simp only [current, Account.stored, throughout_then, throughout_pure]
  refine ⟨by simp, fun answer t _ => ?_⟩
  cases answer with
  | error failure => simp [Throughout]
  | ok keys =>
      refine ⟨by simp, fun answer t _ => ?_⟩
      cases answer <;> simp [Throughout]

theorem unlink_entitled (entitled : Entitled state past) :
    unlink.run.Throughout serves (fun now _ => Entitled state now)
      (fun _ now _ => Entitled state now) past s := by
  simp only [unlink, throughout_then, throughout_pure]
  refine ⟨entitled, fun answer t _ => ?_⟩
  have first : Entitled state (past ++ [⟨.remove keysKey, answer⟩]) :=
    entitled_quiet entitled (by simp) answer
  cases answer with
  | error failure => exact first
  | ok done =>
      refine ⟨first, fun answer t _ => ?_⟩
      have second : Entitled state
          (past ++ [⟨.remove keysKey, .ok done⟩] ++ [⟨.remove usernameKey, answer⟩]) :=
        entitled_quiet first (by simp) answer
      cases answer with
      | error failure => exact second
      | ok done =>
          refine (current_entitled second).mono (fun _ _ kept => kept) ?_
          intro result now t kept
          cases result <;> exact kept

theorem restore_entitled (entitled : Entitled state past) {previous : String}
    (restores : Restores past previous) :
    (restore previous).run.Throughout serves (fun now _ => Entitled state now)
      (fun _ now _ => Entitled state now) past s := by
  unfold restore
  split
  · exact ⟨entitled, fun answer t _ => entitled_quiet entitled (by simp) answer⟩
  · refine ⟨entitled, fun answer t _ => entitled_snoc entitled (fun other same => ?_) answer⟩
    cases same
    exact .inr restores

-- What was read of the username stands in front of the two writes, and a write of the keys that
-- failed in front of the one that puts the username back.
theorem persist_entitled (keys : String) :
    (persist name keys).run.Throughout serves (fun now _ => Entitled (.loading name) now)
      (fun _ now _ => Entitled (.loading name) now) [] s := by
  simp only [persist, throughout_then, throughout_catch, throughout_pure, throughout_throw]
  refine ⟨entitled_nil _, fun answer t _ => ?_⟩
  have read : Entitled (.loading name) ([] ++ [⟨.get usernameKey, answer⟩]) :=
    entitled_quiet (entitled_nil _) (by simp) answer
  cases answer with
  | error failure => exact read
  | ok previous =>
      refine ⟨read, fun answer t _ => ?_⟩
      have named : Entitled (.loading name)
          ([] ++ [⟨.get usernameKey, .ok previous⟩] ++ [⟨.put usernameKey name, answer⟩]) := by
        refine entitled_snoc read (fun other same => ?_) answer
        cases same
        exact .inl rfl
      cases answer with
      | error failure => exact named
      | ok done =>
          refine ⟨named, fun answer t _ => ?_⟩
          have keyed : Entitled (.loading name) ([] ++ [⟨.get usernameKey, .ok previous⟩] ++
              [⟨.put usernameKey name, .ok done⟩] ++ [⟨.put keysKey keys, answer⟩]) :=
            entitled_quiet named (by simp) answer
          cases answer with
          | ok done => exact keyed
          | error failure =>
              have restores : Restores ([] ++ [⟨.get usernameKey, .ok previous⟩] ++
                  [⟨.put usernameKey name, .ok done⟩] ++ [⟨.put keysKey keys, .error failure⟩])
                  previous := ⟨by simp, keys, failure, by simp⟩
              refine (restore_entitled keyed restores).mono (fun _ _ kept => kept) ?_
              intro result now t kept
              cases result <;> exact kept

theorem conclude_entitled (name : String) (outcome : Outcome) :
    (conclude name outcome).run.Throughout serves (fun now _ => Entitled (.loading name) now)
      (fun _ now _ => Entitled (.loading name) now) [] s := by
  cases outcome with
  | fetched body =>
      by_cases empty : body = ""
      · simp only [conclude, empty, if_true, throughout_pure]
        exact entitled_nil _
      · simp only [conclude, empty, if_false, throughout_then, throughout_pure]
        refine (persist_entitled body).mono (fun _ _ kept => kept) ?_
        intro result now t kept
        cases result <;> exact kept
  | timedOut => exact entitled_nil _
  | notFound => exact entitled_nil _
  | failed reason => exact entitled_nil _

theorem finish_entitled (name : String) (outcome : Outcome) :
    (finish (.loading name) name outcome).Throughout serves
      (fun now _ => Entitled (.loading name) now) (fun _ now _ => Entitled (.loading name) now) [] s := by
  simp only [finish, if_true]
  refine throughout_do.mpr ((conclude_entitled name outcome).mono (fun _ _ kept => kept) ?_)
  intro concluded now t kept
  refine throughout_do.mpr ((current_entitled kept).mono (fun _ _ kept => kept) ?_)
  intro read now t kept
  cases read <;> exact kept

theorem handle_entitled (state : State) (event : Event) :
    (handle state event).Throughout serves (fun now _ => Entitled state now)
      (fun _ now _ => Entitled state now) [] s := by
  rcases handle_cases state event with
    ⟨name, outcome, rfl, rfl⟩ | ⟨name, rfl, rfl⟩ | ⟨turn, idle, _⟩
  · exact finish_entitled name outcome
  · refine throughout_do.mpr ((unlink_entitled (entitled_nil _)).mono (fun _ _ kept => kept) ?_)
    intro result now t kept
    cases result <;> exact kept
  · rw [idle]
    exact entitled_nil _

-- A state that was read is never one that awaits a fetch.
theorem current_unawaited : current.run.Throughout serves (fun _ _ => True)
    (fun result _ _ => ∀ next, result = .ok next → ∀ name, next ≠ .loading name) past s := by
  refine throughout_onward (fun failure _ _ next led => by cases led) fun account past s => ?_
  rintro _ ⟨⟩
  exact ofAccount_idle account

theorem unlink_unawaited : unlink.run.Throughout serves (fun _ _ => True)
    (fun result _ _ => ∀ effects next, result = .ok (effects, next) → ∀ name, next ≠ .loading name)
    past s := by
  refine throughout_onward (fun failure _ _ effects next led => by cases led) fun _ past s => ?_
  refine throughout_onward (fun failure _ _ effects next led => by cases led) fun _ past s => ?_
  refine throughout_then.mpr (current_unawaited.mono_end ?_)
  intro result past s unawaited
  cases result with
  | error failure => rintro effects next ⟨⟩
  | ok state =>
      rintro effects next ⟨⟩
      exact unawaited state rfl

theorem submit_idle (text : String) (busy : state ≠ .unlinked) : submit state text = ⟨state, .ok []⟩ := by
  simp only [submit, busy, ne_eq, not_false_eq_true, true_or, if_true]

theorem submit_loading {text : String} (awaits : (submit state text).state = .loading name) :
    state = .loading name ∨ state = .unlinked ∧ name = cleaned text ∧ IsName name := by
  by_cases idle : state = .unlinked
  · subst idle
    rw [submit_unlinked] at awaits
    split at awaits
    · cases awaits
    · split at awaits
      · rename_i valid
        cases awaits
        exact .inr ⟨rfl, rfl, (valid_iff _).mp valid⟩
      · cases awaits
  · rw [submit_idle text idle] at awaits
    exact .inl awaits

-- A name is awaited from when it is submitted, and is not exchanged for another.
theorem handle_loading (state : State) (event : Event) :
    (handle state event).Throughout serves (fun _ _ => True)
      (fun turn _ _ => ∀ name, turn.state = .loading name → state = .loading name ∨
        state = .unlinked ∧ ∃ text, event = .submitted text ∧ name = cleaned text ∧ IsName name)
      past s := by
  cases event with
  | dismissed => exact fun name awaits => .inl awaits
  | submitted text =>
      intro name awaits
      rcases submit_loading awaits with same | ⟨idle, is⟩
      · exact .inl same
      · exact .inr ⟨idle, text, rfl, is⟩
  | clicked =>
      cases state with
      | unlinked => exact fun name awaits => .inl awaits
      | loading username => exact fun name awaits => .inl awaits
      | linked username =>
          refine throughout_do.mpr (unlink_unawaited.mono_end ?_)
          intro result past s unawaited
          cases result with
          | ok both => exact fun name awaits => absurd awaits (unawaited both.1 both.2 rfl name)
          | error failure => exact fun name awaits => .inl awaits
  | finished username outcome =>
      by_cases awaited : state = .loading username
      · simp only [handle, finish, awaited, if_true]
        refine throughout_do.mpr ((throughout_trivial _).mono_end ?_)
        intro concluded past s _
        refine throughout_do.mpr (current_unawaited.mono_end ?_)
        intro read past s unawaited
        cases read with
        | error failure => exact fun name awaits => .inl awaits
        | ok next => exact fun name awaits => absurd awaits (unawaited next rfl name)
      · simp only [handle, finish, awaited, if_false]
        exact fun name awaits => .inl awaits

theorem heard_loading (heard : Heard serves taken state s) : ∀ name, state = .loading name →
    ∃ text, (.unlinked, .submitted text) ∈ taken ∧ name = cleaned text ∧ IsName name := by
  induction heard with
  | built course => exact fun name awaits => absurd awaits (current_unawaited.ending course _ rfl name)
  | took before course ih =>
      intro name awaits
      rcases (handle_loading _ _).ending course name awaits with same | ⟨rfl, text, rfl, is⟩
      · obtain ⟨text, among, is⟩ := ih name same
        exact ⟨text, List.mem_cons_of_mem _ among, is⟩
      · exact ⟨text, List.mem_cons_self, is⟩
  | reread before course =>
      exact fun name awaits => absurd awaits (current_unawaited.ending course _ rfl name)
  | meanwhile before t ih => exact ih

theorem submit_taken {text : String} (is : IsName (cleaned text)) :
    submit .unlinked text = ⟨.loading (cleaned text), .ok [.render, .fetch (cleaned text)]⟩ := by
  rw [submit_unlinked, if_neg is.named, if_pos ((valid_iff _).mpr is)]

theorem submit_untaken {text : String} (other : ¬(state = .unlinked ∧ IsName (cleaned text))) :
    (submit state text).fetches = 0 := by
  by_cases idle : state = .unlinked
  · subst idle
    rw [submit_unlinked]
    split
    · rfl
    · split
      · rename_i valid
        exact absurd ⟨rfl, (valid_iff _).mp valid⟩ other
      · rfl
  · rw [submit_idle text idle]
    rfl

theorem submit_asked (state : State) (text : String) :
    ((submit state text).fetches ≠ 0 ↔ state = .unlinked ∧ IsName (cleaned text)) ∧
    ((submit state text).fetches ≠ 0 → (submit state text).fetches = {cleaned text} ∧
      (submit state text).state = .loading (cleaned text)) := by
  by_cases takes : state = .unlinked ∧ IsName (cleaned text)
  · obtain ⟨rfl, is⟩ := takes
    have one : (submit .unlinked text).fetches = {cleaned text} := by
      rw [submit_taken is]
      rfl
    have some : (submit .unlinked text).fetches ≠ 0 := by
      rw [one]
      exact Multiset.singleton_ne_zero _
    exact ⟨⟨fun _ => ⟨rfl, is⟩, fun _ => some⟩, fun _ => ⟨one, by rw [submit_taken is]⟩⟩
  · have none := submit_untaken takes
    exact ⟨⟨fun some => absurd none some, fun both => absurd both takes⟩,
      fun some => absurd none some⟩

theorem handle_unasked (other : ∀ text, event ≠ .submitted text) {turn : Turn}
    (course : Leads serves (handle state event) s past (.done turn) t) : turn.fetches = 0 := by
  rcases (handle_fetches state event).ending course with none | ⟨⟨text, same⟩, _⟩
  · exact none
  · exact absurd same (other text)

-- What a service in this state does with names. A text is answered without the store.
structure NamesTaken (serves : (c : Store.Call) → σ → c.Answer → σ → Prop)
    (taken : List (State × Event)) (state : State) (s : σ) : Prop where
  asked : ∀ text, ∃ turn, handle state (.submitted text) = .done turn ∧
    (turn.fetches ≠ 0 ↔ state = .unlinked ∧ IsName (cleaned text)) ∧
    (turn.fetches ≠ 0 → turn.fetches = {cleaned text} ∧ turn.state = .loading (cleaned text))
  unasked : ∀ event past turn t, (∀ text, event ≠ .submitted text) →
    Leads serves (handle state event) s past (.done turn) t → turn.fetches = 0
  awaited : ∀ name, state = .loading name →
    ∃ text, (.unlinked, .submitted text) ∈ taken ∧ name = cleaned text ∧ IsName name
  written : ∀ event past rest t, Leads serves (handle state event) s past rest t → Entitled state past
  reread : ∀ m past rest t, Leads serves current.run m past rest t →
    ∀ name answer, ⟨.put usernameKey name, answer⟩ ∉ past

theorem heard_names (heard : Heard serves taken state s) : NamesTaken serves taken state s where
  asked text := ⟨submit state text, rfl, submit_asked state text⟩
  unasked _ _ _ _ other course := handle_unasked other course
  awaited := heard_loading heard
  written event _ _ _ course := (handle_entitled state event).point course
  reread _ _ _ _ course := current_unwritten.point course

end LinkedKeys.Control

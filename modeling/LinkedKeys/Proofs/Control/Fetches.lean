import LinkedKeys.Proofs.Control.Effects
import Mathlib.Data.Multiset.AddSub

namespace LinkedKeys.Control

open Script

def Effect.fetch? : Effect → Option String
  | .fetch username => some username
  | _ => none

-- The fetches that a turn asks for. One that failed asks for nothing.
def Turn.fetches (turn : Turn) : Multiset String :=
  match turn.result with
  | .ok effects => (effects.filterMap Effect.fetch? : List String)
  | .error _ => 0

section

variable {σ : Type} {serves : (c : Store.Call) → σ → c.Answer → σ → Prop} {s : σ} {past : Store.Past}
  {state : State} {flying : Multiset String}

-- A service from when it is built, with the fetches under way. An event from outside is any event
-- but the end of a fetch, which is delivered for one that is under way and ends it.
inductive Tended (serves : (c : Store.Call) → σ → c.Answer → σ → Prop) :
    State → Multiset String → σ → Prop where
  | built {s past state t} (course : Leads serves current.run s past (.done (.ok state)) t) :
      Tended serves state 0 t
  | took {state flying s event past turn t} (before : Tended serves state flying s)
      (outside : ∀ username outcome, event ≠ .finished username outcome)
      (course : Leads serves (handle state event) s past (.done turn) t) :
      Tended serves turn.state (flying + turn.fetches) t
  | returned {state flying s username outcome past turn t} (before : Tended serves state flying s)
      (under : username ∈ flying)
      (course : Leads serves (handle state (.finished username outcome)) s past (.done turn) t) :
      Tended serves turn.state (flying.erase username + turn.fetches) t

-- What is under way is nothing, or the one fetch that is awaited.
inductive Aloft : State → Multiset String → Prop where
  | nothing (state : State) : Aloft state 0
  | awaited (username : String) : Aloft (.loading username) {username}

-- A fetch is asked for by a username that is submitted while nothing is awaited, and it is awaited
-- from then on.
theorem handle_fetches (state : State) (event : Event) :
    (handle state event).Throughout serves (fun _ _ => True)
      (fun turn _ _ => turn.fetches = 0 ∨
        (∃ text, event = .submitted text) ∧ state = .unlinked ∧
          ∃ name, turn.state = .loading name ∧ turn.fetches = {name}) past s := by
  have quiet : (∀ text, event ≠ .submitted text) → (handle state event).Throughout serves
      (fun _ _ => True) (fun turn _ _ => turn.fetches = 0) past s := by
    intro other
    refine (handle_effects state event).mono_end ?_
    rintro ⟨next, result⟩ now t follow
    cases result with
    | error failure => rfl
    | ok effects =>
        cases follow effects rfl with
        | starts text name => exact absurd rfl (other text)
        | nothing => rfl
        | asks => rfl
        | unlinks => rfl
        | rejects text name => rfl
        | ends username outcome => rfl
        | reports username outcome alert => rfl
  cases event with
  | submitted text =>
      rcases submit_cases state text with same | ⟨unlinked, name, _, same⟩ | ⟨name, same⟩
      · rw [handle, same]; exact .inl rfl
      · rw [handle, same]; exact .inr ⟨⟨text, rfl⟩, unlinked, name, rfl, rfl⟩
      · rw [handle, same]; exact .inl rfl
  | clicked => exact (quiet (by simp)).mono_end fun _ _ _ => .inl
  | dismissed => exact (quiet (by simp)).mono_end fun _ _ _ => .inl
  | finished username outcome => exact (quiet (by simp)).mono_end fun _ _ _ => .inl

-- While a fetch is awaited every event from outside is ignored.
theorem handle_awaiting {username : String} {event : Event}
    (outside : ∀ username outcome, event ≠ .finished username outcome) :
    handle (.loading username) event = .done ⟨.loading username, .ok []⟩ := by
  cases event with
  | clicked => rfl
  | dismissed => rfl
  | submitted text =>
      rw [handle, submit, if_pos (.inl (by simp))]
      rfl
  | finished username outcome => exact absurd rfl (outside username outcome)

theorem took_aloft {event : Event} {turn : Turn} {t : σ} (aloft : Aloft state flying)
    (outside : ∀ username outcome, event ≠ .finished username outcome)
    (course : Leads serves (handle state event) s past (.done turn) t) :
    Aloft turn.state (flying + turn.fetches) := by
  cases aloft with
  | nothing =>
      rcases (handle_fetches state event).ending course with none | ⟨_, _, name, moved, one⟩
      · rw [none]; exact .nothing _
      · rw [moved, one]; exact .awaited name
  | awaited username =>
      rw [handle_awaiting outside] at course
      obtain ⟨_, same, _⟩ := leads_done course
      cases same
      exact .awaited username

theorem returned_aloft {username : String} {outcome : Outcome} {turn : Turn} {t : σ}
    (aloft : Aloft state flying) (under : username ∈ flying)
    (course : Leads serves (handle state (.finished username outcome)) s past (.done turn) t) :
    Aloft turn.state (flying.erase username + turn.fetches) := by
  have none : turn.fetches = 0 := by
    rcases (handle_fetches state _).ending course with none | ⟨⟨text, other⟩, _⟩
    · exact none
    · cases other
  cases aloft with
  | nothing => simp at under
  | awaited awaited =>
      obtain rfl := Multiset.mem_singleton.mp under
      rw [none, Multiset.erase_singleton]
      exact .nothing _

theorem tended_aloft (tended : Tended serves state flying s) : Aloft state flying := by
  induction tended with
  | built course => exact .nothing _
  | took before outside course ih => exact took_aloft ih outside course
  | returned before under course ih => exact returned_aloft ih under course

-- An event is dropped where it changes nothing and asks for nothing. This never happens to the end
-- of a fetch that is under way.
theorem fetch_outstanding (tended : Tended serves state flying s) :
    flying.card ≤ 1 ∧ (∀ username ∈ flying, state = .loading username) ∧
    (∀ event past turn t, Leads serves (handle state event) s past (.done turn) t → flying ≠ 0 →
      turn.fetches = 0) ∧
    ∀ username ∈ flying, ∀ outcome past turn t,
      Leads serves (handle state (.finished username outcome)) s past (.done turn) t →
        turn.result ≠ .ok [] := by
  cases tended_aloft tended with
  | nothing => simp
  | awaited awaited =>
      refine ⟨by simp, by simp, ?_, ?_⟩
      · intro event past turn t course _
        rcases (handle_fetches _ event).ending course with none | ⟨_, other, _⟩
        · exact none
        · cases other
      · intro username under outcome past turn t course
        obtain rfl := Multiset.mem_singleton.mp under
        intro dropped
        rcases (awaited_effects username outcome).ending course [] dropped with led | ⟨alert, led⟩
        · cases led
        · cases led

end

-- alice is awaited, and her fetch comes back while no parameter can be read.
theorem unreadable_end_taken : ∃ past turn,
    Tended (Store.Served fun _ => True) (.loading "alice") {"alice"} ({} : Store.Params) ∧
      Leads (Store.Served fun _ => True) (handle (.loading "alice") (.finished "alice" .timedOut)) {} past
        (.done turn) {} ∧ turn.state = .loading "alice" ∧ turn.result ≠ .ok [] := by
  have read : Leads (Store.Served fun _ => True) current.run ({} : Store.Params) _
      (.done (.ok .unlinked)) {} := Store.course_carried (Store.course_carried .here)
  have asked : Leads (Store.Served fun _ => True) (handle .unlinked (.submitted " alice")) {} []
      (.done ⟨.loading "alice", .ok [.render, .fetch "alice"]⟩) {} := .here
  have tended : Tended (Store.Served fun _ => True) (.loading "alice") {"alice"} ({} : Store.Params) :=
    .took (.built read) (by simp) asked
  have ended : Leads (Store.Served fun _ => True) (handle (.loading "alice") (.finished "alice" .timedOut))
      {} _ (.done ⟨.loading "alice", .error .notLinked⟩) {} := Store.course_refused .notLinked .here trivial
  exact ⟨_, _, tended, ended, rfl, (fetch_outstanding tended).2.2.2 "alice" (by simp) _ _ _ _ ended⟩

end LinkedKeys.Control

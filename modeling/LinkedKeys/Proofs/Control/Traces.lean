import LinkedKeys.Proofs.Control.Naming
import LinkedKeys.Proofs.Control.Stranding

namespace LinkedKeys.Control

open Store Script

section

variable {σ : Type} {serves : (c : Store.Call) → σ → c.Answer → σ → Prop} {past : Store.Past} {s : σ}

-- No fetch is awaited in a state that was read, whatever the store answered.
theorem current_settles : current.run.Throughout serves (fun _ _ => True)
    (fun result _ _ => ∀ state, result = .ok state → ∀ username, state ≠ .loading username) past s := by
  simp only [current, Account.stored]
  apply throughout_then.mpr
  apply (throughout_trivial _).mono_end
  intro result past s _
  cases result with
  | error failure =>
      intro state read
      cases read
  | ok account =>
      intro state read
      cases read
      exact ofAccount_idle account

theorem unlinking_settles (username : String) :
    (handle (.linked username) .clicked).Throughout serves (fun _ _ => True)
      (fun turn _ _ => ∀ effects, turn.result = .ok effects →
        effects = [.render] ∧ ∀ other, turn.state ≠ .loading other) past s := by
  simp only [handle, click, unlink]
  apply throughout_do.mpr
  refine throughout_onward (fun failure _ _ effects led => by cases led) fun _ past s => ?_
  refine throughout_onward (fun failure _ _ effects led => by cases led) fun _ past s => ?_
  apply throughout_then.mpr
  apply current_settles.mono_end
  intro result past s settled
  cases result with
  | error failure =>
      intro effects led
      cases led
  | ok next =>
      intro effects led
      cases led
      exact ⟨rfl, settled next rfl⟩

theorem finished_settles (username : String) (outcome : Outcome) :
    (handle (.loading username) (.finished username outcome)).Throughout serves (fun _ _ => True)
      (fun turn _ _ => ∀ effects, turn.result = .ok effects →
        ∀ other, turn.state ≠ .loading other) past s := by
  simp only [handle, finish, if_true]
  apply throughout_do.mpr
  apply (throughout_trivial _).mono_end
  intro concluded past s _
  apply throughout_do.mpr
  apply current_settles.mono_end
  intro result past s settled
  cases result with
  | error failure =>
      intro effects led
      cases led
  | ok next =>
      intro effects _
      exact settled next rfl

end

end LinkedKeys.Control

namespace LinkedKeys.Control.Session

open Script

-- Not a call of the store.
def isSeen : Exchange Call Call.Answer → Bool
  | ⟨.store _, _⟩ => false
  | _ => true

def seen (past : Past) : Past := past.filter isSeen

@[simp] theorem seen_append (past more : Past) : seen (past ++ more) = seen past ++ seen more :=
  List.filter_append _ _

@[simp] theorem seen_lift (now : Store.Past) : seen (now.map lift) = [] := by
  rw [seen, List.filter_eq_nil_iff]
  intro made among
  obtain ⟨stored, _, rfl⟩ := List.mem_map.mp among
  simp [isSeen, lift]

-- The view of a control that awaits nothing.
def Settled (view : View) : Prop := view.button ≠ .loading

theorem view_settled {state : State} (idle : ∀ username, state ≠ .loading username) :
    Settled state.view := by
  cases state with
  | unlinked => simp [Settled, State.view]
  | loading username => exact absurd rfl (idle username)
  | linked username => simp [Settled, State.view]

-- The exchanges of a click that is not cut short, by the state that it is made in.
inductive Whole : State → Past → Prop where
  | ignored {username} : Whole (.loading username) []
  | unlinks {username view} (settled : Settled view) : Whole (.linked username) [⟨.render view, .ok ()⟩]
  | asks {answer} (none : ∀ text, answer = some text → cleaned text = "") :
      Whole .unlinked [⟨.prompt promptTitle, .ok answer⟩]
  | rejects {text view} (some : cleaned text ≠ "") (invalid : Username.isValid (cleaned text) = false)
      (settled : Settled view) : Whole .unlinked
        [⟨.prompt promptTitle, .ok (.some text)⟩, ⟨.alert (.invalidUsername (cleaned text)), .ok ()⟩,
          ⟨.render view, .ok ()⟩]
  | fetches {text view} (valid : Username.isValid (cleaned text) = true) (outcome : Outcome)
      (settled : Settled view) : Whole .unlinked
        [⟨.prompt promptTitle, .ok (some text)⟩, ⟨.render loadingView, .ok ()⟩,
          ⟨.fetch (cleaned text), outcome⟩, ⟨.render view, .ok ()⟩]
  | reports {text view} (valid : Username.isValid (cleaned text) = true) (outcome : Outcome)
      (alert : Alert) (settled : Settled view) : Whole .unlinked
        [⟨.prompt promptTitle, .ok (some text)⟩, ⟨.render loadingView, .ok ()⟩,
          ⟨.fetch (cleaned text), outcome⟩, ⟨.alert alert, .ok ()⟩, ⟨.render view, .ok ()⟩]

-- Up to its last call a click has been answered as in one that is not cut short.
structure UpTo (made whole : Past) : Prop where
  calls : made.map (·.call) <+: whole.map (·.call)
  answered : made.dropLast <+: whole

-- A click in this state has gone along one of the ways.
def Along (state : State) (made : Past) : Prop := ∃ whole, Whole state whole ∧ UpTo made whole

variable {state : State} {front rest : Past}

theorem along_whole (whole : Whole state front) : Along state front :=
  ⟨front, whole, List.prefix_rfl, List.dropLast_prefix front⟩

theorem along_front (whole : Whole state (front ++ rest)) : Along state front := by
  refine ⟨_, whole, ?_, ?_⟩
  · rw [List.map_append]
    exact List.prefix_append _ _
  · exact (List.dropLast_prefix front).trans (List.prefix_append _ _)

-- The last answer may be another one.
theorem along_last {c : Call} {answer : c.Answer} (other : c.Answer)
    (whole : Whole state (front ++ ⟨c, answer⟩ :: rest)) : Along state (front ++ [⟨c, other⟩]) := by
  refine ⟨_, whole, ?_, ?_⟩
  · simp
  · rw [List.dropLast_concat]
    exact List.prefix_append _ _

variable {σ : Type} {serves : (c : Call) → σ → c.Answer → σ → Prop} {past : Past} {m : σ} {s : Session}

-- What holds wherever a call is still to be made, and at the end.
abbrev GoesAlong (serves : (c : Call) → σ → c.Answer → σ → Prop) (state : State)
    (script : Script (Except Failure Unit × Session)) (past : Past) (m : σ) : Prop :=
  script.Throughout serves (fun now _ => Along state (seen now))
    (fun r now _ => Along state (seen now) ∧ (r.1 = .ok () → Whole state (seen now))) past m

theorem ended_along {made : Past} {result : Except Failure Unit} (now : seen made = front)
    (whole : Whole state front) : Along state (seen made) ∧ (result = .ok () → Whole state (seen made)) := by
  rw [now]
  exact ⟨along_whole whole, fun _ => whole⟩

theorem failed_along {made : Past} {failure : Failure} (now : seen made = front) (along : Along state front) :
    Along state (seen made) ∧
      ((.error failure : Except Failure Unit) = .ok () → Whole state (seen made)) := by
  rw [now]
  refine ⟨along, ?_⟩
  intro ended
  cases ended

-- One more call that is seen, and that is made in one of the ways.
theorem ask_along {α : Type} {c : Call} {next : c.Answer → Script α} {after : α → Past → σ → Prop}
    {answer : c.Answer} (visible : ∀ answer, isSeen ⟨c, answer⟩ = true) (before : seen past = front)
    (whole : Whole state (front ++ ⟨c, answer⟩ :: rest))
    (onward : ∀ answer m, seen (past ++ [⟨c, answer⟩]) = front ++ [⟨c, answer⟩] →
      Along state (front ++ [⟨c, answer⟩]) →
        (next answer).Throughout serves (fun now _ => Along state (seen now)) after
          (past ++ [⟨c, answer⟩]) m) :
    (Script.ask c next).Throughout serves (fun now _ => Along state (seen now)) after past m := by
  refine ⟨?_, ?_⟩
  · change Along state (seen past)
    rw [before]
    exact along_front whole
  · intro answer m _
    apply onward answer m
    · rw [seen_append, before, seen, List.filter_singleton, visible answer]
      rfl
    · exact along_last answer whole

theorem render_along (before : seen past = front)
    (whole : ∀ view, Settled view → Whole state (front ++ [⟨.render view, .ok ()⟩]))
    (idle : Idle s) : GoesAlong serves state (performAll [.render] s) past m := by
  have drawn := whole s.state.view (view_settled idle)
  apply throughout_performAll.mpr
  apply ask_along (fun _ => rfl) before drawn
  intro answer m now along
  cases answer with
  | error failure => exact failed_along now along
  | ok shown => exact ended_along now drawn

theorem alert_along {alert : Alert} (before : seen past = front)
    (whole : ∀ view, Settled view →
      Whole state (front ++ [⟨.alert alert, .ok ()⟩, ⟨.render view, .ok ()⟩]))
    (idle : Idle s) : GoesAlong serves state (performAll [.alert alert, .render] s) past m := by
  apply throughout_performAll.mpr
  apply ask_along (fun _ => rfl) before (whole s.state.view (view_settled idle))
  intro answer m now along
  cases answer with
  | error failure => exact failed_along now along
  | ok shown =>
      apply render_along now
      · intro view settled
        rw [List.append_assoc]
        exact whole view settled
      · exact idle

-- What the prompt and the view that announces a fetch leave behind.
def announced (text : String) : Past :=
  [⟨.prompt promptTitle, .ok (some text)⟩, ⟨.render loadingView, .ok ()⟩]

theorem unlinked_settled : Settled State.unlinked.view := view_settled (by simp)

-- What a finished fetch leads to is a render, with an alert in front of it or not.
theorem finish_along {username : String} {outcome : Outcome} (before : seen past = front)
    (along : Along state front) (awaits : s.state = .loading username)
    (ends : ∀ view, Settled view → Whole state (front ++ [⟨.render view, .ok ()⟩]))
    (reports : ∀ alert view, Settled view →
      Whole state (front ++ [⟨.alert alert, .ok ()⟩, ⟨.render view, .ok ()⟩])) :
    (take s (.finished username outcome)).Throughout serves (fun now _ => Along state (seen now)) (fun
      | (.ok next, s) => GoesAlong serves state (performAll next s)
      | (.error failure, _) => fun now _ => Along state (seen now) ∧
          ((.error failure : Except Failure Unit) = .ok () → Whole state (seen now))) past m := by
  have still : ∀ stored : Store.Past, seen (past ++ stored.map lift) = front := by
    intro stored
    rw [seen_append, seen_lift, List.append_nil, before]
  apply throughout_take.mpr
  rw [awaits]
  apply ((awaited_effects username outcome).and (finished_settles username outcome)).mono
  · intro stored m _
    rw [still stored]
    exact along
  rintro ⟨next, result⟩ stored m ⟨few, settles⟩
  cases result with
  | error failure => exact failed_along (still stored) along
  | ok effects =>
      have idle : Idle { s with state := next } := settles effects rfl
      rcases few effects rfl with rfl | ⟨alert, rfl⟩
      · exact render_along (still stored) ends idle
      · exact alert_along (still stored) (reports alert) idle

theorem fetch_along {text : String} (before : seen past = announced text)
    (valid : Username.isValid (cleaned text) = true) (awaits : s.state = .loading (cleaned text)) :
    GoesAlong serves .unlinked (performAll [.fetch (cleaned text)] s) past m := by
  apply throughout_performAll.mpr
  apply ask_along (fun _ => rfl) before (.fetches valid .timedOut unlinked_settled)
  intro outcome m now along
  apply finish_along now along awaits
  · exact fun view settled => .fetches valid outcome settled
  · exact fun alert view settled => .reports valid outcome alert settled

theorem announce_along {text : String} (before : seen past = [⟨.prompt promptTitle, .ok (some text)⟩])
    (valid : Username.isValid (cleaned text) = true) (awaits : s.state = .loading (cleaned text)) :
    GoesAlong serves .unlinked (performAll [.render, .fetch (cleaned text)] s) past m := by
  obtain ⟨_, last⟩ := s
  cases awaits
  apply throughout_performAll.mpr
  apply ask_along (fun _ => rfl) before (.fetches valid .timedOut unlinked_settled)
  intro answer m now along
  cases answer with
  | error failure => exact failed_along now along
  | ok shown => exact fetch_along now valid rfl

theorem prompt_along (unlinked : s.state = .unlinked) (before : seen past = []) :
    GoesAlong serves .unlinked (performAll [.prompt] s) past m := by
  have dismissed : Whole .unlinked ([] ++ [⟨.prompt promptTitle, .ok none⟩]) := .asks (by simp)
  have idle : Idle s := fun username => by simp [unlinked]
  apply throughout_performAll.mpr
  apply ask_along (fun _ => rfl) before dismissed
  intro answer m now along
  have still : seen (past ++ [⟨.prompt promptTitle, answer⟩] ++ ([] : Store.Past).map lift) =
      [⟨.prompt promptTitle, answer⟩] := by
    rw [seen_append, now]
    rfl
  cases answer with
  | error failure => exact failed_along now along
  | ok answer =>
      cases answer with
      | none => exact throughout_take.mpr (ended_along still dismissed)
      | some text =>
          apply throughout_take.mpr
          rw [unlinked, handle, submit_unlinked]
          by_cases blank : cleaned text = ""
          · rw [if_pos blank]
            exact ended_along still (.asks (by simpa using blank))
          · rw [if_neg blank]
            split
            · rename_i valid
              exact announce_along still valid rfl
            · rename_i invalid
              apply alert_along still
              · exact fun view settled => .rejects blank (by simpa using invalid) settled
              · simp [Idle]

theorem click_along (s : Session) : GoesAlong serves s.state (click s) [] m := by
  apply throughout_do.mpr
  apply throughout_take.mpr
  cases state : s.state with
  | unlinked => exact prompt_along rfl rfl
  | loading username => exact ended_along rfl .ignored
  | linked username =>
      have none : ∀ stored : Store.Past, seen ([] ++ stored.map lift) = [] := by simp
      have begun : Along (.linked username) [] := along_front (.unlinks unlinked_settled)
      apply (unlinking_settles username).mono
      · intro stored m _
        rw [none stored]
        exact begun
      rintro ⟨next, result⟩ stored m settles
      cases result with
      | error failure => exact failed_along (none stored) begun
      | ok effects =>
          obtain ⟨rfl, idle⟩ := settles effects rfl
          apply render_along (none stored)
          · exact fun view settled => .unlinks settled
          · exact idle

def isPrompt : Call → Bool
  | .prompt _ => true
  | _ => false

def isAlert : Call → Bool
  | .alert _ => true
  | _ => false

def isFetch : Call → Bool
  | .fetch _ => true
  | _ => false

-- How often a click has made calls of a kind.
def times (kind : Call → Bool) (past : Past) : Nat := (past.map (·.call)).countP kind

theorem times_append (kind : Call → Bool) (past more : Past) :
    times kind (past ++ more) = times kind past + times kind more := by
  simp [times]

-- The store is asked for nothing that is typed.
theorem times_seen (past : Past) : times isPrompt (seen past) = times isPrompt past := by
  induction past with
  | nil => rfl
  | cons made past ih =>
      obtain ⟨call, answer⟩ := made
      cases call <;> simp_all [times, seen, isSeen, isPrompt, List.countP_cons, List.filter_cons]

theorem along_few (along : Along state front) : front.length ≤ 5 := by
  obtain ⟨whole, way, upTo⟩ := along
  have shorter := upTo.calls.length_le
  simp only [List.length_map] at shorter
  refine Nat.le_trans shorter ?_
  cases way <;> simp

theorem whole_once {whole : Past} (way : Whole state whole) :
    times isPrompt whole ≤ 1 ∧ times isAlert whole ≤ 1 ∧ times isFetch whole ≤ 1 := by
  cases way <;> simp [times, isPrompt, isAlert, isFetch, List.countP_cons]

-- An unlinked control alone has something to ask for.
theorem whole_prompts {whole : Past} (way : Whole state whole) :
    times isPrompt whole = if state = .unlinked then 1 else 0 := by
  cases way <;> simp [times, isPrompt, List.countP_cons]

theorem along_once (along : Along state front) :
    times isPrompt front ≤ 1 ∧ times isAlert front ≤ 1 ∧ times isFetch front ≤ 1 := by
  obtain ⟨whole, way, upTo⟩ := along
  have fewer : ∀ kind, times kind front ≤ times kind whole := fun _ => upTo.calls.sublist.countP_le
  obtain ⟨prompts, alerts, fetches⟩ := whole_once way
  exact ⟨Nat.le_trans (fewer _) prompts, Nat.le_trans (fewer _) alerts, Nat.le_trans (fewer _) fetches⟩

-- Two calls come before a fetch, and the second of them is that of the view that announces it.
theorem whole_announced {whole : Past} {n : Nat} {username : String} (way : Whole state whole)
    (third : (whole.map (·.call))[n]? = some (.fetch username)) :
    ⟨.render loadingView, .ok ()⟩ ∈ whole.take n := by
  cases way <;> rcases n with _ | _ | _ | _ | _ | n <;> simp at third ⊢

theorem along_announced {before after : Past} {username : String} {outcome : Outcome}
    (along : Along state (before ++ ⟨.fetch username, outcome⟩ :: after)) :
    ⟨.render loadingView, .ok ()⟩ ∈ before := by
  obtain ⟨whole, way, upTo⟩ := along
  have third : (whole.map (·.call))[before.length]? = some (.fetch username) := by
    obtain ⟨more, same⟩ := upTo.calls
    rw [← same]
    simp
  have answered : before <+: whole := by
    have front := upTo.answered
    rw [List.dropLast_append_cons] at front
    exact (List.prefix_append _ _).trans front
  have drawn := whole_announced way third
  rwa [← List.prefix_iff_eq_take.mp answered] at drawn

theorem whole_drawn {whole : Past} {alert : Alert} {answer : Except Failure Unit} (way : Whole state whole)
    (alerted : ⟨.alert alert, answer⟩ ∈ whole) :
    ∃ before view, whole = before ++ [⟨.render view, .ok ()⟩] ∧ Settled view := by
  cases way with
  | ignored => simp at alerted
  | unlinks settled => simp at alerted
  | asks none => simp at alerted
  | fetches valid outcome settled => simp at alerted
  | rejects some invalid settled => exact ⟨[_, _], _, rfl, settled⟩
  | reports valid outcome alert settled => exact ⟨[_, _, _, _], _, rfl, settled⟩

-- A click that performs no more than so many effects.
def clickWithin (n : Nat) (s : Session) : Script (Except Failure Unit × Session) := do
  let (result, s) ← take { s with lastAlert := none } .clicked
  match result with
  | .error failure => return (.error failure, s)
  | .ok effects => performFirst n effects s

theorem click_within {n : Nat} (enough : 5 ≤ n) (s : Session) : clickWithin n s = click s := by
  have lighter : heaviest .clicked < 6 := by simp [heaviest]
  refine bind_congr [] ((take_lighter _ lighter).mono_end ?_)
  rintro ⟨result, s⟩ now _ lighter
  cases result with
  | error failure => rfl
  | ok effects =>
      have load := lighter effects rfl
      exact performFirst_enough (by omega) (Nat.le_refl _)

-- What a click has asked of the screen and the fetcher at a point, with the script that is left.
structure Traced (state : State) (past : Past) (rest : Script (Except Failure Unit × Session)) : Prop where
  along : Along state (seen past)
  ended : ∀ s', rest = .done (.ok (), s') → Whole state (seen past)
  few : (seen past).length ≤ 5
  once : times isPrompt (seen past) ≤ 1 ∧ times isAlert (seen past) ≤ 1 ∧ times isFetch (seen past) ≤ 1
  announced : ∀ before username outcome after, past = before ++ ⟨.fetch username, outcome⟩ :: after →
    ⟨.render loadingView, .ok ()⟩ ∈ before
  drawn : ∀ s' alert answer, rest = .done (.ok (), s') → ⟨.alert alert, answer⟩ ∈ past →
    ∃ before view, seen past = before ++ [⟨.render view, .ok ()⟩] ∧ Settled view

theorem along_at {script rest : Script (Except Failure Unit × Session)} {m' : σ}
    (goes : GoesAlong serves state script [] m) (course : Leads serves script m past rest m') :
    Along state (seen past) ∧ ∀ s', rest = .done (.ok (), s') → Whole state (seen past) := by
  have left := goes.rest course
  cases rest with
  | done r =>
      obtain ⟨along, ended⟩ := left
      refine ⟨along, ?_⟩
      intro s' same
      cases same
      exact ended rfl
  | ask c next =>
      refine ⟨left.1, ?_⟩
      intro s' same
      cases same

-- A click in any state, over any store, screen and fetcher, and whatever is refused.
theorem click_traced {rest : Script (Except Failure Unit × Session)} {m' : σ}
    (course : Leads serves (click s) m past rest m') :
    Traced s.state past rest ∧ ∀ n, 5 ≤ n → clickWithin n s = click s := by
  obtain ⟨along, ended⟩ := along_at (click_along s) course
  refine ⟨?_, fun n enough => click_within enough s⟩
  exact {
    along := along
    ended := ended
    few := along_few along
    once := along_once along
    announced := by
      intro before username outcome after split
      have among : seen past = seen before ++ ⟨.fetch username, outcome⟩ :: seen after := by
        rw [split, seen_append]
        rfl
      exact List.mem_of_mem_filter (along_announced (among ▸ along))
    drawn := by
      intro s' alert answer fine alerted
      have among : ⟨.alert alert, answer⟩ ∈ seen past := List.mem_filter.mpr ⟨alerted, rfl⟩
      exact whole_drawn (ended s' fine) among }

-- alice is typed with blanks around her, and her account is not found: all five effects are performed.
theorem unknown_alice_traced : ∃ past, Leads (Served fun _ => True) (click ⟨.unlinked, none⟩) {} past
      (.done (.ok (), ⟨.unlinked, some (.userNotFound "alice")⟩)) {} ∧
    Whole .unlinked (seen past) ∧ (seen past).length = 5 ∧
      ∃ before view, seen past = before ++ [⟨.render view, .ok ()⟩] ∧ Settled view := by
  have shown : ∀ view, Served (fun _ => True) (.render view) {} (.ok ()) {} := fun _ => ⟨.inl rfl, rfl⟩
  have told : ∀ alert, Served (fun _ => True) (.alert alert) {} (.ok ()) {} := fun _ => ⟨.inl rfl, rfl⟩
  have typed : Served (fun _ => True) (.prompt promptTitle) {} (.ok (some " alice\n")) {} :=
    ⟨.inl ⟨_, rfl⟩, rfl⟩
  have missed : Served (fun _ => True) (.fetch "alice") {} .notFound {} := rfl
  have read : ∀ key, Served (fun _ => True) (.store (.get key)) {} (.ok "") {} := fun _ => .carried
  have course : Leads (Served fun _ => True) (click ⟨.unlinked, none⟩) {} _
      (.done (.ok (), ⟨.unlinked, some (.userNotFound "alice")⟩)) {} :=
    .ask typed (.ask (shown _) (.ask missed (.ask (read _) (.ask (read _)
      (.ask (told _) (.ask (shown _) .here))))))
  have traced := (click_traced course).1
  have drawn := traced.drawn _ (.userNotFound (cleaned " alice\n")) (.ok ()) rfl (by simp [cleaned])
  exact ⟨_, course, traced.ended _ rfl, rfl, drawn⟩

end LinkedKeys.Control.Session

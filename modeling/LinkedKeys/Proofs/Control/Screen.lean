import LinkedKeys.Proofs.Control.Renewal

namespace LinkedKeys.Control

open Store Script Account

variable {refusable : Store.Call → Prop} {p : Params}

-- A click on a linked account that goes well leaves what is to be read off the store.
theorem unlinked_ends (username : String) :
    (handle (.linked username) .clicked).Throughout (Served refusable) (fun _ _ => True)
      (fun turn _ q => ∀ effects, turn.result = .ok effects →
        effects = [.render] ∧ turn.state = State.ofAccount (held q)) [] p := by
  simp only [handle, click]
  apply throughout_do.mpr
  apply unlink_ends.mono_end
  intro result past q ended
  cases result with
  | ok both =>
      intro effects led
      cases led
      exact ⟨ended.1, ended.2.1⟩
  | error failure =>
      intro effects led
      cases led

end LinkedKeys.Control

namespace LinkedKeys.Control.Session

open Store Script

def drawn? : Exchange Call Call.Answer → Option View
  | ⟨.render view, _⟩ => some view
  | _ => none

def alerted? : Exchange Call Call.Answer → Option Alert
  | ⟨.alert alert, _⟩ => some alert
  | _ => none

def views (past : Past) : List View := past.filterMap drawn?

def alerts (past : Past) : List Alert := past.filterMap alerted?

@[simp] theorem views_append (past more : Past) : views (past ++ more) = views past ++ views more :=
  List.filterMap_append

@[simp] theorem alerts_append (past more : Past) : alerts (past ++ more) = alerts past ++ alerts more :=
  List.filterMap_append

-- The store has no part in what is shown.
@[simp] theorem alerts_lift (now : Store.Past) : alerts (now.map lift) = [] := by
  simp [alerts, List.filterMap_map, alerted?, lift, Function.comp_def]

-- What is on the screen after some exchanges, when a view was there before.
def onScreen (before : View) (past : Past) : View := (views past).getLast?.getD before

variable {before : View} {past more : Past} {start p q : Params} {s s' : Session} {username : String}

-- What holds of a click at its end: the exchanges are those of this click alone.
structure InStep (before : View) (past : Past) (s : Session) (p : Params) : Prop where
  drawn : onScreen before past = s.state.view
  told : alerts past = s.lastAlert.toList
  agrees : s.state = State.ofAccount (Account.held p)

abbrev EndsInStep (before : View) (script : Script (Except Failure Unit × Session)) (past : Past)
    (p : Params) : Prop :=
  script.Throughout (Served fun _ => True) (fun _ _ => True)
    (fun r now q => r.1 = .ok () → InStep before now r.2 q) past p

theorem render_in_step (told : alerts past = s.lastAlert.toList)
    (agrees : s.state = State.ofAccount (Account.held p)) :
    EndsInStep before (performAll [.render] s) past p := by
  apply throughout_performAll.mpr
  refine ⟨trivial, ?_⟩
  intro answer q served
  obtain ⟨_, rfl⟩ := served
  cases answer with
  | error failure =>
      intro ended
      cases ended
  | ok shown =>
      intro _
      refine ⟨?_, ?_, agrees⟩
      · rw [onScreen, views_append, List.getLast?_append]
        rfl
      · rw [alerts_append, told]
        exact List.append_nil _

theorem alert_in_step (alert : Alert) (quiet : alerts past = [])
    (agrees : s.state = State.ofAccount (Account.held p)) :
    EndsInStep before (performAll [.alert alert, .render] s) past p := by
  apply throughout_performAll.mpr
  refine ⟨trivial, ?_⟩
  intro answer q served
  obtain ⟨_, rfl⟩ := served
  cases answer with
  | error failure =>
      intro ended
      cases ended
  | ok shown =>
      apply render_in_step
      · rw [alerts_append, quiet]
        rfl
      · exact agrees

-- Reading the parameters again decides: where it is refused the click does not go well.
theorem fetch_in_step (awaits : s.state = .loading username) (fresh : s.lastAlert = none)
    (quiet : alerts past = []) : EndsInStep before (performAll [.fetch username] s) past p := by
  apply throughout_performAll.mpr
  refine ⟨trivial, ?_⟩
  intro outcome q served
  obtain rfl := served
  apply throughout_take.mpr
  rw [awaits]
  apply ((handle_finished_ends username outcome).and (awaited_effects username outcome)).mono_end
  intro turn now q ended
  obtain ⟨⟨read, readBack, moved⟩, few⟩ := ended
  have still : alerts (past ++ [⟨.fetch username, outcome⟩] ++ now.map lift) = [] := by
    rw [alerts_append, alerts_append, quiet, alerts_lift]
    rfl
  obtain ⟨state, result⟩ := turn
  cases readBack with
  | refused front may failure =>
      cases moved
      intro ended
      cases ended
  | answered front =>
      simp only at moved
      cases result with
      | error failure =>
          intro ended
          cases ended
      | ok effects =>
          rcases few effects rfl with rfl | ⟨alert, rfl⟩
          · apply render_in_step
            · rw [still, fresh]
              rfl
            · exact moved
          · exact alert_in_step alert still moved

theorem announce_in_step (awaits : s.state = .loading username) (fresh : s.lastAlert = none)
    (quiet : alerts past = []) : EndsInStep before (performAll [.render, .fetch username] s) past p := by
  apply throughout_performAll.mpr
  refine ⟨trivial, ?_⟩
  intro answer q served
  obtain ⟨_, rfl⟩ := served
  cases answer with
  | error failure =>
      intro ended
      cases ended
  | ok shown =>
      apply fetch_in_step awaits fresh
      rw [alerts_append, quiet]
      rfl

-- A click that draws nothing leaves the state, and with it the screen, as it was.
theorem prompt_in_step (on : before = s.state.view) (fresh : s.lastAlert = none)
    (agrees : s.state = State.ofAccount (Account.held p)) :
    EndsInStep before (performAll [.prompt] s) [] p := by
  have untouched : ∀ answer, InStep before [⟨.prompt promptTitle, answer⟩] s p := by
    intro answer
    exact ⟨on, by rw [fresh]; rfl, agrees⟩
  apply throughout_performAll.mpr
  refine ⟨trivial, ?_⟩
  intro answer q served
  obtain ⟨_, rfl⟩ := served
  cases answer with
  | error failure =>
      intro ended
      cases ended
  | ok answer =>
      cases answer with
      | none => exact throughout_take.mpr fun _ => untouched _
      | some text =>
          apply throughout_take.mpr
          rw [handle]
          rcases submit_cases s.state text with same | ⟨_, name, _, same⟩ | ⟨name, same⟩
          · rw [same]
            exact fun _ => untouched _
          · rw [same]
            exact announce_in_step rfl fresh rfl
          · rw [same]
            exact alert_in_step _ rfl agrees

theorem click_in_step (on : before = s.state.view)
    (agrees : s.state = State.ofAccount (Account.held p)) : EndsInStep before (click s) [] p := by
  apply throughout_do.mpr
  apply throughout_take.mpr
  cases state : s.state with
  | loading username => exact absurd (agrees.symm.trans state) (ofAccount_idle _ _)
  | unlinked =>
      rw [state] at on agrees
      exact prompt_in_step on rfl agrees
  | linked username =>
      apply (unlinked_ends username).mono_end
      intro turn now q ended
      obtain ⟨state, result⟩ := turn
      cases result with
      | error failure =>
          intro ended
          cases ended
      | ok effects =>
          obtain ⟨rfl, moved⟩ := ended effects rfl
          apply render_in_step
          · exact alerts_lift now
          · exact moved

-- A session from when it is built and drawn, through clicks that all go well. Whether the first
-- drawing is refused makes no difference to what is asked of the screen.
inductive Showing (start : Params) : Past → Session → Params → Prop where
  | opened {past more : Past} {s : Session} {r : Except Failure Unit × Session} {p q : Params}
      (built : Leads (Served fun _ => True) build start past (.done (.ok s)) p)
      (drawn : Leads (Served fun _ => True) (render s) p more (.done r) q) :
      Showing start (past ++ more) r.2 q
  | clicked {past more : Past} {s s' : Session} {p q : Params} (before : Showing start past s p)
      (course : Leads (Served fun _ => True) (click s) p more (.done (.ok (), s')) q) :
      Showing start (past ++ more) s' q

theorem build_ends : build.Throughout (Served fun _ => True) (fun _ _ => True)
    (fun result _ q => ∀ s, result = .ok s → s.state = State.ofAccount (Account.held q)) [] p := by
  apply throughout_do.mpr
  change (storing current.run).Throughout _ _ _ ([] ++ ([] : Store.Past).map lift) p
  apply throughout_storing.mpr
  apply current_ends.mono_end
  intro result now q ended
  cases ended with
  | answered front =>
      intro s built
      cases built
      rfl
  | refused front may failure =>
      intro s built
      cases built

theorem render_ends_drawn {r : Except Failure Unit × Session}
    (drawn : Leads (Served fun _ => True) (render s) p past (.done r) q) :
    r.2 = s ∧ q = p ∧ views past = [s.state.view] := by
  have once : (render s).Throughout (Served fun _ => True) (fun _ _ => True)
      (fun r now q => r.2 = s ∧ q = p ∧ views now = [s.state.view]) [] p := by
    refine ⟨trivial, ?_⟩
    intro answer q served
    exact ⟨rfl, served.2, rfl⟩
  exact once.ending drawn

-- The view drawn last is that of the state, and the state is the one to be read off the store.
theorem showing_settled (showing : Showing start past s p) :
    (views past).getLast? = some s.state.view ∧ s.state = State.ofAccount (Account.held p) := by
  induction showing with
  | @opened past more s p r q built drawn =>
      obtain ⟨rfl, rfl, once⟩ := render_ends_drawn drawn
      refine ⟨by simp [once], ?_⟩
      exact build_ends.ending built _ rfl
  | @clicked past more s p s' q before course ih =>
      obtain ⟨on, agrees⟩ := ih
      have kept := (click_in_step rfl agrees).ending course rfl
      refine ⟨?_, kept.agrees⟩
      have shown := kept.drawn
      unfold onScreen at shown
      rw [views_append, List.getLast?_append, on, ← shown]
      cases (views more).getLast? <;> rfl

theorem ofAccount_view (p : Params) : (State.ofAccount (Account.held p)).view =
    if p.read Account.keysKey ≠ "" ∧ p.read Account.usernameKey ≠ "" then
      ⟨.remove, true, p.read Account.usernameKey⟩
    else ⟨.add, true, ""⟩ := by
  unfold Account.held Account.ofParts
  by_cases half : p.read Account.keysKey = "" ∨ p.read Account.usernameKey = ""
  · rw [if_pos half, if_neg]
    · rfl
    · intro whole
      exact half.elim whole.1 whole.2
  · rw [if_neg half, if_pos (not_or.mp half)]
    rfl

-- At most one alert is shown in a click, and it is remembered until the next.
theorem screen_in_step (showing : Showing start past s p)
    (course : Leads (Served fun _ => True) (click s) p more (.done (.ok (), s')) q) :
    (views (past ++ more)).getLast? = some s'.state.view ∧ s'.state.view.enabled = true ∧
    s'.state.view = (if q.read Account.keysKey ≠ "" ∧ q.read Account.usernameKey ≠ "" then
      ⟨.remove, true, q.read Account.usernameKey⟩ else ⟨.add, true, ""⟩) ∧
    alerts more = s'.lastAlert.toList := by
  obtain ⟨on, agrees⟩ := showing_settled showing
  obtain ⟨last, settled⟩ := showing_settled (.clicked showing course)
  have kept := (click_in_step rfl agrees).ending course rfl
  have view : s'.state.view = _ := settled ▸ ofAccount_view q
  refine ⟨last, ?_, view, kept.told⟩
  rw [view]
  split <;> rfl

-- alice is not found, and the next prompt is dismissed: the alert is forgotten, and the view that is
-- still on the screen was drawn by the click before.
theorem dismissed_in_step : ∃ past more,
    Showing {} past ⟨.unlinked, some (.userNotFound "alice")⟩ {} ∧
      Leads (Served fun _ => True) (click ⟨.unlinked, some (.userNotFound "alice")⟩) {} more
        (.done (.ok (), ⟨.unlinked, none⟩)) {} ∧
      views more = [] ∧ (views (past ++ more)).getLast? = some ⟨.add, true, ""⟩ ∧ alerts more = [] := by
  have shown : ∀ view, Served (fun _ => True) (.render view) {} (.ok ()) {} := fun _ => ⟨.inl rfl, rfl⟩
  have told : ∀ alert, Served (fun _ => True) (.alert alert) {} (.ok ()) {} := fun _ => ⟨.inl rfl, rfl⟩
  have answered : ∀ text, Served (fun _ => True) (.prompt promptTitle) {} (.ok text) {} :=
    fun text => ⟨.inl ⟨text, rfl⟩, rfl⟩
  have missed : Served (fun _ => True) (.fetch "alice") {} .notFound {} := rfl
  have read : ∀ key, Served (fun _ => True) (.store (.get key)) {} (.ok "") {} := fun _ => .carried
  have built : Leads (Served fun _ => True) build {} _ (.done (.ok ⟨.unlinked, none⟩)) {} :=
    .ask (read _) (.ask (read _) .here)
  have drawn : Leads (Served fun _ => True) (render ⟨.unlinked, none⟩) {} _
      (.done (.ok (), ⟨.unlinked, none⟩)) {} := .ask (shown _) .here
  have first : Leads (Served fun _ => True) (click ⟨.unlinked, none⟩) {} _
      (.done (.ok (), ⟨.unlinked, some (.userNotFound "alice")⟩)) {} :=
    .ask (answered (some "alice")) (.ask (shown _) (.ask missed (.ask (read _) (.ask (read _)
      (.ask (told _) (.ask (shown _) .here))))))
  have second : Leads (Served fun _ => True) (click ⟨.unlinked, some (.userNotFound "alice")⟩) {} _
      (.done (.ok (), ⟨.unlinked, none⟩)) {} := .ask (answered none) .here
  have showing : Showing {} _ _ {} := .clicked (.opened built drawn) first
  obtain ⟨last, _, _, quiet⟩ := screen_in_step showing second
  exact ⟨_, _, showing, second, rfl, last, quiet⟩

end LinkedKeys.Control.Session

import LinkedKeys.Control.Rehearsal
import LinkedKeys.Proofs.Control.Courses

namespace LinkedKeys.Control

open Store Script

-- Which effects an event can lead to.
inductive Follows : Event → List Effect → Prop where
  | nothing (event : Event) : Follows event []
  | asks : Follows .clicked [.prompt]
  | unlinks : Follows .clicked [.render]
  | starts (text name : String) : Follows (.submitted text) [.render, .fetch name]
  | rejects (text name : String) : Follows (.submitted text) [.alert (.invalidUsername name), .render]
  | ends (username : String) (outcome : Outcome) : Follows (.finished username outcome) [.render]
  | reports (username : String) (outcome : Outcome) (alert : Alert) :
      Follows (.finished username outcome) [.alert alert, .render]

section

variable {σ : Type} {serves : (c : Store.Call) → σ → c.Answer → σ → Prop} {past : Store.Past} {s : σ}

theorem conclude_effects (username : String) (outcome : Outcome) :
    (conclude username outcome).run.Throughout serves (fun _ _ => True)
      (fun result _ _ => ∀ effects, result = .ok effects →
        effects = [] ∨ ∃ alert, effects = [.alert alert]) past s := by
  cases outcome with
  | fetched body =>
      by_cases empty : body = ""
      · simp only [conclude, empty, if_true, throughout_pure]
        intro effects led
        cases led
        exact .inr ⟨_, rfl⟩
      · simp only [conclude, empty, if_false]
        refine throughout_onward (fun failure _ _ effects led => by cases led) fun stored past s => ?_
        intro effects led
        cases led
        exact .inl rfl
  | timedOut => intro effects led; cases led; exact .inr ⟨_, rfl⟩
  | notFound => intro effects led; cases led; exact .inr ⟨_, rfl⟩
  | failed reason => intro effects led; cases led; exact .inr ⟨_, rfl⟩

-- The outcome of a fetch that is awaited always comes to something, unless it ends in a failure.
theorem awaited_effects (username : String) (outcome : Outcome) :
    (finish (.loading username) username outcome).Throughout serves (fun _ _ => True)
      (fun turn _ _ => ∀ effects, turn.result = .ok effects →
        effects = [.render] ∨ ∃ alert, effects = [.alert alert, .render]) past s := by
  simp only [finish, if_true]
  refine throughout_do.mpr ((conclude_effects username outcome).mono_end ?_)
  intro concluded past s few
  refine throughout_do.mpr ((throughout_trivial _).mono_end ?_)
  intro read past s _
  cases read with
  | error failure => intro effects led; cases led
  | ok next =>
      cases concluded with
      | error failure => intro effects led; cases led
      | ok effects =>
          intro both led
          cases led
          rcases few effects rfl with rfl | ⟨alert, rfl⟩
          · exact .inl rfl
          · exact .inr ⟨alert, rfl⟩

theorem finish_effects (state : State) (username : String) (outcome : Outcome) :
    (finish state username outcome).Throughout serves (fun _ _ => True)
      (fun turn _ _ => ∀ effects, turn.result = .ok effects →
        Follows (.finished username outcome) effects) past s := by
  by_cases awaited : state = .loading username
  · subst awaited
    refine (awaited_effects username outcome).mono_end ?_
    intro turn past s few effects led
    rcases few effects led with rfl | ⟨alert, rfl⟩
    · exact .ends username outcome
    · exact .reports username outcome alert
  · simp only [finish, awaited, if_false]
    intro effects led
    cases led
    exact .nothing _

theorem unlink_effects :
    unlink.run.Throughout serves (fun _ _ => True)
      (fun result _ _ => ∀ effects next, result = .ok (effects, next) → effects = [.render])
      past s := by
  refine throughout_onward (fun failure _ _ effects next led => by cases led) fun _ past s => ?_
  refine throughout_onward (fun failure _ _ effects next led => by cases led) fun _ past s => ?_
  refine throughout_onward (fun failure _ _ effects next led => by cases led) fun state past s => ?_
  intro effects next led
  cases led
  rfl

theorem click_effects (state : State) :
    (click state).Throughout serves (fun _ _ => True)
      (fun turn _ _ => ∀ effects, turn.result = .ok effects → Follows .clicked effects) past s := by
  cases state with
  | unlinked => intro effects led; cases led; exact .asks
  | loading username => intro effects led; cases led; exact .nothing _
  | linked username =>
      refine throughout_do.mpr (unlink_effects.mono_end ?_)
      intro result past s rendered
      cases result with
      | ok both => intro effects led; cases led; rw [rendered both.1 both.2 rfl]; exact .unlinks
      | error failure => intro effects led; cases led

theorem submit_effects (state : State) (text : String) {effects : List Effect}
    (led : (submit state text).result = .ok effects) : Follows (.submitted text) effects := by
  rcases submit_cases state text with same | ⟨_, name, _, same⟩ | ⟨name, same⟩
  · rw [same] at led; cases led; exact .nothing _
  · rw [same] at led; cases led; exact .starts text name
  · rw [same] at led; cases led; exact .rejects text name

theorem handle_effects (state : State) (event : Event) :
    (handle state event).Throughout serves (fun _ _ => True)
      (fun turn _ _ => ∀ effects, turn.result = .ok effects → Follows event effects) past s := by
  cases event with
  | clicked => exact click_effects state
  | submitted text => exact fun effects led => submit_effects state text led
  | dismissed => intro effects led; cases led; exact .nothing _
  | finished username outcome => exact finish_effects state username outcome

end

end LinkedKeys.Control

namespace LinkedKeys.Control.Session

open Store Script

abbrev Past := List (Exchange Call Call.Answer)

-- Only store calls bear on the parameters. A prompt may bring any text, and a fetch end in any way.
def Served (refusable : Call → Prop) : (c : Call) → Params → c.Answer → Params → Prop
  | .store call, p, answer, q => Store.Served (fun call => refusable (.store call)) call p answer q
  | .render view, p, answer, q => (answer = .ok () ∨ refusable (.render view)) ∧ q = p
  | .prompt title, p, answer, q => ((∃ text, answer = .ok text) ∨ refusable (.prompt title)) ∧ q = p
  | .alert alert, p, answer, q => (answer = .ok () ∨ refusable (.alert alert)) ∧ q = p
  | .fetch _, p, _, q => q = p

theorem refuses_store (r : Rehearsal) (kind : Screen) : (r.refuses kind).2.store = r.store := by
  unfold Rehearsal.refuses
  split <;> rfl

theorem draw_store (r : Rehearsal) (kind : Screen) (entry : Asked) :
    (r.draw kind entry).2.store = r.store := by
  have kept := refuses_store (r.log entry) kind
  unfold Rehearsal.draw
  split <;> rename_i refused <;> rw [refused] at kept <;> exact kept

-- Planned surroundings answer a session in one of the ways that any surroundings may.
theorem rehearsal_served (c : Call) (r : Rehearsal) :
    Served (fun _ => True) c r.store.params (r.answer c).1 (r.answer c).2.store.params := by
  cases c with
  | store call => exact Faulty.served call r.store
  | render view => exact ⟨.inr trivial, congrArg Faulty.params (draw_store r _ _)⟩
  | prompt title =>
      refine ⟨.inr trivial, congrArg Faulty.params ?_⟩
      have kept := refuses_store (r.log (.prompt title)) .prompt
      simp only [Rehearsal.answer]
      split <;> rename_i refused <;> rw [refused] at kept <;> exact kept
  | alert alert => exact ⟨.inr trivial, congrArg Faulty.params (draw_store r _ _)⟩
  | fetch username => rfl

theorem rehearsal_course {α : Type} (script : Script α) (r : Rehearsal) :
    ∃ past, Leads (Served fun _ => True) script r.store.params past
      (.done (script.run Rehearsal.answer r).1) (script.run Rehearsal.answer r).2.store.params :=
  run_leads (fun r => r.store.params) rehearsal_served script r

def lift (e : Exchange Store.Call Store.Call.Answer) : Exchange Call Call.Answer :=
  ⟨.store e.call, e.answer⟩

section

variable {σ α : Type} {serves : (c : Call) → σ → c.Answer → σ → Prop} {during : Past → σ → Prop}

theorem throughout_storing {script : Store.Script α} {after : α → Past → σ → Prop} {past : Past}
    {now : Store.Past} {s : σ} :
    (storing script).Throughout serves during after (past ++ now.map lift) s ↔
      script.Throughout (fun c => serves (.store c)) (fun now => during (past ++ now.map lift))
        (fun a now => after a (past ++ now.map lift)) now s := by
  induction script generalizing now s with
  | done a => exact Iff.rfl
  | ask c next ih =>
      refine and_congr_right fun _ => forall_congr' fun answer => forall_congr' fun t => ?_
      refine imp_congr_right fun _ => ?_
      have follow := @ih answer (now ++ [⟨c, answer⟩]) t
      rw [List.map_append, ← List.append_assoc] at follow
      exact follow

theorem throughout_take {event : Event} {past : Past} {p : σ}
    {after : Except Failure (List Effect) × Session → Past → σ → Prop} {s : Session} :
    (take s event).Throughout serves during after past p ↔
      (handle s.state event).Throughout (fun c => serves (.store c))
        (fun now => during (past ++ now.map lift))
        (fun turn now => after (turn.result, { s with state := turn.state }) (past ++ now.map lift))
        [] p := by
  refine throughout_do.trans ?_
  rw [← throughout_storing, List.map_nil, List.append_nil]
  rfl

end

theorem weight_pos (effect : Effect) : 0 < weight effect := by
  cases effect <;> simp [weight]

theorem load_append (queue more : List Effect) : load (queue ++ more) = load queue + load more := by
  induction queue with
  | nil => simp [load]
  | cons effect rest ih => rw [List.cons_append, load, load, ih]; omega

-- The most that an event can lead to.
def heaviest : Event → Nat
  | .clicked => 5
  | .submitted _ => 4
  | .dismissed => 0
  | .finished _ _ => 2

theorem follows_load {event : Event} {effects : List Effect} (follows : Follows event effects) :
    load effects ≤ heaviest event := by
  cases follows <;> simp [load, weight, heaviest]

theorem take_lighter (s : Session) {event : Event} {bound : Nat} {past : Past}
    (lighter : heaviest event < bound) :
    (take s event).Throughout (fun _ (_ : Unit) _ _ => True) (fun _ _ => True)
      (fun result _ _ => ∀ next, result.1 = .ok next → load next < bound) past () := by
  refine throughout_take.mpr ((handle_effects s.state event).mono_end ?_)
  intro turn now _ follow next led
  exact Nat.lt_of_le_of_lt (follows_load (follow next led)) lighter

-- Whatever the answers, an effect weighs more than all it leads to.
theorem perform_lighter (effect : Effect) (s : Session) {past : Past} :
    (perform s effect).Throughout (fun _ (_ : Unit) _ _ => True) (fun _ _ => True)
      (fun result _ _ => ∀ next, result.1 = .ok next → load next < weight effect) past () := by
  cases effect with
  | prompt =>
      refine ⟨trivial, fun answer _ _ => ?_⟩
      cases answer with
      | error failure => intro next led; cases led
      | ok answer =>
          cases answer with
          | none => exact take_lighter _ (by simp [heaviest, weight])
          | some text => exact take_lighter _ (by simp [heaviest, weight])
  | fetch username => exact ⟨trivial, fun outcome _ _ => take_lighter _ (by simp [heaviest, weight])⟩
  | alert alert =>
      refine ⟨trivial, fun answer _ _ => ?_⟩
      cases answer with
      | error failure => intro next led; cases led
      | ok shown => intro next led; cases led; simp [load, weight]
  | render =>
      refine ⟨trivial, fun answer _ _ => ?_⟩
      cases answer with
      | error failure => intro next led; cases led
      | ok shown => intro next led; cases led; simp [load, weight]

-- Two bounds that both reach the load of the queue let the same effects be performed.
theorem performFirst_enough {n m : Nat} {queue : List Effect} {s : Session}
    (enough : load queue ≤ n) (more : load queue ≤ m) :
    performFirst n queue s = performFirst m queue s := by
  induction n generalizing m queue s with
  | zero =>
      cases queue with
      | nil => cases m <;> rfl
      | cons effect rest =>
          have heavy := weight_pos effect
          simp only [load] at enough
          omega
  | succ n ih =>
      cases queue with
      | nil => cases m <;> rfl
      | cons effect rest =>
          have heavy := weight_pos effect
          simp only [load] at enough more
          obtain ⟨m, rfl⟩ : ∃ k, m = k + 1 := ⟨m - 1, by omega⟩
          refine bind_congr [] ((perform_lighter effect s).mono_end ?_)
          rintro ⟨result, s⟩ now _ lighter
          cases result with
          | error failure => rfl
          | ok next =>
              have light := lighter next rfl
              exact ih (by rw [load_append]; omega) (by rw [load_append]; omega)

-- The bound never cuts a queue short, so a queue is worked off one effect at a time.
theorem performAll_cons (effect : Effect) (queue : List Effect) (s : Session) :
    performAll (effect :: queue) s = (do
      let (result, s) ← perform s effect
      match result with
      | .error failure => return (.error failure, s)
      | .ok next => performAll (queue ++ next) s) := by
  have heavy := weight_pos effect
  have bound : load (effect :: queue) = (weight effect - 1 + load queue) + 1 := by
    rw [load]; omega
  rw [performAll, bound]
  refine bind_congr [] ((perform_lighter effect s).mono_end ?_)
  rintro ⟨result, s⟩ now _ lighter
  cases result with
  | error failure => rfl
  | ok next =>
      have light := lighter next rfl
      exact performFirst_enough (by rw [load_append]; omega) (Nat.le_refl _)

theorem throughout_performAll {σ : Type} {serves : (c : Call) → σ → c.Answer → σ → Prop}
    {during : Past → σ → Prop} {after : Except Failure Unit × Session → Past → σ → Prop}
    {effect : Effect} {queue : List Effect} {s : Session} {past : Past} {p : σ} :
    (performAll (effect :: queue) s).Throughout serves during after past p ↔
      (perform s effect).Throughout serves during (fun
        | (.ok next, s) => (performAll (queue ++ next) s).Throughout serves during after
        | (.error failure, s) => after (.error failure, s)) past p := by
  rw [performAll_cons]
  refine throughout_do.trans (throughout_congr fun result past p => ?_)
  obtain ⟨result, s⟩ := result
  cases result <;> exact Iff.rfl

-- What every event keeps, of the state and the parameters together, a whole click keeps.
section

variable {refusable : Call → Prop} {kept : State → Params → Prop}
  (event_keeps : ∀ state event p, kept state p →
    (handle state event).Throughout (Store.Served fun call => refusable (.store call))
      (fun _ _ => True) (fun turn _ q => kept turn.state q) [] p)
  {s : Session} {past : Past} {p : Params}

include event_keeps

theorem take_keeps {event : Event} (holds : kept s.state p) :
    (take s event).Throughout (Served refusable) (fun _ _ => True) (fun r _ q => kept r.2.state q)
      past p :=
  throughout_take.mpr (event_keeps s.state event p holds)

theorem perform_keeps {effect : Effect} (holds : kept s.state p) :
    (perform s effect).Throughout (Served refusable) (fun _ _ => True)
      (fun r _ q => kept r.2.state q) past p := by
  cases effect with
  | prompt =>
      refine ⟨trivial, fun answer q served => ?_⟩
      obtain ⟨_, rfl⟩ := served
      cases answer with
      | error failure => exact holds
      | ok answer =>
          cases answer with
          | none => exact take_keeps event_keeps holds
          | some text => exact take_keeps event_keeps holds
  | fetch username =>
      refine ⟨trivial, fun outcome q served => ?_⟩
      obtain rfl := served
      exact take_keeps event_keeps holds
  | alert alert =>
      refine ⟨trivial, fun answer q served => ?_⟩
      obtain ⟨_, rfl⟩ := served
      cases answer with
      | error failure => exact holds
      | ok shown => exact holds
  | render =>
      refine ⟨trivial, fun answer q served => ?_⟩
      obtain ⟨_, rfl⟩ := served
      exact holds

theorem performFirst_keeps {n : Nat} {queue : List Effect} (holds : kept s.state p) :
    (performFirst n queue s).Throughout (Served refusable) (fun _ _ => True)
      (fun r _ q => kept r.2.state q) past p := by
  induction n generalizing queue s past p with
  | zero => exact holds
  | succ n ih =>
      cases queue with
      | nil => exact holds
      | cons effect rest =>
          refine throughout_do.mpr ((perform_keeps event_keeps holds).mono_end ?_)
          rintro ⟨result, s⟩ past p holds
          cases result with
          | error failure => exact holds
          | ok next => exact ih holds

theorem click_keeps (holds : kept s.state p) :
    (click s).Throughout (Served refusable) (fun _ _ => True) (fun r _ q => kept r.2.state q) past p := by
  have forgotten : kept ({ s with lastAlert := none } : Session).state p := holds
  refine throughout_do.mpr ((take_keeps event_keeps forgotten).mono_end ?_)
  rintro ⟨result, s⟩ past p holds
  cases result with
  | error failure => exact holds
  | ok effects => exact performFirst_keeps event_keeps holds

end

end LinkedKeys.Control.Session

import LinkedKeys.Proofs.Control.Filing
import LinkedKeys.Proofs.Control.Finishing
import LinkedKeys.Proofs.Control.Traces

namespace LinkedKeys.Control

open Store Script

section

variable {C : Type} {A : C → Type} {α β : Type} {fails : Exchange C A → Option Failure}
  {past now : List (Exchange C A)} {result : Except Failure α}

-- A failure is that of a call that was made.
def Blamed (fails : Exchange C A → Option Failure) (result : Except Failure α)
    (past : List (Exchange C A)) : Prop :=
  ∀ failure, result = .error failure → ∃ made ∈ past, fails made = some failure

theorem blamed_ok (a : α) : Blamed fails (.ok a) past := by
  intro failure failed
  cases failed

theorem blamed_last {c : C} {answer : A c} {failure : Failure}
    (refused : fails ⟨c, answer⟩ = some failure) :
    Blamed fails (.error failure : Except Failure α) (past ++ [⟨c, answer⟩]) := by
  intro other failed
  cases failed
  exact ⟨_, List.mem_append_right _ List.mem_cons_self, refused⟩

theorem blamed_more (blamed : Blamed fails result past) (longer : past ⊆ now) :
    Blamed fails result now := by
  intro failure failed
  obtain ⟨made, among, refused⟩ := blamed failure failed
  exact ⟨made, longer among, refused⟩

-- A failure that is handed on, whatever the result would have been.
theorem blamed_on {failure : Failure} (blamed : Blamed fails (.error failure : Except Failure α) past) :
    Blamed fails (.error failure : Except Failure β) past := by
  intro other failed
  cases failed
  exact blamed failure rfl

theorem blamed_map (blamed : Blamed fails result past) (f : α → β) :
    Blamed fails (result.map f) past := by
  cases result with
  | ok a => exact blamed_ok (f a)
  | error failure => exact blamed_on blamed

end

section

variable {σ α β : Type} {serves : (c : Store.Call) → σ → c.Answer → σ → Prop} {past : Store.Past} {s : σ}

abbrev Blames (serves : (c : Store.Call) → σ → c.Answer → σ → Prop) (attempt : Store.Attempt α)
    (past : Store.Past) (s : σ) : Prop :=
  attempt.run.Throughout serves (fun _ _ => True)
    (fun result now _ => Blamed Store.failure? result now) past s

theorem blames_pure (a : α) : Blames serves (pure a) past s := blamed_ok a

theorem blames_then {attempt : Store.Attempt α} {f : α → Store.Attempt β}
    (first : Blames serves attempt past s) (second : ∀ a now t, Blames serves (f a) now t) :
    Blames serves (attempt >>= f) past s := by
  apply throughout_then.mpr
  apply first.mono_end
  intro result now t blamed
  cases result with
  | ok a => exact second a now t
  | error failure => exact blamed_on blamed

theorem blames_get (key : String) : Blames serves (Store.get key) past s := by
  refine ⟨trivial, ?_⟩
  intro answer t _
  cases answer with
  | error failure => exact blamed_last rfl
  | ok answer => exact blamed_ok answer

theorem blames_put (key value : String) : Blames serves (Store.put key value) past s := by
  refine ⟨trivial, ?_⟩
  intro answer t _
  cases answer with
  | error failure => exact blamed_last rfl
  | ok answer => exact blamed_ok answer

theorem blames_remove (key : String) : Blames serves (Store.remove key) past s := by
  refine ⟨trivial, ?_⟩
  intro answer t _
  cases answer with
  | error failure => exact blamed_last rfl
  | ok answer => exact blamed_ok answer

theorem current_blames : Blames serves current past s := by
  apply blames_then
  · apply blames_then (blames_get _)
    intro keys now t
    exact blames_then (blames_get _) fun _ _ _ => blames_pure _
  · exact fun _ _ _ => blames_pure _

theorem unlink_blames : Blames serves unlink past s := by
  apply blames_then (blames_remove _)
  intro _ now t
  apply blames_then (blames_remove _)
  intro _ now t
  exact blames_then current_blames fun _ _ _ => blames_pure _

-- Where the keys cannot be stored, it is this failure that is handed on behind the restoring.
theorem persist_blames (username keys : String) : Blames serves (persist username keys) past s := by
  apply blames_then (blames_get _)
  intro previous now t
  apply blames_then (blames_put _ _)
  intro _ now t
  apply throughout_catch.mpr
  apply (blames_put _ _).mono_end
  intro result now t blamed
  cases result with
  | ok stored => exact blamed
  | error failure =>
      apply throughout_then.mpr
      apply throughout_catch.mpr
      apply (throughout_past _).mono_end
      intro restored later t longer
      cases restored with
      | ok done => exact blamed_more blamed longer
      | error other => exact blamed_more blamed longer

theorem conclude_blames (username : String) (outcome : Outcome) :
    Blames serves (conclude username outcome) past s := by
  cases outcome with
  | fetched body =>
      by_cases empty : body = ""
      · simp only [conclude, empty, if_true]
        exact blames_pure _
      · simp only [conclude, empty, if_false]
        exact blames_then (persist_blames _ _) fun _ _ _ => blames_pure _
  | timedOut => exact blames_pure _
  | notFound => exact blames_pure _
  | failed reason => exact blames_pure _

theorem handle_blames (state : State) (event : Event) :
    (handle state event).Throughout serves (fun _ _ => True)
      (fun turn now _ => Blamed Store.failure? turn.result now) past s := by
  cases event with
  | clicked =>
      cases state with
      | unlinked => exact blamed_ok _
      | loading username => exact blamed_ok _
      | linked username =>
          apply throughout_do.mpr
          apply unlink_blames.mono_end
          intro result now t blamed
          cases result with
          | ok both => exact blamed_ok _
          | error failure => exact blamed_on blamed
  | submitted text =>
      change Blamed Store.failure? (submit state text).result past
      rcases submit_cases state text with same | ⟨_, name, _, same⟩ | ⟨name, same⟩
      all_goals rw [same]; exact blamed_ok _
  | dismissed => exact blamed_ok _
  | finished username outcome =>
      by_cases awaited : state = .loading username
      · simp only [handle, finish, awaited, if_true]
        apply throughout_do.mpr
        apply (conclude_blames username outcome).mono_end
        intro concluded now t first
        apply throughout_do.mpr
        apply ((throughout_past _).and current_blames).mono_end
        intro read later t both
        obtain ⟨longer, second⟩ := both
        cases read with
        | ok next => exact blamed_map (blamed_more first longer) _
        | error failure => exact blamed_on second
      · simp only [handle, finish, awaited, if_false]
        exact blamed_ok _

end

end LinkedKeys.Control

namespace LinkedKeys.Control.Session

open Script
open Files (Tree)
open Store.Directory (serve)

section

variable {σ : Type} {serves : (c : Call) → σ → c.Answer → σ → Prop} {past : Past} {m : σ} {s : Session}

def failure? : Exchange Call Call.Answer → Option Failure
  | ⟨.store call, answer⟩ => Store.failure? ⟨call, answer⟩
  | ⟨.render _, .error failure⟩ => some failure
  | ⟨.prompt _, .error failure⟩ => some failure
  | ⟨.alert _, .error failure⟩ => some failure
  | _ => none

abbrev Blames {α : Type} (serves : (c : Call) → σ → c.Answer → σ → Prop)
    (script : Script (Except Failure α × Session)) (past : Past) (m : σ) : Prop :=
  script.Throughout serves (fun _ _ => True) (fun r now _ => Blamed failure? r.1 now) past m

theorem take_blames (event : Event) : Blames serves (take s event) past m := by
  apply throughout_take.mpr
  apply (handle_blames s.state event).mono_end
  intro turn now t blamed failure failed
  obtain ⟨made, among, refused⟩ := blamed failure failed
  exact ⟨lift made, List.mem_append_right _ (List.mem_map_of_mem among), refused⟩

theorem perform_blames (effect : Effect) : Blames serves (perform s effect) past m := by
  cases effect with
  | prompt =>
      refine ⟨trivial, ?_⟩
      intro answer t _
      cases answer with
      | error failure => exact blamed_last rfl
      | ok answer =>
          cases answer with
          | none => exact take_blames _
          | some text => exact take_blames _
  | fetch username => exact ⟨trivial, fun _ _ _ => take_blames _⟩
  | alert alert =>
      refine ⟨trivial, ?_⟩
      intro answer t _
      cases answer with
      | error failure => exact blamed_last rfl
      | ok shown => exact blamed_ok _
  | render =>
      refine ⟨trivial, ?_⟩
      intro answer t _
      cases answer with
      | error failure => exact blamed_last rfl
      | ok shown => exact blamed_ok _

theorem performFirst_blames (n : Nat) (effects : List Effect) :
    Blames serves (performFirst n effects s) past m := by
  induction n generalizing effects s past m with
  | zero => exact blamed_ok ()
  | succ n ih =>
      cases effects with
      | nil => exact blamed_ok ()
      | cons effect queue =>
          apply throughout_do.mpr
          apply (perform_blames effect).mono_end
          intro r now t blamed
          obtain ⟨result, s⟩ := r
          cases result with
          | ok next => exact ih _
          | error failure => exact blamed_on blamed

-- Whoever answers, a click makes up no failure of its own.
theorem click_blames (s : Session) : Blames serves (click s) past m := by
  apply throughout_do.mpr
  apply (take_blames _).mono_end
  intro r now t blamed
  obtain ⟨result, s⟩ := r
  cases result with
  | ok effects => exact performFirst_blames _ effects
  | error failure => exact blamed_on blamed

end

-- The failure of a call that the store refused.
def refused? : Exchange Call Call.Answer → Option Failure
  | ⟨.store call, answer⟩ => Store.failure? ⟨call, answer⟩
  | _ => none

-- The store keeps files in a directory. Nothing else that a click calls moves the tree.
def Housed (here : List String) (dir : String) : (c : Call) → Tree → c.Answer → Tree → Prop
  | .store call, t, answer, after => (answer, after) = serve here dir call t
  | .render _, t, _, after => after = t
  | .prompt _, t, _, after => after = t
  | .alert _, t, _, after => after = t
  | .fetch _, t, _, after => after = t

variable {here : List String} {dir username : String} {past : Past} {t : Tree} {s : Session}

-- The state is the one that the files stand for.
def Reads (here : List String) (dir : String) (t : Tree) (state : State) : Prop :=
  (accountIn here dir t).map State.ofAccount = .ok state

abbrev LeavesRead (here : List String) (dir : String) (script : Script (Except Failure Unit × Session))
    (past : Past) (t : Tree) : Prop :=
  script.Throughout (Housed here dir) (fun _ _ => True)
    (fun r _ after => r.1 = .ok () → Reads here dir after r.2.state) past t

theorem render_leaves (reads : Reads here dir t s.state) :
    LeavesRead here dir (performAll [.render] s) past t := by
  apply throughout_performAll.mpr
  refine ⟨trivial, ?_⟩
  intro answer after same
  obtain rfl := same
  cases answer with
  | error failure => exact fun ended => by cases ended
  | ok shown => exact fun _ => reads

theorem alert_leaves (alert : Alert) (reads : Reads here dir t s.state) :
    LeavesRead here dir (performAll [.alert alert, .render] s) past t := by
  apply throughout_performAll.mpr
  refine ⟨trivial, ?_⟩
  intro answer after same
  obtain rfl := same
  cases answer with
  | error failure => exact fun ended => by cases ended
  | ok shown => exact render_leaves reads

theorem finish_reads (username : String) (outcome : Outcome) {effects : List Effect}
    (led : ((finish (.loading username) username outcome).run (serve here dir) t).1.result =
      .ok effects) :
    Reads here dir ((finish (.loading username) username outcome).run (serve here dir) t).2
      ((finish (.loading username) username outcome).run (serve here dir) t).1.state := by
  rw [finish_serve (Prod.eta _).symm] at led ⊢
  generalize ((conclude username outcome).run.run (serve here dir) t) = concluded at led ⊢
  cases reads : accountIn here dir concluded.2 with
  | error failure =>
      rw [reads] at led
      cases led
  | ok account? =>
      rw [Reads, reads]
      rfl

-- An unlinking that goes well ends by reading the files.
theorem unlink_reads {after : Tree} {effects : List Effect} {next : State}
    (unlinked : unlink.run.run (serve here dir) t = (.ok (effects, next), after)) :
    Reads here dir after next := by
  obtain ⟨_, keyless, _, unlinked⟩ := run_then_ok unlinked
  obtain ⟨_, nameless, _, unlinked⟩ := run_then_ok unlinked
  obtain ⟨state, later, read, ended⟩ := run_then_ok unlinked
  rw [current_serve] at read
  cases ended
  obtain ⟨reads, rfl⟩ := Prod.mk.inj read
  exact reads

theorem clicked_reads (username : String) {effects : List Effect}
    (led : ((handle (.linked username) .clicked).run (serve here dir) t).1.result = .ok effects) :
    Reads here dir ((handle (.linked username) .clicked).run (serve here dir) t).2
      ((handle (.linked username) .clicked).run (serve here dir) t).1.state := by
  rw [handle, Control.click, run_do] at led ⊢
  generalize unlinked : unlink.run.run (serve here dir) t = ended at led ⊢
  obtain ⟨result, after⟩ := ended
  cases result with
  | error failure => cases led
  | ok both => exact unlink_reads unlinked

theorem fetch_leaves (awaits : s.state = .loading username) :
    LeavesRead here dir (performAll [.fetch username] s) past t := by
  apply throughout_performAll.mpr
  refine ⟨trivial, ?_⟩
  intro outcome after same
  obtain rfl := same
  apply throughout_take.mpr
  rw [awaits]
  have finished : (handle (.loading username) (.finished username outcome)).Throughout
      (fun c => Housed here dir (.store c)) (fun _ _ => True)
      (fun turn _ later => ∀ effects, turn.result = .ok effects → Reads here dir later turn.state)
      [] after := throughout_run (fun _ _ _ _ served => served) fun _ => finish_reads username outcome
  apply (finished.and (awaited_effects username outcome)).mono_end
  intro turn now later both
  obtain ⟨reads, few⟩ := both
  obtain ⟨state, result⟩ := turn
  cases result with
  | error failure => exact fun ended => by cases ended
  | ok effects =>
      rcases few effects rfl with rfl | ⟨alert, rfl⟩
      · exact render_leaves (reads _ rfl)
      · exact alert_leaves alert (reads _ rfl)

theorem announce_leaves (awaits : s.state = .loading username) :
    LeavesRead here dir (performAll [.render, .fetch username] s) past t := by
  apply throughout_performAll.mpr
  refine ⟨trivial, ?_⟩
  intro answer after same
  obtain rfl := same
  cases answer with
  | error failure => exact fun ended => by cases ended
  | ok shown => exact fetch_leaves awaits

theorem prompt_leaves (reads : Reads here dir t s.state) :
    LeavesRead here dir (performAll [.prompt] s) past t := by
  apply throughout_performAll.mpr
  refine ⟨trivial, ?_⟩
  intro answer after same
  obtain rfl := same
  cases answer with
  | error failure => exact fun ended => by cases ended
  | ok answer =>
      cases answer with
      | none => exact throughout_take.mpr fun _ => reads
      | some text =>
          apply throughout_take.mpr
          rw [handle]
          rcases submit_cases s.state text with same | ⟨_, name, _, same⟩ | ⟨name, same⟩
          · rw [same]
            exact fun _ => reads
          · rw [same]
            exact announce_leaves rfl
          · rw [same]
            exact alert_leaves _ reads

-- A click that goes well leaves what is to be read off the files, whoever else answers.
theorem click_leaves (reads : Reads here dir t s.state) : LeavesRead here dir (click s) past t := by
  apply throughout_do.mpr
  apply throughout_take.mpr
  cases state : s.state with
  | unlinked =>
      rw [state] at reads
      exact prompt_leaves reads
  | loading username =>
      rw [state] at reads
      exact fun _ => reads
  | linked username =>
      have left : (handle (.linked username) .clicked).Throughout
          (fun c => Housed here dir (.store c)) (fun _ _ => True)
          (fun turn _ later => ∀ effects, turn.result = .ok effects → Reads here dir later turn.state)
          [] t := throughout_run (fun _ _ _ _ served => served) fun _ => clicked_reads username
      apply (left.and (unlinking_settles username)).mono_end
      intro turn now later both
      obtain ⟨reads, settles⟩ := both
      obtain ⟨state, result⟩ := turn
      cases result with
      | error failure => exact fun ended => by cases ended
      | ok effects =>
          obtain ⟨rfl, _⟩ := settles effects rfl
          exact render_leaves (reads _ rfl)

end LinkedKeys.Control.Session

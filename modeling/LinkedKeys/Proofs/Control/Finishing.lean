import LinkedKeys.Proofs.Control.Filing
import LinkedKeys.Proofs.Control.Racing
import Mathlib.Data.List.Chain

namespace LinkedKeys.Store

variable {p : Params} {key : String} {calls : List Call}

def failure? : Exchange Call Call.Answer → Option Failure
  | ⟨.get _, .error failure⟩ => some failure
  | ⟨.put _ _, .error failure⟩ => some failure
  | ⟨.remove _, .error failure⟩ => some failure
  | ⟨.get _, .ok _⟩ => none
  | ⟨.put _ _, .ok _⟩ => none
  | ⟨.remove _, .ok _⟩ => none

theorem failure?_reply (c : Call) (p : Params) : failure? ⟨c, c.reply p⟩ = none := by
  cases c <;> rfl

theorem failure?_refusal (c : Call) (failure : Failure) :
    failure? ⟨c, c.refusal failure⟩ = some failure := by
  cases c <;> rfl

theorem carry_value?_other {c : Call} (other : c.key ≠ key) :
    (c.carry p).value? key = p.value? key := by
  cases c with
  | get name => rfl
  | put name value => exact Params.value?_insert_other p value (Ne.symm other)
  | remove name => exact Params.value?_erase_other p (Ne.symm other)

theorem after_value?_other (others : ∀ c ∈ calls, c.key ≠ key) :
    (p.after calls).value? key = p.value? key := by
  induction calls generalizing p with
  | nil => rfl
  | cons c rest ih =>
      obtain ⟨first, later⟩ := List.forall_mem_cons.mp others
      rw [Params.after_cons, ih later]
      exact carry_value?_other first

theorem mem_writes {past : Past} {c : Call} (among : c ∈ writes past) : ∃ made ∈ past, made.call = c := by
  obtain ⟨made, there, wrote⟩ := List.mem_filterMap.mp among
  refine ⟨made, there, ?_⟩
  unfold written at wrote
  split at wrote <;> cases wrote <;> rfl

end LinkedKeys.Store

namespace LinkedKeys.Control

open Store Script Account

variable {refusable : Store.Call → Prop} {p q start m : Params} {past before : Past} {state : State}
  {username keys : String} {outcome : Outcome} {turn : Turn}

-- The state is read by the keys first and by the username right behind them.
def reading (p : Params) : Past :=
  [⟨.get keysKey, .ok (p.read keysKey)⟩, ⟨.get usernameKey, .ok (p.read usernameKey)⟩]

theorem mem_reading {made : Exchange Store.Call Store.Call.Answer} (among : made ∈ reading p) :
    failure? made = none ∧ made.call.writes = false ∧ made.call.key ∈ [usernameKey, keysKey] := by
  simp only [reading, List.mem_cons, List.not_mem_nil, or_false] at among
  rcases among with rfl | rfl
  · exact ⟨rfl, rfl, by simp [Call.key]⟩
  · exact ⟨rfl, rfl, by simp [Call.key]⟩

-- Reading the state again makes these two calls, or stops at the one that was refused.
inductive ReadAgain (p : Params) (past : Past) : Past → Except Failure State → Prop where
  | answered : ReadAgain p past (past ++ reading p) (.ok (State.ofAccount (held p)))
  | keysRefused (failure : Failure) :
      ReadAgain p past (past ++ [⟨.get keysKey, .error failure⟩]) (.error failure)
  | usernameRefused (failure : Failure) : ReadAgain p past
      (past ++ [⟨.get keysKey, .ok (p.read keysKey)⟩, ⟨.get usernameKey, .error failure⟩])
      (.error failure)

theorem current_calls : current.run.Throughout (Served refusable) (fun _ _ => True)
    (fun result now q => q = p ∧ ReadAgain p past now result) past p := by
  simp only [current, Account.stored, throughout_then, throughout_get, throughout_pure, true_and,
    List.append_assoc, List.singleton_append]
  refine ⟨⟨.answered, ?_⟩, ?_⟩
  · intro may failure
    exact .usernameRefused failure
  · intro may failure
    exact .keysRefused failure

-- Storing a pair goes on to its two writes, or stops at the first call that was refused. Only where
-- this is the last of them is there anything to take back.
inductive Storing (p : Params) (username keys : String) :
    Past → Except Failure Unit → Params → Prop where
  | through : Storing p username keys
      [⟨.get usernameKey, .ok (p.read usernameKey)⟩, ⟨.put usernameKey username, .ok ()⟩,
        ⟨.put keysKey keys, .ok ()⟩] (.ok ())
      ((p.insert usernameKey username).insert keysKey keys)
  | unread (failure : Failure) :
      Storing p username keys [⟨.get usernameKey, .error failure⟩] (.error failure) p
  | unnamed (failure : Failure) : Storing p username keys
      [⟨.get usernameKey, .ok (p.read usernameKey)⟩, ⟨.put usernameKey username, .error failure⟩]
      (.error failure) p
  | unkeyed (failure : Failure) {answer q}
      (undone : Served (fun _ => True) (undo (p.read usernameKey)) (p.insert usernameKey username) answer q) :
      Storing p username keys
        [⟨.get usernameKey, .ok (p.read usernameKey)⟩, ⟨.put usernameKey username, .ok ()⟩,
          ⟨.put keysKey keys, .error failure⟩, ⟨undo (p.read usernameKey), answer⟩]
        (.error failure) q

theorem restore_calls (previous : String) : (restore previous).run.Throughout (Served fun _ => True)
    (fun _ _ => True) (fun _ now q => ∃ answer, Served (fun _ => True) (undo previous) p answer q ∧
      now = past ++ [⟨undo previous, answer⟩]) past p := by
  by_cases absent : previous = ""
  · have only : undo previous = .remove usernameKey := if_pos absent
    rw [restore, if_pos absent, only]
    refine throughout_remove.mpr ⟨trivial, ⟨_, .carried, rfl⟩, ?_⟩
    intro may failure
    exact ⟨_, .refused trivial failure, rfl⟩
  · have only : undo previous = .put usernameKey previous := if_neg absent
    rw [restore, if_neg absent, only]
    refine throughout_put.mpr ⟨trivial, ⟨_, .carried, rfl⟩, ?_⟩
    intro may failure
    exact ⟨_, .refused trivial failure, rfl⟩

theorem persist_calls (username keys : String) :
    (persist username keys).run.Throughout (Served fun _ => True) (fun _ _ => True)
      (fun result now q => Storing p username keys now result q) [] p := by
  simp only [persist, throughout_then, throughout_get, throughout_put, throughout_catch,
    throughout_pure, throughout_throw, true_and, List.nil_append, List.cons_append]
  refine ⟨⟨⟨.through, ?_⟩, ?_⟩, ?_⟩
  · intro may failure
    apply (restore_calls _).mono_end
    intro result now q ended
    obtain ⟨answer, undone, rfl⟩ := ended
    cases result <;> exact .unkeyed failure undone
  · intro may failure
    exact .unnamed failure
  · intro may failure
    exact .unread failure

-- The turn that ends a fetch, when what was concluded and what was read again are known.
def closing (username : String) (concluded : Except Failure (List Effect)) :
    Except Failure State → Turn
  | .ok next => ⟨next, concluded.map (· ++ [.render])⟩
  | .error failure => ⟨.loading username, .error failure⟩

theorem handle_fetched_calls (username : String) (full : keys ≠ "") :
    (handle (.loading username) (.finished username (.fetched keys))).Throughout
      (Served fun _ => True) (fun _ _ => True)
      (fun turn now q => ∃ mid stored read, Storing p username keys mid stored q ∧
        ReadAgain q mid now read ∧ turn = closing username (stored.map fun _ => []) read) [] p := by
  simp only [handle, finish, if_true, conclude, full, if_false]
  apply throughout_do.mpr
  apply throughout_then.mpr
  apply (persist_calls username keys).mono_end
  intro stored mid q ended
  cases stored with
  | ok done =>
      apply throughout_do.mpr
      apply current_calls.mono_end
      intro read now q' again
      obtain ⟨rfl, again⟩ := again
      cases read <;> exact ⟨mid, _, _, ended, again, rfl⟩
  | error failure =>
      apply throughout_do.mpr
      apply current_calls.mono_end
      intro read now q' again
      obtain ⟨rfl, again⟩ := again
      cases read <;> exact ⟨mid, _, _, ended, again, rfl⟩

theorem handle_rejected_calls {alert : Alert} (rejected : outcome.alert? username = some alert) :
    (handle (.loading username) (.finished username outcome)).Throughout
      (Served fun _ => True) (fun _ _ => True)
      (fun turn now q => q = p ∧ ∃ read, ReadAgain p [] now read ∧
        turn = closing username (.ok [.alert alert]) read) [] p := by
  simp only [handle, finish, if_true, conclude_rejected rejected]
  apply throughout_do.mpr
  apply throughout_pure.mpr
  apply throughout_do.mpr
  apply current_calls.mono_end
  intro read now q again
  obtain ⟨rfl, again⟩ := again
  cases read <;> exact ⟨rfl, _, again, rfl⟩

-- Refusals that neither meet the reading of the state at the end, nor the call that takes a username
-- back. Nothing but that reading asks for the keys, and right behind them it asks for the username;
-- a username is taken back right behind a put that was refused.
structure Eased (past : Past) : Prop where
  keys : ∀ made ∈ past, made.call = .get keysKey → failure? made = none
  behind : past.IsChain fun first second =>
    first.call = .get keysKey ∨ failure? first ≠ none → failure? second = none

theorem Eased.next {front rest : Past} {first second : Exchange Store.Call Store.Call.Answer}
    (eased : Eased (front ++ first :: second :: rest))
    (spared : first.call = .get keysKey ∨ failure? first ≠ none) : failure? second = none :=
  (List.isChain_append_cons_cons.mp eased.behind).2.1 spared

theorem eased_read {mid now : Past} {read : Except Failure State} (eased : Eased now)
    (again : ReadAgain q mid now read) :
    read = .ok (State.ofAccount (held q)) ∧ now = mid ++ reading q := by
  cases again with
  | answered => exact ⟨rfl, rfl⟩
  | keysRefused failure =>
      have spared := eased.keys ⟨.get keysKey, .error failure⟩ (by simp) rfl
      cases spared
  | usernameRefused failure =>
      have spared := eased.next (.inl rfl)
      cases spared

-- A username that is taken back leaves every parameter to be read as it was.
theorem undone_read (p : Params) (username key : String) :
    ((undo (p.read usernameKey)).carry (p.insert usernameKey username)).read key = p.read key := by
  by_cases own : key = usernameKey
  · subst own
    by_cases absent : p.read usernameKey = ""
    · simp [undo, absent, Call.carry]
    · simp [undo, absent, Call.carry]
  · by_cases absent : p.read usernameKey = ""
    · simp [undo, absent, Call.carry, own]
    · simp [undo, absent, Call.carry, own]

-- What storing a pair comes to when taking the username back is granted: both parameters are new and
-- nothing was refused, or both are read as before and one call was refused.
inductive Stored (p : Params) (username keys : String) (mid : Past) :
    Except Failure Unit → Params → Prop where
  | whole {q : Params} (name : q.read usernameKey = username) (blob : q.read keysKey = keys)
      (granted : ∀ made ∈ mid, failure? made = none) : Stored p username keys mid (.ok ()) q
  | nothing {q : Params} {failure : Failure} (name : q.read usernameKey = p.read usernameKey)
      (blob : q.read keysKey = p.read keysKey)
      (refused : ∃ made ∈ mid, failure? made = some failure)
      (only : ∀ made ∈ mid, ∀ other, failure? made = some other → other = failure ∧
        made.call ∈ [.get usernameKey, .put usernameKey username, .put keysKey keys]) :
      Stored p username keys mid (.error failure) q

theorem storing_stored {mid rest : Past} {stored : Except Failure Unit} (eased : Eased (mid ++ rest))
    (storing : Storing p username keys mid stored q) : Stored p username keys mid stored q := by
  cases storing with
  | through => exact .whole (by simp) (by simp) (by simp [failure?])
  | unread failure => exact .nothing rfl rfl (by simp [failure?]) (by simp [failure?])
  | unnamed failure => exact .nothing rfl rfl (by simp [failure?]) (by simp [failure?])
  | unkeyed failure undone =>
      cases undone with
      | refused may other =>
          have behind : Eased ([⟨.get usernameKey, .ok (p.read usernameKey)⟩,
            ⟨.put usernameKey username, .ok ()⟩] ++ _ :: _ :: _) := eased
          have spared := behind.next (.inr nofun)
          rw [failure?_refusal] at spared
          cases spared
      | carried =>
          refine .nothing (undone_read p username _) (undone_read p username _) ?_ ?_
          · exact ⟨⟨.put keysKey keys, .error failure⟩, by simp, rfl⟩
          · intro made among other failed
            simp only [List.mem_cons, List.not_mem_nil, or_false] at among
            rcases among with rfl | rfl | rfl | rfl
            · cases failed
            · cases failed
            · cases failed
              exact ⟨rfl, by simp⟩
            · rw [failure?_reply] at failed
              cases failed

theorem undo_key (previous : String) : (undo previous).key = usernameKey := by
  unfold undo
  split <;> rfl

theorem storing_own {mid : Past} {stored : Except Failure Unit}
    (storing : Storing p username keys mid stored q) :
    ∀ made ∈ mid, made.call.key ∈ [usernameKey, keysKey] := by
  cases storing with
  | through => simp [Call.key]
  | unread failure => simp [Call.key]
  | unnamed failure => simp [Call.key]
  | unkeyed failure undone =>
      intro made among
      simp only [List.mem_cons, List.not_mem_nil, or_false] at among
      rcases among with rfl | rfl | rfl | rfl
      · simp [Call.key]
      · simp [Call.key]
      · simp [Call.key]
      · simp [undo_key]

-- What the end of an awaited fetch comes to.
structure Finished (p : Params) (username : String) (outcome : Outcome) (past : Past) (turn : Turn)
    (q : Params) : Prop where
  read : turn.state = State.ofAccount (held q)
  stored : ∀ keys, outcome = .fetched keys → keys ≠ "" → (∀ made ∈ past, failure? made = none) →
    q.read usernameKey = username ∧ q.read keysKey = keys ∧ turn = ⟨.linked username, .ok [.render]⟩
  failed : ∀ keys, outcome = .fetched keys → keys ≠ "" →
    ∀ made ∈ past, ∀ failure, failure? made = some failure →
      made.call ∈ [.get usernameKey, .put usernameKey username, .put keysKey keys] ∧
      turn.result = .error failure ∧
      q.read usernameKey = p.read usernameKey ∧ q.read keysKey = p.read keysKey
  told : (∀ keys, outcome = .fetched keys → keys = "") →
    ∃ alert, outcome.alert? username = some alert ∧ turn.result = .ok [.alert alert, .render] ∧
      ∀ made ∈ past, made.call.writes = false
  own : ∀ made ∈ past, made.call.key ∈ [usernameKey, keysKey]
  beside : ∀ key, key ∉ [usernameKey, keysKey] → q.value? key = p.value? key

theorem own_beside {turn : Script Store.Call Store.Call.Answer Turn}
    {rest : Script Store.Call Store.Call.Answer Turn}
    (course : Leads (Served refusable) turn p past rest q)
    (own : ∀ made ∈ past, made.call.key ∈ [usernameKey, keysKey]) (key : String)
    (other : key ∉ [usernameKey, keysKey]) : q.value? key = p.value? key := by
  rw [leads_after course]
  apply after_value?_other
  intro c among same
  obtain ⟨made, there, rfl⟩ := mem_writes among
  exact other (same ▸ own made there)

theorem fetched_finished (named : username ≠ "") (full : keys ≠ "") (eased : Eased past)
    (course : Leads (Served fun _ => True)
      (handle (.loading username) (.finished username (.fetched keys))) p past (.done turn) q) :
    Finished p username (.fetched keys) past turn q := by
  obtain ⟨mid, result, read, storing, again, rfl⟩ := (handle_fetched_calls username full).ending course
  obtain ⟨rfl, rfl⟩ := eased_read eased again
  have own : ∀ made ∈ mid ++ reading q, made.call.key ∈ [usernameKey, keysKey] := by
    intro made among
    rcases List.mem_append.mp among with first | again
    · exact storing_own storing made first
    · exact (mem_reading again).2.2
  have stored := storing_stored eased storing
  refine {
    read := rfl
    stored := ?_
    failed := ?_
    told := fun other => absurd (other keys rfl) full
    own := own
    beside := own_beside course own }
  · intro body same _ granted
    cases same
    cases stored with
    | whole name blob _ =>
        have now : held q = some ⟨username, keys⟩ :=
          held_eq_some.mpr ⟨by rw [name, blob], named, full⟩
        rw [now]
        exact ⟨name, blob, rfl⟩
    | nothing _ _ refused _ =>
        obtain ⟨made, among, failed⟩ := refused
        have spared := granted made (List.mem_append_left _ among)
        rw [failed] at spared
        cases spared
  · intro body same _ made among failure failed
    cases same
    have first : made ∈ mid := by
      rcases List.mem_append.mp among with first | again
      · exact first
      · rw [(mem_reading again).1] at failed
        cases failed
    cases stored with
    | whole _ _ granted =>
        rw [granted made first] at failed
        cases failed
    | nothing name blob _ only =>
        obtain ⟨rfl, known⟩ := only made first failure failed
        exact ⟨known, rfl, name, blob⟩

theorem rejected_finished {alert : Alert} (rejected : outcome.alert? username = some alert)
    (eased : Eased past) (course : Leads (Served fun _ => True)
      (handle (.loading username) (.finished username outcome)) p past (.done turn) q) :
    Finished p username outcome past turn q := by
  obtain ⟨rfl, read, again, rfl⟩ := (handle_rejected_calls rejected).ending course
  obtain ⟨rfl, whole⟩ := eased_read eased again
  rw [List.nil_append] at whole
  subst whole
  have unstored : ∀ keys, outcome = .fetched keys → keys = "" := by
    intro keys same
    by_contra full
    rw [same, Outcome.alert?, if_neg full] at rejected
    cases rejected
  have own : ∀ made ∈ reading q, made.call.key ∈ [usernameKey, keysKey] :=
    fun made among => (mem_reading among).2.2
  exact {
    read := rfl
    stored := fun keys same full => absurd (unstored keys same) full
    failed := fun keys same full => absurd (unstored keys same) full
    told := fun _ => ⟨alert, rejected, rfl, fun made among => (mem_reading among).2.1⟩
    own := own
    beside := own_beside course own }

theorem alert?_unstored (username : String) (unstored : ∀ keys, outcome = .fetched keys → keys = "") :
    ∃ alert, outcome.alert? username = some alert := by
  cases outcome with
  | fetched keys => exact ⟨.noKeys username, if_pos (unstored keys rfl)⟩
  | timedOut => exact ⟨.timedOut, rfl⟩
  | notFound => exact ⟨.userNotFound username, rfl⟩
  | failed reason => exact ⟨.requestFailed reason, rfl⟩

-- The store may hold anything by now, whatever the service was driven over. A service never awaits
-- a fetch without a name.
theorem fetch_all_or_nothing (driven : Driven (fun _ => True) start before state m)
    (course : Leads (Served fun _ => True) (handle state (.finished username outcome)) p past
      (.done turn) q) (eased : Eased past) :
    (state ≠ .loading username → past = [] ∧ turn = ⟨state, .ok []⟩ ∧ q = p) ∧
    (state = .loading username → Finished p username outcome past turn q) := by
  constructor
  · intro other
    simp only [handle, finish, other, if_false] at course
    obtain ⟨none, same, kept⟩ := leads_done course
    cases same
    exact ⟨none, rfl, kept⟩
  · intro awaited
    subst awaited
    by_cases stored : ∃ keys, outcome = .fetched keys ∧ keys ≠ ""
    · obtain ⟨keys, rfl, full⟩ := stored
      exact fetched_finished (awaited_named driven) full eased course
    · simp only [not_exists, not_and, not_not] at stored
      obtain ⟨alert, rejected⟩ := alert?_unstored username stored
      exact rejected_finished rejected eased course

-- bob is left without keys, and alice's keys cannot be put: bob is there again, and no keys are.
theorem refused_keys_leave_nothing : ∃ past turn q,
    Leads (Served fun _ => True) (handle (.loading "alice") (.finished "alice" (.fetched "ssh-rsa AAA")))
        (.ofList [(usernameKey, "bob")]) past (.done turn) q ∧
      Eased past ∧ turn.state = .unlinked ∧ turn.result = .error .notLinked ∧
      q.read usernameKey = "bob" ∧ q.read keysKey = "" := by
  have built : Leads (Served fun _ => True) current.run {} _ (.done (.ok .unlinked)) {} :=
    course_carried (course_carried .here)
  have asked : Leads (Served fun _ => True) (handle .unlinked (.submitted "alice")) {} []
      (.done ⟨.loading "alice", .ok [.render, .fetch "alice"]⟩) {} := .here
  have course : Leads (Served fun _ => True)
      (handle (.loading "alice") (.finished "alice" (.fetched "ssh-rsa AAA")))
      (.ofList [(usernameKey, "bob")]) _ (.done ⟨.unlinked, .error .notLinked⟩) _ :=
    course_carried (course_carried (course_refused .notLinked (course_carried
      (course_carried (course_carried .here))) trivial))
  have eased : Eased [⟨.get usernameKey, .ok "bob"⟩, ⟨.put usernameKey "alice", .ok ()⟩,
      ⟨.put keysKey "ssh-rsa AAA", .error .notLinked⟩, ⟨.put usernameKey "bob", .ok ()⟩,
      ⟨.get keysKey, .ok ""⟩, ⟨.get usernameKey, .ok "bob"⟩] :=
    ⟨by simp [failure?], by simp [failure?]⟩
  have finished := (fetch_all_or_nothing (.took (.built built) asked) course eased).2 rfl
  obtain ⟨_, failed, name, blob⟩ := finished.failed "ssh-rsa AAA" rfl (by decide)
    ⟨.put keysKey "ssh-rsa AAA", .error .notLinked⟩ (.tail _ (.tail _ (.head _))) .notLinked rfl
  exact ⟨_, _, _, course, eased, rfl, failed, name, blob⟩

end LinkedKeys.Control

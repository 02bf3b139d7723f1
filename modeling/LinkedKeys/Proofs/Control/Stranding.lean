import LinkedKeys.Proofs.Control.Effects

namespace LinkedKeys.Control.Session

open Store Script

variable {past : Past} {p q : Params} {s : Session} {username : String}

def Idle (s : Session) : Prop := ∀ username, s.state ≠ .loading username

def loadingView : View := ⟨.loading, false, ""⟩

-- The two refusals that cut a click off while it awaits a fetch.
def Cut (front : Past) : Exchange Call Call.Answer → Prop
  | ⟨.render view, .error _⟩ => view = loadingView
  | ⟨.store (.get _), .error _⟩ => ∃ username outcome, ⟨.fetch username, outcome⟩ ∈ front
  | _ => False

def Strands (past : Past) : Prop := ∃ front last, past = front ++ [last] ∧ Cut front last

theorem strands_snoc {front : Past} {last : Exchange Call Call.Answer} :
    Strands (front ++ [last]) ↔ Cut front last := by
  constructor
  · intro strands
    obtain ⟨front', last', same, cut⟩ := strands
    obtain ⟨rfl, one⟩ := List.append_inj' same rfl
    cases one
    exact cut
  · exact fun cut => ⟨front, last, rfl, cut⟩

theorem not_strands_stored (now : Store.Past) : ¬Strands (now.map lift) := by
  intro strands
  obtain ⟨front, last, same, cut⟩ := strands
  obtain ⟨first, second, rfl, rfl, alone⟩ := List.map_eq_append_iff.mp same
  obtain ⟨⟨call, answer⟩, rfl, rfl⟩ := List.map_eq_singleton_iff.mp alone
  cases call with
  | get key =>
      cases answer with
      | ok value => exact cut
      | error failure =>
          obtain ⟨username, outcome, fetched⟩ := cut
          obtain ⟨stored, _, other⟩ := List.mem_map.mp fetched
          cases other
  | put key value => exact cut
  | remove key => exact cut

-- How a click can end.
inductive Ending (past : Past) : Except Failure Unit × Session → Prop where
  | stranded (cut : Strands past) (failure : Failure) {s : Session} {username : String}
      (awaits : s.state = .loading username) : Ending past (.error failure, s)
  | settled (whole : ¬Strands past) (result : Except Failure Unit) {s : Session} (idle : Idle s) :
      Ending past (result, s)

abbrev Ends (script : Script (Except Failure Unit × Session)) (past : Past) (p : Params) : Prop :=
  script.Throughout (Served fun _ => True) (fun _ _ => True) (fun r now _ => Ending now r) past p

theorem view_idle (idle : Idle s) : s.state.view ≠ loadingView := by
  intro same
  cases state : s.state with
  | unlinked => rw [state] at same; cases same
  | loading username => exact idle username state
  | linked username => rw [state] at same; cases same

theorem render_ends (idle : Idle s) : Ends (performAll [.render] s) past p := by
  refine throughout_performAll.mpr ⟨trivial, fun answer q _ => ?_⟩
  cases answer with
  | error failure =>
      refine .settled ?_ _ idle
      rw [strands_snoc]
      exact view_idle idle
  | ok shown => exact .settled (mt strands_snoc.mp id) _ idle

theorem alert_ends {alert : Alert} (idle : Idle s) :
    Ends (performAll [.alert alert, .render] s) past p := by
  refine throughout_performAll.mpr ⟨trivial, fun answer q _ => ?_⟩
  cases answer with
  | error failure => exact .settled (mt strands_snoc.mp id) _ idle
  | ok shown => exact render_ends idle

-- Once the fetch is over, reading the parameters again decides: when it is answered the control
-- no longer awaits anything, and what is still shown cannot change that.
theorem fetch_ends (awaits : s.state = .loading username) :
    Ends (performAll [.fetch username] s) past p := by
  refine throughout_performAll.mpr ⟨trivial, fun outcome q _ => ?_⟩
  refine throughout_take.mpr ?_
  rw [awaits]
  refine ((handle_finished_ends username outcome).and (handle_effects _ _)).mono_end ?_
  rintro ⟨state, result⟩ now q ⟨⟨read, ended, moved⟩, follow⟩
  cases ended with
  | answered front =>
      simp only at moved
      have idle : Idle { s with state } := fun other => by simp [moved, ofAccount_idle]
      have whole : ¬Strands (past ++ [⟨.fetch username, outcome⟩] ++
          List.map lift (front ++ [⟨.get Account.usernameKey, .ok (q.read Account.usernameKey)⟩])) := by
        rw [List.map_append, ← List.append_assoc]
        exact mt strands_snoc.mp id
      cases result with
      | error failure => exact .settled whole _ idle
      | ok next =>
          cases follow next rfl with
          | nothing => exact .settled whole _ idle
          | ends => exact render_ends idle
          | reports _ _ alert => exact alert_ends idle
  | refused front may failure =>
      cases moved
      refine .stranded ?_ failure rfl
      rw [List.map_append, ← List.append_assoc]
      exact strands_snoc.mpr ⟨username, outcome, by simp⟩

theorem announce_ends (awaits : s.state = .loading username) :
    Ends (performAll [.render, .fetch username] s) past p := by
  refine throughout_performAll.mpr ⟨trivial, fun answer q _ => ?_⟩
  cases answer with
  | error failure =>
      refine .stranded (strands_snoc.mpr ?_) failure awaits
      simp [Cut, State.view, loadingView, awaits]
  | ok shown => exact fetch_ends awaits

theorem submit_ends (idle : Idle s) (text : String) (whole : ¬Strands past) :
    (take s (.submitted text)).Throughout (Served fun _ => True) (fun _ _ => True) (fun
      | (.ok next, s) => fun past p => Ends (performAll next s) past p
      | (.error failure, s) => fun now _ => Ending now (.error failure, s)) past p := by
  refine throughout_take.mpr ?_
  rw [handle]
  rcases submit_cases s.state text with same | ⟨_, name, _, same⟩ | ⟨name, same⟩
  · rw [same]; exact .settled (by simpa using whole) _ idle
  · rw [same]; exact announce_ends rfl
  · rw [same]; exact alert_ends idle

theorem prompt_ends (idle : Idle s) : Ends (performAll [.prompt] s) past p := by
  refine throughout_performAll.mpr ⟨trivial, fun answer q _ => ?_⟩
  have whole : ¬Strands (past ++ [⟨.prompt promptTitle, answer⟩]) :=
    mt strands_snoc.mp id
  cases answer with
  | error failure => exact .settled whole _ idle
  | ok answer =>
      cases answer with
      | none => exact throughout_take.mpr (.settled (by simpa using whole) _ idle)
      | some text => exact submit_ends idle text whole

theorem click_ends (idle : Idle s) : Ends (click s) [] p := by
  refine throughout_do.mpr (throughout_take.mpr ?_)
  cases state : s.state with
  | unlinked => exact prompt_ends fun other => by simp
  | loading username => exact absurd state (idle username)
  | linked username =>
      refine ((handle_clicked_ends username).and (handle_effects _ _)).mono_end ?_
      rintro ⟨next, result⟩ now q ⟨moved, follow⟩
      have idle : Idle ⟨next, none⟩ := by
        intro other
        rcases moved with ⟨rfl, _⟩ | ⟨rfl, _⟩
        · exact ofAccount_idle _ other
        · simp
      cases result with
      | error failure => exact .settled (not_strands_stored now) _ idle
      | ok effects =>
          cases follow effects rfl with
          | nothing => exact .settled (not_strands_stored now) _ idle
          | asks => exact prompt_ends idle
          | unlinks => exact render_ends idle

theorem click_loading (awaits : s.state = .loading username) :
    click s = .done (.ok (), { s with lastAlert := none }) := by
  obtain ⟨state, lastAlert⟩ := s
  cases awaits
  rfl

-- A click leaves the control awaiting a fetch exactly where one of the two refusals cut it off. It
-- has then failed, and the fetch that is awaited is over or was never begun.
theorem loading_iff_strands {s' : Session} {result : Except Failure Unit}
    (idle : ∀ username, s.state ≠ .loading username)
    (course : Leads (Served fun _ => True) (click s) p past (.done (result, s')) q) :
    ((∃ username, s'.state = .loading username) ↔ Strands past) ∧
    (Strands past → (∃ failure, result = .error failure) ∧
      click s' = .done (.ok (), { s' with lastAlert := none })) := by
  have ended := (click_ends idle).ending course
  cases ended with
  | stranded cut failure awaits =>
      exact ⟨⟨fun _ => cut, fun _ => ⟨_, awaits⟩⟩, fun _ => ⟨⟨failure, rfl⟩, click_loading awaits⟩⟩
  | settled whole result idle =>
      refine ⟨⟨?_, fun cut => absurd cut whole⟩, fun cut => absurd cut whole⟩
      intro loading
      obtain ⟨username, awaits⟩ := loading
      exact absurd awaits (idle username)

-- The prompt is answered, and the view of the fetch cannot be drawn.
theorem unannounced_fetch_strands :
    ∃ past q, Leads (Served fun _ => True) (click ⟨.unlinked, none⟩) ⟨[]⟩ past
        (.done (.error .notLinked, ⟨.loading "alice", none⟩)) q ∧
      Strands past ∧ click ⟨.loading "alice", none⟩ = .done (.ok (), ⟨.loading "alice", none⟩) := by
  have asked : Served (fun _ => True) (.prompt promptTitle) ⟨[]⟩ (.ok (some "alice")) ⟨[]⟩ :=
    ⟨.inl ⟨"alice", rfl⟩, rfl⟩
  have refused : Served (fun _ => True) (.render loadingView) ⟨[]⟩ (.error .notLinked) ⟨[]⟩ :=
    ⟨.inr trivial, rfl⟩
  have course : Leads (Served fun _ => True) (click ⟨.unlinked, none⟩) ⟨[]⟩ _
      (.done (.error .notLinked, ⟨.loading "alice", none⟩)) _ := .ask asked (.ask refused .here)
  have both := loading_iff_strands (by simp) course
  have strands := both.1.mp ⟨"alice", rfl⟩
  exact ⟨_, _, course, strands, (both.2 strands).2⟩

end LinkedKeys.Control.Session

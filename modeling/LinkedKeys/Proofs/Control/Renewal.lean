import LinkedKeys.Proofs.Control.Stranding

namespace LinkedKeys.Control

open Store Script Account

variable {refusable : Store.Call → Prop} {past : Store.Past} {p : Params}

-- Where nothing is awaited, the state is the one to be read off the parameters.
def Agreeing (state : State) (p : Params) : Prop :=
  state = State.ofAccount (held p) ∨ ∃ username, state = .loading username

theorem unlink_granted (reads : ∀ key, ¬refusable (.get key))
    (removes : ∀ key, ¬refusable (.remove key)) :
    unlink.run.Throughout (Served refusable) (fun _ _ => True)
      (fun result _ q => ∃ effects, result = .ok (effects, State.ofAccount (held q))) past p := by
  simp only [unlink, throughout_then, throughout_remove, throughout_pure]
  refine ⟨trivial, ⟨trivial, ?_, ?_⟩, ?_⟩
  · refine current_ends.mono_end ?_
    intro result now q ended
    cases ended with
    | answered front => exact ⟨_, rfl⟩
    | refused front may failure => exact absurd may (reads _)
  · exact fun may => absurd may (removes _)
  · exact fun may => absurd may (removes _)

theorem handle_agreeing (reads : ∀ key, ¬refusable (.get key))
    (removes : ∀ key, ¬refusable (.remove key)) (state : State) (event : Event) (p : Params)
    (agreeing : Agreeing state p) :
    (handle state event).Throughout (Served refusable) (fun _ _ => True)
      (fun turn _ q => Agreeing turn.state q) [] p := by
  rcases handle_cases state event with
    ⟨username, outcome, rfl, rfl⟩ | ⟨username, rfl, rfl⟩ | ⟨turn, idle, moved⟩
  · refine (handle_finished_ends username outcome).mono_end ?_
    intro turn now q ended
    obtain ⟨read, ended, moved⟩ := ended
    cases ended with
    | answered front => exact .inl moved
    | refused front may failure => exact absurd may (reads _)
  · simp only [handle, click]
    refine throughout_do.mpr ((unlink_granted reads removes).mono_end ?_)
    intro result now q ended
    obtain ⟨effects, rfl⟩ := ended
    exact .inl rfl
  · rw [idle]
    rcases moved with stayed | ⟨_, name, _, moved⟩
    · change Agreeing turn.state p
      rwa [stayed]
    · exact .inr ⟨name, moved⟩

end LinkedKeys.Control

namespace LinkedKeys.Control.Session

open Store Script

def PutsOnly : Call → Prop
  | .store call => call.method = .put
  | _ => False

variable {past : Past} {p q : Params} {s : Session}

theorem served_any {refusable : Call → Prop} {c : Call} {answer : c.Answer}
    (served : Served refusable c p answer q) : Served (fun _ => True) c p answer q := by
  cases c with
  | store call =>
      cases served with
      | carried => exact .carried
      | refused may failure => exact .refused trivial failure
  | render view => exact ⟨.inr trivial, served.2⟩
  | prompt title => exact ⟨.inr trivial, served.2⟩
  | alert alert => exact ⟨.inr trivial, served.2⟩
  | fetch username => exact served

-- Neither of the two refusals that cut a click off is that of a put.
theorem not_cut_served {front : Past} {made : Exchange Call Call.Answer}
    (served : Served PutsOnly made.call p made.answer q) : ¬Cut front made := by
  obtain ⟨call, answer⟩ := made
  intro cut
  cases call with
  | store call =>
      cases served with
      | carried => cases call <;> exact cut
      | refused may failure =>
          cases call with
          | put key value => exact cut
          | get key => cases may
          | remove key => cases may
  | render view =>
      rcases served.1 with shown | may
      · cases shown; exact cut
      · exact may
  | prompt title => exact cut
  | alert alert => exact cut
  | fetch username => exact cut

theorem click_settles {result : Except Failure Unit} {s' : Session}
    (agrees : s.state = State.ofAccount (Account.held p))
    (course : Leads (Served PutsOnly) (click s) p past (.done (result, s')) q) :
    s'.state = State.ofAccount (Account.held q) := by
  have idle : Idle s := fun username awaits => ofAccount_idle _ username (agrees.symm.trans awaits)
  have kept : Agreeing s'.state q :=
    (click_keeps (handle_agreeing (fun _ => nofun) fun _ => nofun) (.inl agrees)).ending course
  have ended := (click_ends idle).ending (leads_mono (fun _ _ _ _ => served_any) course)
  cases ended with
  | stranded cut failure awaits =>
      obtain ⟨front, last, rfl, cut⟩ := cut
      obtain ⟨m, n, served⟩ := leads_served course last (by simp)
      exact absurd cut (not_cut_served served)
  | settled whole result settled =>
      rcases kept with agrees | ⟨username, awaits⟩
      · exact agrees
      · exact absurd awaits (settled username)

-- A session over a service that is newly built from its store.
def build : Script (Except Failure Session) := do
  match ← storing current.run with
  | .ok state => return .ok { state }
  | .error failure => return .error failure

abbrev Surroundings (τ : Type) := (c : Call) → τ → c.Answer × τ

-- Surroundings with a state of their own, which refuse nothing but puts and are not changed by
-- being read. Which puts they refuse, what a prompt is answered and how a fetch ends are theirs.
structure Steady {τ : Type} (answer : Surroundings τ) (view : τ → Params) : Prop where
  served : ∀ c m, Served PutsOnly c (view m) (answer c m).1 (view (answer c m).2)
  quiet : ∀ key m, (answer (.store (.get key)) m).2 = m

section

variable {τ : Type}

-- The calls that a user or a fetcher takes notice of are kept as well.
def noting (answer : Surroundings τ) : Surroundings (τ × List Call)
  | .store call, (m, calls) => ((answer (.store call) m).1, (answer (.store call) m).2, calls)
  | c, (m, calls) => ((answer c m).1, (answer c m).2, calls ++ [c])

-- What a click comes to: its result, the session after it with its state and its alert, the calls
-- that were noticed, and the surroundings that are left.
structure Round (τ : Type) where
  result : Except Failure Unit
  session : Session
  calls : List Call
  after : τ

def round (answer : Surroundings τ) (s : Session) (m : τ) : Round τ :=
  let ((result, session), after, calls) := (click s).run (noting answer) (m, [])
  ⟨result, session, calls, after⟩

def lasting (answer : Surroundings τ) : Nat → Session → τ → List (Round τ)
  | 0, _, _ => []
  | n + 1, s, m =>
      let first := round answer s m
      first :: lasting answer n first.session first.after

def renewed (answer : Surroundings τ) : Nat → τ → Except Failure (List (Round τ))
  | 0, _ => .ok []
  | n + 1, m =>
      match build.run answer m with
      | (.error failure, _) => .error failure
      | (.ok s, m) =>
          let first := round answer s m
          (renewed answer n first.after).map (first :: ·)

variable {answer : Surroundings τ} {view : τ → Params}

theorem steady_get (steady : Steady answer view) (key : String) (m : τ) :
    answer (.store (.get key)) m = (.ok ((view m).read key), m) := by
  have served := steady.served (.store (.get key)) m
  have quiet := steady.quiet key m
  exact Prod.ext (served_granted served nofun).1 quiet

theorem build_run (steady : Steady answer view) (m : τ) :
    build.run answer m = (.ok { state := State.ofAccount (Account.held (view m)) }, m) := by
  have calls : build = .ask (.store (.get Account.keysKey)) fun
      | .error failure => .done (.error failure)
      | .ok keys => .ask (.store (.get Account.usernameKey)) fun
          | .error failure => .done (.error failure)
          | .ok username => .done (.ok { state := State.ofAccount (Account.ofParts keys username) }) := by
    refine congrArg (Script.ask _) (funext fun answer => ?_)
    cases answer with
    | error failure => rfl
    | ok keys =>
        refine congrArg (Script.ask _) (funext fun answer => ?_)
        cases answer with
        | error failure => rfl
        | ok username => rfl
  rw [calls]
  simp only [Script.run, steady_get steady]
  rfl

theorem noting_served (steady : Steady answer view) (c : Call) (m : τ × List Call) :
    Served PutsOnly c (view m.1) (noting answer c m).1 (view (noting answer c m).2.1) := by
  have served := steady.served c m.1
  cases c <;> exact served

-- A click forgets all that a session remembers but its state, and leaves the state that is to be
-- read off the parameters.
theorem round_forgets (s : Session) (m : τ) : round answer s m = round answer { state := s.state } m := rfl

theorem round_settles (steady : Steady answer view) {m : τ}
    (agrees : s.state = State.ofAccount (Account.held (view m))) :
    (round answer s m).session.state = State.ofAccount (Account.held (view (round answer s m).after)) := by
  obtain ⟨past, course⟩ :=
    run_leads (fun m : τ × List Call => view m.1) (noting_served steady) (click s) (m, [])
  exact click_settles agrees course

theorem renewed_from (steady : Steady answer view) (n : Nat) (m : τ)
    (agrees : s.state = State.ofAccount (Account.held (view m))) :
    renewed answer n m = .ok (lasting answer n s m) := by
  induction n generalizing s m with
  | zero => rfl
  | succ n ih =>
      have settled := round_settles steady agrees
      rw [round_forgets, agrees] at settled
      rw [renewed, build_run steady, lasting, round_forgets s, agrees]
      simp only
      rw [ih _ settled]
      rfl

-- However many clicks there are, one session built at the start and a session built for each of
-- them come to the same rounds.
theorem lasting_renewed (steady : Steady answer view) (n : Nat) (m : τ) :
    ∃ s, build.run answer m = (.ok s, m) ∧ renewed answer n m = .ok (lasting answer n s m) :=
  ⟨_, build_run steady m, renewed_from steady n m rfl⟩

end

-- Planned surroundings in which nothing but puts is to be refused.
def Mild (r : Rehearsal) : Prop := (∀ fault ∈ r.store.faults, fault.method = .put) ∧ r.refusals = []

theorem draw_mild {r : Rehearsal} (unrefused : r.refusals = []) (kind : Screen) (entry : Asked) :
    r.draw kind entry = (.ok (), r.log entry) := by
  simp [Rehearsal.draw, Rehearsal.refuses, Rehearsal.log, unrefused]

theorem prompt_mild {r : Rehearsal} (unrefused : r.refusals = []) (title : String) :
    r.answer (.prompt title) =
      (.ok (r.answers.head?.getD none), { r.log (.prompt title) with answers := r.answers.drop 1 }) := by
  simp [Rehearsal.answer, Rehearsal.refuses, Rehearsal.log, unrefused]

theorem answer_mild {r : Rehearsal} (mild : Mild r) (c : Call) : Mild (r.answer c).2 := by
  obtain ⟨puts, unrefused⟩ := mild
  cases c with
  | store call => exact ⟨answer_faults_put call puts, unrefused⟩
  | render view => rw [Rehearsal.answer, draw_mild unrefused]; exact ⟨puts, unrefused⟩
  | alert alert => rw [Rehearsal.answer, draw_mild unrefused]; exact ⟨puts, unrefused⟩
  | prompt title => rw [prompt_mild unrefused]; exact ⟨puts, unrefused⟩
  | fetch username => exact ⟨puts, unrefused⟩

theorem served_mild {r : Rehearsal} (mild : Mild r) (c : Call) :
    Served PutsOnly c r.store.params (r.answer c).1 (r.answer c).2.store.params := by
  obtain ⟨puts, unrefused⟩ := mild
  cases c with
  | store call => exact Faulty.served_put call puts
  | render view => rw [Rehearsal.answer, draw_mild unrefused]; exact ⟨.inl rfl, rfl⟩
  | alert alert => rw [Rehearsal.answer, draw_mild unrefused]; exact ⟨.inl rfl, rfl⟩
  | prompt title => rw [prompt_mild unrefused]; exact ⟨.inl ⟨_, rfl⟩, rfl⟩
  | fetch username => rfl

def mildly : Surroundings { r : Rehearsal // Mild r } :=
  fun c r => ((r.1.answer c).1, ⟨(r.1.answer c).2, answer_mild r.2 c⟩)

theorem mildly_steady : Steady mildly fun r => r.1.store.params where
  served c r := served_mild r.2 c
  quiet key r := by
    have spared := decideFault_spares (c := .get key) r.2.1 nofun
    refine Subtype.ext ?_
    simp [mildly, Rehearsal.answer, Faulty.answer, spared]

-- The keys cannot be put at the first click, so that the username is taken back. alice is linked by
-- the second click and unlinked by the third.
def stubborn : { r : Rehearsal // Mild r } where
  val :=
    { store := { faults := [⟨.put, some Account.keysKey, 0, some 1⟩] }
      answers := [some "alice", some "alice"]
      outcomes := [("alice", .fetched "ssh-rsa AAA")] }
  property := by simp [Mild]

theorem refused_link_renewed :
    Steady mildly (fun r => r.1.store.params) ∧
      (∃ s, build.run mildly stubborn = (.ok s, stubborn) ∧
        renewed mildly 3 stubborn = .ok (lasting mildly 3 s stubborn)) ∧
      (renewed mildly 3 stubborn).map (·.map (·.session.state)) =
        .ok [.unlinked, .linked "alice", .unlinked] :=
  ⟨mildly_steady, lasting_renewed mildly_steady 3 stubborn, by rfl⟩

end LinkedKeys.Control.Session

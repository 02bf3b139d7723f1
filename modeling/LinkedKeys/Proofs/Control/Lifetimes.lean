import LinkedKeys.Proofs.Control.Courses

namespace LinkedKeys.Control

open Store Script Account

-- A device between two store calls. A task leads to the service that is alive after it.
structure Device where
  params : Params
  service : Option State := none
  task : Option (Store.Script (Option State)) := none
  taken : List (State × Event) := []

-- A service that cannot be read, or built, leaves the one that was there, if any.
def settle (service : Option State) : Store.Script (Option State) := do
  match ← current.run with
  | .ok state => return some state
  | .error _ => return service

def taking (state : State) (event : Event) : Store.Script (Option State) := do
  let turn ← handle state event
  return some turn.state

-- One process at a time, so a task is begun only when none is under way. Every event that a
-- service takes is kept with the state in which it was taken.
inductive Step : Device → Device → Prop where
  | build {d} (idle : d.task = none) : Step d { d with task := some (settle d.service) }
  | refresh {d state} (idle : d.task = none) (alive : d.service = some state) :
      Step d { d with task := some (settle d.service) }
  | take {d state} (idle : d.task = none) (alive : d.service = some state) (event : Event) :
      Step d { d with task := some (taking state event), taken := (state, event) :: d.taken }
  | call {d c next answer p} (busy : d.task = some (.ask c next))
      (served : Served (fun _ => True) c d.params answer p) :
      Step d { d with params := p, task := some (next answer) }
  | finish {d service} (busy : d.task = some (.done service)) : Step d { d with service, task := none }
  | stop {d} : Step d { d with service := none, task := none }

inductive Reached (start : Params) : Device → Prop where
  | start : Reached start { params := start }
  | step {d next} (before : Reached start d) (step : Step d next) : Reached start next

-- The accounts that may be held: the first one, and those fetched while they were awaited.
def Known (start : Params) (taken : List (State × Event)) (account : Account) : Prop :=
  held start = some account ∨
    (.loading account.username, .finished account.username (.fetched account.keys)) ∈ taken

structure Sound (known : Account → Prop) (p : Params) : Prop where
  named : p.read keysKey ≠ "" → p.read usernameKey ≠ ""
  known : ∀ account, held p = some account → known account

-- What a service may take for granted of its store: while it is unlinked there are no keys, and
-- while it awaits a fetch any keys there are stand under the awaited username.
inductive Fits (p : Params) : Option State → Prop where
  | absent : Fits p none
  | unlinked (empty : p.read keysKey = "") : Fits p (some .unlinked)
  | loading {username} (named : username ≠ "")
      (own : p.read keysKey = "" ∨ p.read usernameKey = username) : Fits p (some (.loading username))
  | linked (username : String) : Fits p (some (.linked username))

variable {known : Account → Prop} {p q start : Params} {past : Past}

theorem sound_empty (empty : q.read keysKey = "") : Sound known q where
  named := fun keyed => absurd empty keyed
  known := fun account now => by
    obtain ⟨rfl, _, keyed⟩ := held_eq_some.mp now
    exact absurd empty keyed

theorem sound_same (sound : Sound known p) (names : q.read usernameKey = p.read usernameKey)
    (keys : q.read keysKey = p.read keysKey) : Sound known q where
  named := by rw [names, keys]; exact sound.named
  known := by rw [held, names, keys]; exact sound.known

theorem sound_more {wider : Account → Prop} (more : ∀ account, known account → wider account)
    (sound : Sound known p) : Sound wider p where
  named := sound.named
  known := fun account now => more account (sound.known account now)

theorem known_more {taken : List (State × Event)} {account : Account} (latest : State × Event)
    (before : Known start taken account) : Known start (latest :: taken) account :=
  before.imp id (List.mem_cons_of_mem _)

theorem fits_held (sound : Sound known p) : Fits p (some (State.ofAccount (held p))) := by
  cases now : held p with
  | some account => exact .linked _
  | none =>
      by_cases empty : p.read keysKey = ""
      · exact .unlinked empty
      · have whole := held_eq_some.mpr ⟨rfl, sound.named empty, empty⟩
        rw [now] at whole
        cases whole

theorem concluding_sound {username : String} {outcome : Outcome} {calls : List Store.Call}
    (sound : Sound known p) (named : username ≠ "")
    (own : p.read keysKey = "" ∨ p.read usernameKey = username)
    (fetched : ∀ keys, outcome = .fetched keys → known ⟨username, keys⟩)
    (kept : Concluding (p.read usernameKey) username outcome calls) :
    Sound known (p.after calls) ∧
      ((p.after calls).read keysKey = "" ∨ (p.after calls).read usernameKey = username) := by
  rcases concluding_reads kept with ⟨names, keys, _⟩ | ⟨_, names, keys⟩ | ⟨body, brought, _, _, names, keys⟩
  · exact ⟨sound_same sound names keys, by rw [names, keys]; exact own⟩
  · refine ⟨?_, .inr names⟩
    rcases own with empty | same
    · exact sound_empty (keys.trans empty)
    · exact sound_same sound (names.trans same.symm) keys
  · refine ⟨⟨fun _ => by rwa [names], fun account now => ?_⟩, .inr names⟩
    obtain ⟨rfl, _⟩ := held_eq_some.mp now
    rw [names, keys]
    exact fetched body brought

theorem unlinking_sound {calls : List Store.Call} (sound : Sound known p)
    (kept : calls <+: unlinking) : Sound known (p.after calls) := by
  rcases unlinking_reads (p := p) kept with rfl | ⟨gone, _⟩
  · exact sound
  · exact sound_empty gone

-- What a task keeps at every point, and what it leaves at its end.
def Carries (known : Account → Prop) (script : Store.Script (Option State)) (past : Past)
    (p : Params) : Prop :=
  script.Throughout (Served fun _ => True) (fun _ q => Sound known q)
    (fun service _ q => Sound known q ∧ Fits q service) past p

theorem settle_carries {service : Option State} (sound : Sound known p) (fits : Fits p service) :
    Carries known (settle service) [] p := by
  refine throughout_do.mpr (((current_writes.and current_ends).and (throughout_after rfl)).mono ?_ ?_)
  · intro now q holds
    obtain ⟨⟨quiet, _⟩, rfl⟩ := holds
    rw [quiet]
    exact sound
  · intro result now q holds
    obtain ⟨⟨quiet, ended⟩, after⟩ := holds
    have same : q = p := by rw [after, quiet]; rfl
    subst same
    cases ended with
    | answered front => exact ⟨sound, fits_held sound⟩
    | refused front may failure => exact ⟨sound, fits⟩

theorem finished_carries {username : String} {outcome : Outcome} (sound : Sound known p)
    (fits : Fits p (some (.loading username)))
    (fetched : ∀ keys, outcome = .fetched keys → known ⟨username, keys⟩) :
    Carries known (taking (.loading username) (.finished username outcome)) [] p := by
  cases fits with
  | loading named own =>
      refine throughout_do.mpr ((((handle_finished_writes username outcome).and
        (handle_finished_ends username outcome)).and (throughout_after rfl)).mono ?_ ?_)
      · intro now q holds
        obtain ⟨⟨kept, _⟩, rfl⟩ := holds
        exact (concluding_sound sound named own fetched kept).1
      · intro turn now q holds
        obtain ⟨⟨kept, read, ended, moved⟩, after⟩ := holds
        obtain ⟨safe, still⟩ := concluding_sound sound named own fetched kept
        rw [← after] at safe still
        refine ⟨safe, ?_⟩
        cases ended with
        | answered front => simp only at moved; rw [moved]; exact fits_held safe
        | refused front may failure => simp only at moved; rw [moved]; exact .loading named still

theorem clicked_carries {username : String} (sound : Sound known p) :
    Carries known (taking (.linked username) .clicked) [] p := by
  refine throughout_do.mpr ((((handle_clicked_writes username).and
    (handle_clicked_ends username)).and (throughout_after rfl)).mono ?_ ?_)
  · intro now q holds
    obtain ⟨⟨kept, _⟩, rfl⟩ := holds
    exact unlinking_sound sound kept
  · intro turn now q holds
    obtain ⟨⟨kept, ended⟩, rfl⟩ := holds
    have after := unlinking_sound sound kept
    refine ⟨after, ?_⟩
    rcases ended with ⟨moved, _⟩ | ⟨stayed, _⟩
    · rw [moved]; exact fits_held after
    · rw [stayed]; exact .linked username

theorem taking_carries {state : State} {event : Event} (sound : Sound known p)
    (fits : Fits p (some state))
    (fetched : ∀ username keys, state = .loading username →
      event = .finished username (.fetched keys) → known ⟨username, keys⟩) :
    Carries known (taking state event) [] p := by
  rcases handle_cases state event with
    ⟨username, outcome, rfl, rfl⟩ | ⟨username, rfl, rfl⟩ | ⟨turn, idle, moved⟩
  · exact finished_carries sound fits fun keys brought => fetched username keys rfl (by rw [brought])
  · exact clicked_carries sound
  · rw [taking, idle]
    refine ⟨sound, ?_⟩
    rcases moved with stayed | ⟨rfl, name, valid, moved⟩
    · rw [stayed]; exact fits
    · rw [moved]
      cases fits with
      | unlinked empty => exact .loading (valid_name valid) (.inl empty)

-- The invariant of a device: at rest its store and its service fit, and in the middle of a task
-- what is left of the task keeps to both.
def Valid (start : Params) (d : Device) : Prop :=
  match d.task with
  | none => Sound (Known start d.taken) d.params ∧ Fits d.params d.service
  | some script => ∃ past, Carries (Known start d.taken) script past d.params

theorem start_valid (whole : start.read keysKey = "" ∨ start.read usernameKey ≠ "") :
    Valid start { params := start } where
  left := ⟨fun keyed => whole.resolve_left keyed, fun _ now => .inl now⟩
  right := .absent

theorem valid_sound {d : Device} (valid : Valid start d) : Sound (Known start d.taken) d.params := by
  unfold Valid at valid
  split at valid
  · exact valid.1
  · rename_i script busy
    obtain ⟨past, carries⟩ := valid
    cases script with
    | done service => exact carries.1
    | ask c next => exact carries.1

theorem step_valid {d next : Device} (valid : Valid start d) (step : Step d next) :
    Valid start next := by
  cases step with
  | build idle =>
      simp only [Valid, idle] at valid
      exact ⟨[], settle_carries valid.1 valid.2⟩
  | refresh idle alive =>
      simp only [Valid, idle] at valid
      exact ⟨[], settle_carries valid.1 valid.2⟩
  | @take state idle alive event =>
      simp only [Valid, idle, alive] at valid
      have sound := sound_more (fun _ => known_more (state, event)) valid.1
      refine ⟨[], taking_carries sound valid.2 ?_⟩
      rintro username keys rfl rfl
      exact .inr List.mem_cons_self
  | call busy served =>
      simp only [Valid, busy] at valid
      obtain ⟨past, carries⟩ := valid
      exact ⟨_, carries.2 _ _ served⟩
  | finish busy =>
      simp only [Valid, busy] at valid
      obtain ⟨past, carries⟩ := valid
      exact carries
  | stop =>
      have sound := valid_sound valid
      exact ⟨sound, .absent⟩

theorem reached_valid {d : Device} (whole : start.read keysKey = "" ∨ start.read usernameKey ≠ "")
    (reached : Reached start d) : Valid start d := by
  induction reached with
  | start => exact start_valid whole
  | step _ step ih => exact step_valid ih step

-- No account is ever held that was not there at first or fetched under its own username.
theorem held_account_known {d : Device} {account : Account}
    (whole : start.read keysKey = "" ∨ start.read usernameKey ≠ "") (reached : Reached start d)
    (now : held d.params = some account) :
    held start = some account ∨
      (.loading account.username, .finished account.username (.fetched account.keys)) ∈ d.taken :=
  (valid_sound (reached_valid whole reached)).known account now

-- A process that is stopped right after it wrote the keys it had fetched.
theorem stopped_link_known : ∃ d, Reached {} d ∧ held d.params = some ⟨"alice", "ssh-rsa AAA"⟩ ∧
    (held {} = some ⟨"alice", "ssh-rsa AAA"⟩ ∨
      (.loading "alice", .finished "alice" (.fetched "ssh-rsa AAA")) ∈ d.taken) := by
  have built : Reached {} { params := {}, service := some .unlinked } :=
    .step (.step (.step (.step .start (.build rfl)) (.call rfl .carried)) (.call rfl .carried))
      (.finish rfl)
  have asked : Reached {} _ := .step (.step built (.take rfl rfl (.submitted " alice"))) (.finish rfl)
  have fetched : Reached {} _ :=
    .step asked (.take rfl rfl (.finished "alice" (.fetched "ssh-rsa AAA")))
  have written : Reached {} _ :=
    .step (.step (.step fetched (.call rfl .carried)) (.call rfl .carried)) (.call rfl .carried)
  have stopped : Reached {} _ := .step written .stop
  exact ⟨_, stopped, by decide, held_account_known (.inl rfl) stopped (by decide)⟩

end LinkedKeys.Control

import LinkedKeys.Proofs.Program.Turns

namespace LinkedKeys.Program

open Script
open Control (accountIn Session State)
open Account (keysKey usernameKey)
open Report (Style)
open Store.Directory (Filed)

variable {τ : Type}

def isLinked (context : Context) (w : World) : Bool :=
  match accountIn w.here context.paramsDir w.tree with
  | .ok (some _) => true
  | _ => false

-- The world in which the next line is read as a command.
def invited (context : Context) (w : World) : World :=
  { w with output := w.output ++
      ("  [Enter] " ++ (if isLinked context w then "REMOVE" else "ADD") ++ "  [q] quit: ") }

-- What a line of input was read as.
inductive Part where
  | command (line : List UInt8)
  | answer (line : List UInt8)

def Part.line : Part → List UInt8
  | .command line => line
  | .answer line => line

-- A click does what a command does that is run in its place, and takes the lines that it is given.
structure Replays (server : Server τ) (context : Context) (act : Action Unit)
    (given left : List (List UInt8)) (v after : Scene τ) : Prop where
  same : Matches (server.runs act given v) after
  left : after.1.input = left
  shown : ∃ more, after.1.output = (invited context v.1).output ++ more

-- The course of a panel, from where it waits for a command to its end.
inductive Plays (server : Server τ) (style : Style) (context : Context) :
    Scene τ → List Part → Scene τ → Prop where
  | ended {v} (spent : v.1.input = []) : Plays server style context v [] (invited context v.1, v.2)
  | quits {v line rest} (waits : v.1.input = line :: rest) (quits : Quits line) :
      Plays server style context v [.command line] ({ invited context v.1 with input := rest }, v.2)
  | ignores {v line rest command parts last} (waits : v.1.input = line :: rest)
      (commands : commandOf line = some command) (unknown : command ≠ []) (goesOn : ¬Quits line)
      (later : Plays server style context ({ invited context v.1 with
        input := rest
        output := (invited context v.1).output ++
          style.warning ("Unknown input '" ++ String.ofList command ++ "'") }, v.2) parts last) :
      Plays server style context v (.command line :: parts) last
  | unlinks {v line rest account after parts last} (waits : v.1.input = line :: rest) (blank : Blank line)
      (linked : accountIn v.1.here context.paramsDir v.1.tree = .ok (some account))
      (replays : Replays server context (unlink style context) [] rest v after)
      (later : Plays server style context after parts last) :
      Plays server style context v (.command line :: parts) last
  | links {v line rest after parts last} (waits : v.1.input = line :: rest) (blank : Blank line)
      (unlinked : accountIn v.1.here context.paramsDir v.1.tree = .ok none)
      (replays : Replays server context (link style context none) (rest.take 1) (rest.drop 1) v after)
      (later : Plays server style context after parts last) :
      Plays server style context v (.command line :: (rest.take 1).map .answer ++ parts) last

-- The commands that lines of input stand for, one after the other. The flag says that the next line
-- has already been given to a command, as the answer to its prompt.
def replay (server : Server τ) (style : Style) (context : Context) :
    Bool → List (List UInt8) → Scene τ → Scene τ
  | _, [], v => v
  | true, _ :: rest, v => replay server style context false rest v
  | false, line :: rest, v =>
      if Quits line then v
      else if Blank line then
        if isLinked context v.1 then
          replay server style context false rest (server.runs (unlink style context) [] v)
        else
          replay server style context true rest
            (server.runs (link style context none) (rest.take 1) v)
      else replay server style context false rest v

variable {server : Server τ} {w : World} {memory : τ} {v u : Scene τ} {context : Context}
  {style : Style} {env : Environment} {args : List String} {invocation : Invocation}
  {account? : Option Account} {s : Session} {line : List UInt8} {rest : List (List UInt8)}
  {parts : List Part} {last : Scene τ} {first : Next × Scene τ}

-- No line is read twice, and none is passed over.
theorem plays_lines (plays : Plays server style context v parts last) :
    parts.map Part.line ++ last.1.input = v.1.input := by
  induction plays with
  | ended spent => rfl
  | quits waits quits => exact waits.symm
  | ignores waits commands unknown goesOn later ih =>
      rw [waits, List.map_cons, List.cons_append, ih]
      rfl
  | unlinks waits blank linked replays later ih =>
      rw [waits, List.map_cons, List.cons_append, ih, replays.left]
      rfl
  | @links v line rest after parts last waits blank unlinked replays later ih =>
      have answers : ((rest.take 1).map Part.answer).map Part.line = rest.take 1 := by
        simp [Function.comp_def, Part.line]
      rw [waits, List.map_append, List.map_cons, answers, List.append_assoc, ih, replays.left,
        List.cons_append, List.take_append_drop]
      rfl

theorem matches_linked (same : Matches v u) : isLinked context u.1 = isLinked context v.1 := by
  rw [isLinked, isLinked, same.here, same.tree]

theorem reads_unlinked (reads : accountIn w.here context.paramsDir w.tree = .ok none) :
    isLinked context w = false := by
  rw [isLinked, reads]

theorem reads_linked {account : Account}
    (reads : accountIn w.here context.paramsDir w.tree = .ok (some account)) :
    isLinked context w = true := by
  rw [isLinked, reads]

-- What a command makes of the files depends on nothing that has been written.
theorem unlink_same {account : Account}
    (linked : accountIn v.1.here context.paramsDir v.1.tree = .ok (some account)) (same : Matches v u)
    (given : List (List UInt8)) :
    Matches (server.runs (unlink style context) given v)
      (server.runs (unlink style context) given u) := by
  have still : accountIn u.1.here context.paramsDir u.1.tree = .ok (some account) := by
    rw [same.here, same.tree, linked]
  exact matches_trans (matches_symm (unlink_runs linked given))
    (matches_trans (cleared_same same) (unlink_runs still given))

theorem link_same (unlinked : accountIn v.1.here context.paramsDir v.1.tree = .ok none)
    (same : Matches v u) (given : List (List UInt8)) :
    Matches (server.runs (link style context none) given v)
      (server.runs (link style context none) given u) := by
  have still : accountIn u.1.here context.paramsDir u.1.tree = .ok none := by
    rw [same.here, same.tree, unlinked]
  have clicked : Matches u ({ u.1 with input := given }, u.2) := ⟨rfl, rfl, rfl, rfl⟩
  have one := link_runs server style ⟨context, style, none, false⟩ ⟨.unlinked, none⟩ unlinked rfl rfl
    (matches_trans same clicked) rfl
  have two := link_runs server style ⟨context, style, none, false⟩ ⟨.unlinked, none⟩ still rfl rfl
    clicked rfl
  exact matches_trans one (matches_symm two)

theorem replay_answered (rest : List (List UInt8)) (v : Scene τ) :
    replay server style context true rest v = replay server style context false (rest.drop 1) v := by
  cases rest with
  | nil => rw [replay, List.drop_nil, replay]
  | cons answer rest => rw [replay, List.drop_one, List.tail_cons]

-- The same files are left by the commands on their own, and the same is asked of the server.
theorem plays_replay (plays : Plays server style context v parts last) (same : Matches v u) :
    Matches last (replay server style context false v.1.input u) := by
  induction plays generalizing u with
  | ended spent =>
      rw [spent, replay]
      exact ⟨same.here, same.tree, same.requests, same.memory⟩
  | quits waits quits =>
      rw [waits, replay, if_pos quits]
      exact ⟨same.here, same.tree, same.requests, same.memory⟩
  | @ignores v line rest command parts last waits commands unknown goesOn later ih =>
      have full : ¬Blank line := by
        intro blank
        exact unknown (Option.some.inj (commands.symm.trans blank))
      rw [waits, replay, if_neg goesOn, if_neg full]
      exact ih ⟨same.here, same.tree, same.requests, same.memory⟩
  | unlinks waits blank linked replays later ih =>
      rw [waits, replay, if_neg (blank_goes_on blank), if_pos blank,
        if_pos ((matches_linked same).trans (reads_linked linked)), ← replays.left]
      exact ih (matches_trans (matches_symm replays.same) (unlink_same linked same []))
  | @links v line rest after parts last waits blank unlinked replays later ih =>
      have idle : ¬isLinked context u.1 = true := by
        rw [matches_linked same, reads_unlinked unlinked]
        exact Bool.false_ne_true
      rw [waits, replay, if_neg (blank_goes_on blank), if_pos blank, if_neg idle, replay_answered,
        ← replays.left]
      exact ih (matches_trans (matches_symm replays.same) (link_same unlinked same (rest.take 1)))

-- The store refuses none of the calls that the next command makes.
def Unrefused (server : Server τ) : Next × Scene τ → Prop
  | (.exit _, _) => True
  | (.turn p, v) => ∀ line ∈ v.1.input.head?, Blank line →
      ∀ made ∈ p.session.click.exchanges (server.carried p.terminal) (commanded p v),
        Session.refused? made = none

instance : DecidablePred (Unrefused server) := fun
  | (.exit _, _) => isTrue trivial
  | (.turn p, v) => inferInstanceAs (Decidable (∀ line ∈ v.1.input.head?, Blank line →
      ∀ made ∈ p.session.click.exchanges (server.carried p.terminal) (commanded p v),
        Session.refused? made = none))

-- A session between two clicks: its state is the one that the files stand for.
structure Waits (context : Context) (s : Session) (v : Scene τ) : Prop where
  reads : Session.Reads v.1.here context.paramsDir v.1.tree s.state
  readable : ∀ line ∈ v.1.input, Readable line

theorem reads_account {state : State} (reads : Session.Reads w.here context.paramsDir w.tree state) :
    ∃ account?, accountIn w.here context.paramsDir w.tree = .ok account? ∧
      state = State.ofAccount account? := by
  unfold Session.Reads at reads
  cases account : accountIn w.here context.paramsDir w.tree with
  | error failure =>
      rw [account] at reads
      cases reads
  | ok account? =>
      rw [account] at reads
      cases reads
      exact ⟨account?, rfl, rfl⟩

theorem reads_state {state : State} (reads : Session.Reads w.here context.paramsDir w.tree state)
    (account : accountIn w.here context.paramsDir w.tree = .ok account?) :
    state = State.ofAccount account? := by
  rw [Session.Reads, account] at reads
  exact (Except.ok.inj reads).symm

theorem waits_invited (style : Style) (waits : Waits context s v) :
    commanded (panelOf style context s) v =
      ({ invited context v.1 with input := v.1.input.drop 1 }, v.2) := by
  obtain ⟨account?, reads, state⟩ := reads_account waits.reads
  rw [commanded, invited, Panel.invitation, isLinked, reads, panelOf, state]
  cases account? <;> rfl

-- What a click comes to that is made on reading a line.
structure Clicked (server : Server τ) (style : Style) (context : Context) (rest : List (List UInt8))
    (v : Scene τ) (done : Session) (after : Scene τ) : Prop where
  waits : Waits context done after
  unlinks : ∀ account, accountIn v.1.here context.paramsDir v.1.tree = .ok (some account) →
    Replays server context (unlink style context) [] rest v after
  links : accountIn v.1.here context.paramsDir v.1.tree = .ok none →
    Replays server context (link style context none) (rest.take 1) (rest.drop 1) v after

theorem click_replays (server : Server τ) (style : Style) (t : Terminal) (begun : Scene τ)
    (free : t.preset = none) (reads : Session.Reads v.1.here t.context.paramsDir v.1.tree s.state)
    (same : Matches v begun) (shown : begun.1.output = (invited t.context v.1).output)
    (readable : ∀ line ∈ begun.1.input, Readable line)
    (unrefused : ∀ made ∈ s.click.exchanges (server.carried t) begun, Session.refused? made = none) :
    (s.click.run (server.carried t) begun).1.1 = .ok () ∧
      Clicked server style t.context begun.1.input v (s.click.run (server.carried t) begun).1.2
        (s.click.run (server.carried t) begun).2 := by
  have still : Session.Reads v.1.here t.context.paramsDir begun.1.tree s.state := by
    rw [same.tree]
    exact reads
  have well := click_well free ⟨same.here, readable⟩ still unrefused
  have left := well_input server free well
  have more : ∃ more, (s.click.run (server.carried t) begun).2.1.output =
      (invited t.context v.1).output ++ more := by
    rw [← shown, ← Server.run_carryOut]
    exact run_more _ _
  refine ⟨well.fine, ⟨?_, well.stays.readable⟩, ?_, ?_⟩
  · rw [well.stays.here]
    exact well.reads
  · intro account linked
    have state : s.state = .linked account.username := reads_state reads linked
    rw [state] at left
    exact ⟨matches_trans (matches_symm (unlink_runs linked []))
      (matches_trans (cleared_same same) (click_linked state)), left, more⟩
  · intro unlinked
    have state : s.state = .unlinked := reads_state reads unlinked
    have heads : begun.1.input.head? = (begun.1.input.take 1).head? := by
      cases begun.1.input <;> rfl
    rw [state] at left
    exact ⟨link_runs server style t s unlinked free state same heads, left, more⟩

theorem step_clicks (waits : Waits context s v) (read : v.1.input = line :: rest) (blank : Blank line)
    (unrefused : Unrefused server (.turn (panelOf style context s), v)) :
    ∃ done after, server.step (.turn (panelOf style context s), v) =
        (.turn (panelOf style context done), after) ∧
      Clicked server style context rest v done after := by
  have input : (commanded (panelOf style context s) v).1.input = rest := by simp [commanded, read]
  have shown := congrArg (·.1.output) (waits_invited style waits)
  obtain ⟨fine, clicked⟩ := click_replays server style (panelOf style context s).terminal
    (commanded (panelOf style context s) v) rfl waits.reads ⟨rfl, rfl, rfl, rfl⟩ shown
    (fun line among => waits.readable line (List.mem_of_mem_drop among))
    (unrefused line (by simp [read]) blank)
  rw [input] at clicked
  exact ⟨_, _, next_clicks read blank (Prod.ext (Prod.ext fine rfl) rfl), clicked⟩

-- Nowhere in the course that begins here.
def Steady (server : Server τ) (first : Next × Scene τ) : Prop :=
  ∀ n, Unrefused server (server.step^[n] first)

theorem steady_step (steady : Steady server first) :
    Steady server (server.step first) := by
  intro n
  rw [← Function.iterate_succ_apply]
  exact steady (n + 1)

theorem step_over (waits : Waits context s v) (spent : v.1.input = []) :
    server.step (.turn (panelOf style context s), v) = (.exit 0, invited context v.1, v.2) := by
  refine (next_over spent).trans ?_
  rw [waits_invited style waits]
  obtain ⟨⟨tree, here, input, output, errors, requests⟩, memory⟩ := v
  cases spent
  rfl

theorem step_quits (waits : Waits context s v) (read : v.1.input = line :: rest) (quits : Quits line) :
    server.step (.turn (panelOf style context s), v) =
      (.exit 0, { invited context v.1 with input := rest }, v.2) := by
  refine (next_quits read quits).trans ?_
  rw [waits_invited style waits, read]
  rfl

theorem step_ignores (server : Server τ) (style : Style) {command : List Char}
    (waits : Waits context s v) (read : v.1.input = line :: rest)
    (commands : commandOf line = some command) (unknown : command ≠ []) (goesOn : ¬Quits line) :
    server.step (.turn (panelOf style context s), v) = (.turn (panelOf style context s),
      { invited context v.1 with
        input := rest
        output := (invited context v.1).output ++
          style.warning ("Unknown input '" ++ String.ofList command ++ "'") }, v.2) := by
  refine (next_ignores read commands unknown goesOn).trans ?_
  rw [waits_invited style waits, read]
  rfl

-- What a turn comes to: the end of the panel, or a wait with fewer lines to read and a course that
-- is put in front of every later one.
inductive Turned (server : Server τ) (style : Style) (context : Context) (v : Scene τ) :
    Next × Scene τ → Prop where
  | ends {parts : List Part} {last : Scene τ} (plays : Plays server style context v parts last) :
      Turned server style context v (.exit 0, last)
  | onward {done : Session} {after : Scene τ} (front : List Part) (waits : Waits context done after)
      (shorter : after.1.input.length < v.1.input.length)
      (plays : ∀ parts last, Plays server style context after parts last →
        Plays server style context v (front ++ parts) last) :
      Turned server style context v (.turn (panelOf style context done), after)

theorem clicked_turned {done : Session} {after : Scene τ} (waits : Waits context s v)
    (read : v.1.input = line :: rest) (blank : Blank line)
    (clicked : Clicked server style context rest v done after) :
    Turned server style context v (.turn (panelOf style context done), after) := by
  obtain ⟨account?, account, _⟩ := reads_account waits.reads
  cases account? with
  | none =>
      have replays := clicked.links account
      refine .onward (.command line :: (rest.take 1).map .answer) clicked.waits ?_ ?_
      · rw [replays.left, read, List.length_drop, List.length_cons]
        omega
      · exact fun _ _ plays => .links read blank account replays plays
  | some linked =>
      have replays := clicked.unlinks linked account
      refine .onward [.command line] clicked.waits ?_ ?_
      · rw [replays.left, read]
        exact Nat.lt_succ_self _
      · exact fun _ _ plays => .unlinks read blank account replays plays

theorem step_turned (waits : Waits context s v)
    (unrefused : Unrefused server (.turn (panelOf style context s), v)) :
    Turned server style context v (server.step (.turn (panelOf style context s), v)) := by
  cases read : v.1.input with
  | nil =>
      rw [step_over waits read]
      exact .ends (.ended read)
  | cons line rest =>
      obtain ⟨text, said⟩ := waits.readable line (by simp [read])
      obtain ⟨command, commands⟩ : ∃ command, commandOf line = some command :=
        ⟨_, congrArg (Option.map _) said⟩
      by_cases quits : Quits line
      · rw [step_quits waits read quits]
        exact .ends (.quits read quits)
      by_cases blank : command = []
      · subst blank
        obtain ⟨done, after, turned, clicked⟩ := step_clicks waits read commands unrefused
        rw [turned]
        exact clicked_turned waits read commands clicked
      · rw [step_ignores server style waits read commands blank quits]
        refine .onward [.command line] ⟨waits.reads, ?_⟩ ?_ ?_
        · exact fun other among => waits.readable other (by simp [read, among])
        · rw [read]
          exact Nat.lt_succ_self _
        · exact fun _ _ plays => .ignores read commands blank quits plays

-- The end is reached from wherever a panel waits: each turn takes a line, or is the last.
theorem waits_plays (waits : Waits context s v)
    (steady : Steady server (.turn (panelOf style context s), v)) :
    ∃ n parts last, server.step^[n] (.turn (panelOf style context s), v) = (.exit 0, last) ∧
      Plays server style context v parts last := by
  induction lines : v.1.input.length using Nat.strong_induction_on generalizing s v with
  | _ length ih =>
      have turned := step_turned waits (steady 0)
      have later := steady_step steady
      generalize same : server.step (.turn (panelOf style context s), v) = next at turned later
      cases turned with
      | ends plays => exact ⟨1, _, _, same, plays⟩
      | onward front waits shorter onward =>
          obtain ⟨n, parts, last, reached, plays⟩ := ih _ (lines ▸ shorter) waits later rfl
          refine ⟨n + 1, front ++ parts, last, ?_, onward _ _ plays⟩
          rw [Function.iterate_succ_apply, same, reached]

-- Where a course has come to its end there is nothing left to refuse.
inductive IsOver : Next × Scene τ → Prop
  | exit (code : Nat) (v : Scene τ) : IsOver (.exit code, v)

instance : DecidablePred (IsOver : Next × Scene τ → Prop) := fun
  | (.exit code, v) => isTrue (.exit code v)
  | (.turn _, _) => isFalse nofun

theorem over_stays (stopped : IsOver first) (n : Nat) : server.step^[n] first = first := by
  cases stopped with
  | exit code v => exact Function.iterate_fixed rfl n

theorem steady_until {n : Nat} (stopped : IsOver (server.step^[n] first))
    (unrefused : ∀ m < n, Unrefused server (server.step^[m] first)) : Steady server first := by
  intro m
  by_cases early : m < n
  · exact unrefused m early
  · obtain ⟨k, rfl⟩ := Nat.exists_eq_add_of_le' (Nat.le_of_not_lt early)
    rw [Function.iterate_add_apply, over_stays stopped k]
    generalize server.step^[n] first = ended at stopped
    cases stopped with
    | exit code v => trivial

-- A panel before any server, with any text to read.
theorem panel_plays (server : Server τ) (memory : τ) (opens : Opens env args w invocation context)
    (command : invocation.command = .panel)
    (reads : accountIn w.here context.paramsDir w.tree = .ok account?)
    (text : String) (typed : w.input = inputLines (Text.toBytes text))
    (steady : Steady server ((opening env false args).run server.answer (w, memory))) :
    ∃ n parts last,
      server.step^[n] ((opening env false args).run server.answer (w, memory)) = (.exit 0, last) ∧
      Plays server (styleOf env invocation) context
        (greeted (styleOf env invocation) account? (w, memory)) parts last ∧
      parts.map Part.line ++ last.1.input = w.input ∧
      Matches last (replay server (styleOf env invocation) context false w.input (w, memory)) := by
  rw [run_opening opens command reads] at steady ⊢
  have waits : Waits context ⟨State.ofAccount account?, none⟩
      (greeted (styleOf env invocation) account? (w, memory)) := by
    refine ⟨?_, ?_⟩
    · change Session.Reads w.here context.paramsDir w.tree _
      rw [Session.Reads, reads]
      rfl
    · change ∀ line ∈ w.input, Readable line
      rw [typed]
      exact inputLines_readable text
  obtain ⟨n, parts, last, reached, plays⟩ := waits_plays waits steady
  exact ⟨n, parts, last, reached, plays, plays_lines plays, plays_replay plays ⟨rfl, rfl, rfl, rfl⟩⟩

-- Two clicks, with a name between them that is a command anywhere else.
def clicksTwice : World := { input := inputLines (Text.toBytes "\nq\n\nq\n") }

def keyServed : Web := fun _ => .response 200 (Text.toBytes "ssh-rsa AAAA") true

def panelArgs : List String := ["--params-dir", "params", "--host", "http://[::1]", "panel"]

-- The first q is linked and taken away again, and the second ends the panel.
theorem user_q_toggled : ∃ (parts : List Part) (last : World),
    World.run keyServed {} panelArgs clicksTwice = (0, last) ∧
    parts.map Part.line ++ last.input = clicksTwice.input ∧
    last.requests = [⟨"GET", "/q.keys", "keylink/0.3.0"⟩] := by
  have opens : Opens {} panelArgs clicksTwice
      ⟨{ paramsDir := some "params", host := some "http://[::1]" }, .panel⟩
      ⟨"params", "http://[::1]", 20⟩ := ⟨by decide, by rfl⟩
  have named : Filed [] "params" {} usernameKey none := by decide +kernel
  have keyed : Filed [] "params" {} keysKey none := by decide +kernel
  have stopped : IsOver ((Server.always keyServed).step^[3]
      ((opening {} false panelArgs).run (Server.always keyServed).answer (clicksTwice, ()))) := by
    decide +kernel
  have unrefused : ∀ n < 3, Unrefused (Server.always keyServed) ((Server.always keyServed).step^[n]
      ((opening {} false panelArgs).run (Server.always keyServed).answer (clicksTwice, ()))) := by
    decide +kernel
  have unlinked : accountIn clicksTwice.here "params" clicksTwice.tree = .ok none :=
    Control.accountIn_filed named keyed
  obtain ⟨n, parts, last, reached, -, lines, same⟩ := panel_plays (Server.always keyServed) ()
    opens rfl unlinked "\nq\n\nq\n" rfl (steady_until stopped unrefused)
  refine ⟨parts, last.1, always_runs keyServed reached, lines, same.requests.symm.trans ?_⟩
  decide +kernel

end LinkedKeys.Program

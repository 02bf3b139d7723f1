import LinkedKeys.Proofs.Program.RoundTrip

namespace LinkedKeys.Program

open Account Script
open Control (accountIn Session)
open Files (Tree)
open Report (Json Style)
open Store.Directory (Filed Unread fileOf filed_or_unread get_filed get_unread)

variable {web : Web} {w : World} {here : List String} {dir : String} {t : Tree}
  {env : Environment} {args : List String} {invocation : Invocation} {context : Context}
  {style : Style} {failure : Failure} {account : Account}
  {standing : Except Failure (Option Account)}

-- The keys are read before the username, so they are what a failure names when neither can be read.
inductive Stands (here : List String) (dir : String) (t : Tree) :
    Except Failure (Option Account) → Prop where
  | keysUnread (unread : Unread here dir t keysKey) :
      Stands here dir t (.error (.unreadable keysKey (fileOf dir keysKey)))
  | nameUnread {keys? : Option String} (blob : Filed here dir t keysKey keys?)
      (unread : Unread here dir t usernameKey) :
      Stands here dir t (.error (.unreadable usernameKey (fileOf dir usernameKey)))
  | linked {username keys : String} (name : Filed here dir t usernameKey (some username))
      (blob : Filed here dir t keysKey (some keys)) (named : username ≠ "") (full : keys ≠ "") :
      Stands here dir t (.ok (some ⟨username, keys⟩))
  | unlinked {name? keys? : Option String} (name : Filed here dir t usernameKey name?)
      (blob : Filed here dir t keysKey keys?) (half : name?.getD "" = "" ∨ keys?.getD "" = "") :
      Stands here dir t (.ok none)

theorem stands_read (stands : Stands here dir t standing) : accountIn here dir t = standing := by
  cases stands with
  | keysUnread unread =>
      have read : (Store.get keysKey).run.run (Store.Directory.serve here dir) t = _ :=
        get_unread Control.keys_plain unread
      rw [accountIn, stored, run_then, read]
  | nameUnread blob unread =>
      have first : (Store.get keysKey).run.run (Store.Directory.serve here dir) t = _ :=
        get_filed Control.keys_plain blob
      have second : (Store.get usernameKey).run.run (Store.Directory.serve here dir) t = _ :=
        get_unread Control.username_plain unread
      simp only [accountIn, stored, run_then, first, second]
  | linked name blob named full =>
      rw [Control.accountIn_filed name blob]
      simp [ofParts, named, full]
  | unlinked name blob half =>
      rw [Control.accountIn_filed name blob, ofParts, if_pos half.symm]

theorem stands_some (here : List String) (dir : String) (t : Tree) :
    ∃ standing, Stands here dir t standing := by
  obtain ⟨keys?, blob⟩ | unread := filed_or_unread here dir t keysKey
  · obtain ⟨name?, name⟩ | unread := filed_or_unread here dir t usernameKey
    · by_cases half : name?.getD "" = "" ∨ keys?.getD "" = ""
      · exact ⟨_, .unlinked name blob half⟩
      · obtain ⟨named, full⟩ := not_or.mp half
        cases name? with
        | none => exact absurd rfl named
        | some username =>
            cases keys? with
            | none => exact absurd rfl full
            | some keys => exact ⟨_, .linked name blob named full⟩
    · exact ⟨_, .nameUnread blob unread⟩
  · exact ⟨_, .keysUnread unread⟩

-- Every command reads the account first, and goes no further where it cannot be read.
theorem run_unread {command : Command} {act : Action Unit}
    (acts : action style context command = some act)
    (reads : accountIn w.here context.paramsDir w.tree = .error failure) :
    act.run.run (World.answer web) w = (.error failure, w) := by
  cases command with
  | panel => cases acts
  | status json =>
      cases acts
      rw [status, run_then, run_current, reads]
      rfl
  | link text? =>
      cases acts
      rw [link, run_then, run_current, reads]
      rfl
  | unlink =>
      cases acts
      rw [unlink, run_then, run_current, reads]
      rfl
  | authorizedKeys =>
      cases acts
      rw [authorizedKeys, run_then, run_current, reads]
      rfl

theorem run_authorizedKeys_idle (idle : accountIn w.here context.paramsDir w.tree = .ok none) :
    (authorizedKeys context).run.run (World.answer web) w = (.ok (), w) := by
  rw [authorizedKeys, run_then, run_current, idle]
  simp only [Except.map]
  rw [run_then, run_stored, idle]
  rfl

-- What has been written stays written.
theorem run_output {α : Type} (web : Web) (script : Script α) (w : World) :
    ∃ more, (script.run (World.answer web) w).2.output = w.output ++ more := by
  refine Script.run_related (fun v w => ∃ more, w.output = v.output ++ more) ?_ ?_
    (World.answer web) ?_ script w
  · intro w
    exact ⟨"", String.append_empty.symm⟩
  · intro u v w first second
    obtain ⟨early, first⟩ := first
    obtain ⟨late, second⟩ := second
    exact ⟨early ++ late, by rw [second, first, String.append_assoc]⟩
  · intro call w
    cases call with
    | print text => exact ⟨text, rfl⟩
    | request url seconds =>
        refine ⟨"", ?_⟩
        simp only [World.answer]
        split <;> exact String.append_empty.symm
    | files | complain | readLine | client => exact ⟨"", String.append_empty.symm⟩

theorem link_prompts (idle : accountIn w.here context.paramsDir w.tree = .ok none) :
    ∃ more, ((link style context none).run.run (World.answer web) w).2.output =
      w.output ++ style.warning warningText ++ "  Enter your GitHub username: " ++ more := by
  have asks : ∃ next, (Terminal.mk context style none false).carryOut
      (Session.click { state := .unlinked }) =
        .ask (.print "  Enter your GitHub username: ") next := ⟨_, rfl⟩
  obtain ⟨next, asks⟩ := asks
  rw [run_link_unlinked none idle, asks]
  simp only [Script.run]
  obtain ⟨typed, early⟩ := run_output web (next ()) (World.answer web
    (.print "  Enter your GitHub username: ") (warned style none w)).2
  generalize (next ()).run (World.answer web) (World.answer web
    (.print "  Enter your GitHub username: ") (warned style none w)).2 = clicked at early ⊢
  obtain ⟨told, late⟩ := run_output web (concluded style context clicked.1).run clicked.2
  refine ⟨typed ++ told, ?_⟩
  rw [late, early, String.append_assoc]
  rfl

-- Whatever the command, the failure and the exit code are the same.
def FailsWith (web : Web) (env : Environment) (args : List String) (invocation : Invocation)
    (failure : Failure) (w : World) : Prop :=
  invocation.command ≠ .panel → World.run web env args w =
    (1, { w with errors := w.errors ++
      (styleOf env invocation).error ("Error: " ++ failure.message) })

-- A link is refused for the account that the other commands show, and nothing is asked for.
def Refuses (web : Web) (env : Environment) (args : List String) (invocation : Invocation)
    (username : String) (w : World) : Prop :=
  ∀ text?, invocation.command = .link text? → World.run web env args w =
    (1, { w with errors := w.errors ++
      (styleOf env invocation).error ("Error: " ++ (Failure.alreadyLinked username).message) })

-- What the commands make of a world whose tree holds no account. A link clicks an unlinked control,
-- and ends as that click does: it asks for a name, or goes by the one it was given.
structure ReadsNone (web : Web) (env : Environment) (args : List String) (invocation : Invocation)
    (context : Context) (w : World) : Prop where
  keys : invocation.command = .authorizedKeys → World.run web env args w = (0, w)
  report : invocation.command = .status true →
    World.run web env args w = (0, { w with output := w.output ++
      ((Json.object [("linked", .boolean false), ("username", .null), ("keys", .list [])]).render ++
        "\n") })
  listing : invocation.command = .status false →
    World.run web env args w = (0, { w with output := w.output ++
      ((styleOf env invocation).warning "No account linked." ++
        "  Run 'keylink link <username>' to add one.\n") })
  unlink : invocation.command = .unlink →
    World.run web env args w = (0, { w with output := w.output ++
      ((styleOf env invocation).warning "No account linked.") })
  clicks : ∀ text?, invocation.command = .link text? → ∃ ended after,
    ((Terminal.mk context (styleOf env invocation) text? false).carryOut
      (Session.click { state := .unlinked })).run (World.answer web)
        (warned (styleOf env invocation) text? w) = (ended, after) ∧
    World.run web env args w = exitOf (styleOf env invocation)
      ((concluded (styleOf env invocation) context ended).run.run (World.answer web) after)
  prompts : invocation.command = .link none → ∃ more, (World.run web env args w).2.output =
    w.output ++ (styleOf env invocation).warning warningText ++
      "  Enter your GitHub username: " ++ more
  submits : ∀ text, invocation.command = .link (some text) → ∃ code after,
    World.run web env args w = (code, after) ∧
    Linkage web context (styleOf env invocation) text none w code after

theorem action_some (style : Style) (context : Context) {command : Command}
    (notPanel : command ≠ .panel) : ∃ act, action style context command = some act := by
  cases command with
  | panel => exact absurd rfl notPanel
  | status json => exact ⟨_, rfl⟩
  | link text? => exact ⟨_, rfl⟩
  | unlink => exact ⟨_, rfl⟩
  | authorizedKeys => exact ⟨_, rfl⟩

theorem opens_fails (opens : Opens env args w invocation context)
    (reads : accountIn w.here context.paramsDir w.tree = .error failure) :
    FailsWith web env args invocation failure w := by
  intro notPanel
  obtain ⟨act, acts⟩ := action_some (styleOf env invocation) context notPanel
  rw [run_action opens acts, run_unread acts reads]
  rfl

theorem opens_refuses (opens : Opens env args w invocation context)
    (linked : accountIn w.here context.paramsDir w.tree = .ok (some account)) :
    Refuses web env args invocation account.username w := by
  intro text? command
  rw [run_action opens (by rw [command]; rfl), run_link_linked text? linked]
  rfl

theorem opens_readsNone (opens : Opens env args w invocation context)
    (idle : accountIn w.here context.paramsDir w.tree = .ok none) :
    ReadsNone web env args invocation context w := by
  refine ⟨?_, ?_, ?_, ?_, ?_, ?_, ?_⟩
  · intro command
    rw [run_action opens (by rw [command]; rfl), run_authorizedKeys_idle idle]
    rfl
  · intro command
    rw [run_action opens (by rw [command]; rfl), run_status true idle]
    rfl
  · intro command
    rw [run_action opens (by rw [command]; rfl), run_status false idle]
    rfl
  · intro command
    rw [run_action opens (by rw [command]; rfl), run_unlink_idle idle]
    rfl
  · intro text? command
    refine ⟨_, _, rfl, ?_⟩
    rw [run_action opens (by rw [command]; rfl), run_link_unlinked text? idle]
  · intro command
    rw [run_action opens (by rw [command]; rfl), exitOf_output]
    exact link_prompts idle
  · intro text command
    rw [run_action opens (by rw [command]; rfl)]
    exact idle_linkage idle

-- What all commands with one directory of parameters make of one world.
structure Accord (web : Web) (dir : String) (w : World)
    (standing : Except Failure (Option Account)) : Prop where
  stands : Stands w.here dir w.tree standing
  unread : ∀ failure, standing = .error failure → ∀ env args invocation context,
    Opens env args w invocation context → context.paramsDir = dir →
    FailsWith web env args invocation failure w
  linked : ∀ account, standing = .ok (some account) → ∀ env args invocation context,
    Opens env args w invocation context → context.paramsDir = dir →
    ReadsBack web env args invocation context account.username account.keys w ∧
    Refuses web env args invocation account.username w
  unlinked : standing = .ok none → ∀ env args invocation context,
    Opens env args w invocation context → context.paramsDir = dir →
    ReadsNone web env args invocation context w

theorem stands_accord (web : Web) (stands : Stands w.here dir w.tree standing) :
    Accord web dir w standing := by
  have reads := stands_read stands
  refine ⟨stands, ?_, ?_, ?_⟩
  · intro failure same env args invocation context opens sameDir
    subst same sameDir
    exact opens_fails opens reads
  · intro account same env args invocation context opens sameDir
    subst same sameDir
    refine ⟨?_, opens_refuses opens reads⟩
    cases stands with
    | linked name blob named full => exact filed_readsBack opens name blob named full
  · intro same env args invocation context opens sameDir
    subst same sameDir
    exact opens_readsNone opens reads

-- Settings that cannot be resolved end every command before it begins.
theorem run_unresolved (read : Arguments.read env args = .ok invocation)
    (unresolved : ((Context.resolve invocation.options env).run (Tree.answer w.here) w.tree).1 =
      .error failure) :
    World.run web env args w = exitOf (styleOf env invocation) (.error failure, w) := by
  have resolved : (ExceptT.mk (filing (Context.resolve invocation.options env)) : Action Context).run.run
      (World.answer web) w = (.error failure, w) := by
    refine (run_filing _).trans ?_
    rw [unresolved, resolve_quiet]
  simp only [World.run, opening, read]
  rw [run_do, ← styleOf, start, run_then, resolved]
  exact follow_exit 1 _

-- The commands that only show what is stored.
def Shows (command : Command) : Prop :=
  command = .authorizedKeys ∨ ∃ json, command = .status json

theorem shows_not_panel {command : Command} (shows : Shows command) : command ≠ .panel := by
  obtain rfl | ⟨json, rfl⟩ := shows
  · exact nofun
  · exact nofun

theorem shows_quiet {act : Action Unit} (web : Web) (w : World) {command : Command}
    (acts : action style context command = some act) (shows : Shows command) :
    (act.run.run (World.answer web) w).2.tree = w.tree ∧
      (act.run.run (World.answer web) w).2.requests = w.requests := by
  cases reads : accountIn w.here context.paramsDir w.tree with
  | error failure =>
      rw [run_unread acts reads]
      exact ⟨rfl, rfl⟩
  | ok account? =>
      obtain rfl | ⟨json, rfl⟩ := shows
      · cases acts
        cases account? with
        | none =>
            rw [run_authorizedKeys_idle reads]
            exact ⟨rfl, rfl⟩
        | some account =>
            rw [run_authorizedKeys reads]
            exact ⟨rfl, rfl⟩
      · cases acts
        rw [run_status json reads]
        exact ⟨rfl, rfl⟩

-- A link alone, and a panel, have something to ask for.
theorem unlink_unasked (web : Web) (style : Style) (context : Context) (w : World) :
    ((unlink style context).run.run (World.answer web) w).2.requests = w.requests := by
  obtain ⟨standing, stands⟩ := stands_some w.here context.paramsDir w.tree
  have reads := stands_read stands
  have acts : action style context .unlink = some (unlink style context) := rfl
  cases stands with
  | keysUnread unread => rw [run_unread acts reads]
  | nameUnread blob unread => rw [run_unread acts reads]
  | linked name blob named full =>
      obtain ⟨after, ran, _⟩ := run_unlink_linked web style name blob named full
      rw [ran]
  | unlinked name blob half => rw [run_unlink_idle reads]

theorem action_unasked {act : Action Unit} (web : Web) (w : World) {command : Command}
    (acts : action style context command = some act) (notLink : ∀ text?, command ≠ .link text?) :
    (act.run.run (World.answer web) w).2.requests = w.requests := by
  cases command with
  | panel => cases acts
  | status json => exact (shows_quiet web w acts (.inr ⟨json, rfl⟩)).2
  | authorizedKeys => exact (shows_quiet web w acts (.inl rfl)).2
  | link text? => exact absurd rfl (notLink text?)
  | unlink =>
      cases acts
      exact unlink_unasked web style context w

theorem opens_or_fails (read : Arguments.read env args = .ok invocation) :
    (∃ context, Opens env args w invocation context) ∨
      ∃ failure, ((Context.resolve invocation.options env).run (Tree.answer w.here) w.tree).1 =
        .error failure := by
  cases resolved : ((Context.resolve invocation.options env).run (Tree.answer w.here) w.tree).1 with
  | error failure => exact .inr ⟨failure, rfl⟩
  | ok context => exact .inl ⟨context, read, resolved⟩

theorem shows_leave_tree (web : Web) (w : World) (read : Arguments.read env args = .ok invocation)
    (shows : Shows invocation.command) : (World.run web env args w).2.tree = w.tree := by
  obtain ⟨context, opens⟩ | ⟨failure, unresolved⟩ := opens_or_fails (w := w) read
  · obtain ⟨act, acts⟩ := action_some (styleOf env invocation) context (shows_not_panel shows)
    rw [run_action opens acts, exitOf_tree]
    exact (shows_quiet web w acts shows).1
  · rw [run_unresolved read unresolved]
    rfl

theorem only_links_ask (web : Web) (w : World) (read : Arguments.read env args = .ok invocation)
    (notPanel : invocation.command ≠ .panel) (notLink : ∀ text?, invocation.command ≠ .link text?) :
    (World.run web env args w).2.requests = w.requests := by
  obtain ⟨context, opens⟩ | ⟨failure, unresolved⟩ := opens_or_fails (w := w) read
  · obtain ⟨act, acts⟩ := action_some (styleOf env invocation) context notPanel
    rw [run_action opens acts, exitOf_requests]
    exact action_unasked web w acts notLink
  · rw [run_unresolved read unresolved]
    rfl

-- For every state of the files there is one standing that all commands agree on. Showing it changes
-- no file, and of the commands that come to an end by themselves only a link asks for anything.
theorem commands_accord (web : Web) (dir : String) (w : World) :
    (∃! standing, Accord web dir w standing) ∧
    ∀ env args invocation, Arguments.read env args = .ok invocation →
      (Shows invocation.command → (World.run web env args w).2.tree = w.tree) ∧
      (invocation.command ≠ .panel → (∀ text?, invocation.command ≠ .link text?) →
        (World.run web env args w).2.requests = w.requests) := by
  refine ⟨?_, ?_⟩
  · obtain ⟨standing, stands⟩ := stands_some w.here dir w.tree
    refine ⟨standing, stands_accord web stands, ?_⟩
    intro other accord
    exact (stands_read accord.stands).symm.trans (stands_read stands)
  · intro env args invocation read
    exact ⟨shows_leave_tree web w read, only_links_ask web w read⟩

-- Half an account is none to every command, and taking it away asks for nothing.
theorem half_account_accords : Accord (fun _ => .refused) "params" leftover (.ok none) ∧
    Arguments.read {} ["--params-dir", "params", "unlink"] =
      .ok ⟨{ paramsDir := some "params" }, .unlink⟩ ∧
    (World.run (fun _ => .refused) {} ["--params-dir", "params", "unlink"] leftover).2.requests =
      [] := by
  have name : Filed [] "params" leftover.tree usernameKey (some "alice") := by decide +kernel
  have blob : Filed [] "params" leftover.tree keysKey none := by decide +kernel
  have read : Arguments.read {} ["--params-dir", "params", "unlink"] =
      .ok ⟨{ paramsDir := some "params" }, .unlink⟩ := by decide
  obtain ⟨⟨standing, accord, _⟩, quiet⟩ := commands_accord (fun _ => .refused) "params" leftover
  have none : standing = .ok none :=
    (stands_read accord.stands).symm.trans (Control.accountIn_filed name blob)
  refine ⟨none ▸ accord, read, ?_⟩
  exact (quiet _ _ _ read).2 nofun (fun _ => nofun)

end LinkedKeys.Program

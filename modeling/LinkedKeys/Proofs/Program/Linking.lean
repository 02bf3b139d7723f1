import LinkedKeys.Proofs.Control.Effects
import LinkedKeys.Proofs.Control.Naming
import LinkedKeys.Proofs.Program.Runs
import LinkedKeys.Proofs.Web.Answers

namespace LinkedKeys.Program

open Account Script
open Control (accountIn cleaned Alert Effect Outcome Session State)
open Files (Tree)
open Report (Style)
open Store.Directory (serve Filed)
open Web (destination keysUrl)

variable {web : Web} {w : World} {env : Environment} {args : List String} {invocation : Invocation}
  {context : Context} {style : Style} {text host name : String} {s : Session}

-- How the session of a command that was given a name is carried out in a world.
def carried (web : Web) (context : Context) (style : Style) (text : String)
    (c : Control.Session.Call) (w : World) : c.Answer × World :=
  ((Terminal.mk context style (some text) false).answer c).run (World.answer web) w

-- What comes of asking for the keys of a name, and the request that is seen for it.
def asked (web : Web) (host name : String) : Outcome × List Web.Request :=
  match destination (keysUrl host name) with
  | .error outcome => (outcome, [])
  | .ok url =>
      (Web.judge (keysUrl host name) url (web url),
       if (web url).isSeen then [Web.Request.toGet url] else [])

theorem run_fetch (host : String) (seconds : Nat) (name : String) :
    (fetch host seconds name).run (World.answer web) w = ((asked web host name).1,
      { w with requests := w.requests ++ (asked web host name).2 }) := by
  simp only [fetch, asked]
  cases destination (keysUrl host name) with
  | error outcome => simp [pure, Script.run]
  | ok url =>
      simp only [Script.run, World.answer, pure]
      split <;> simp

-- Keys for a name are brought by a request that can be made, in a whole answer.
def Brings (web : Web) (host name : String) (url : Web.Url) : Prop :=
  destination (keysUrl host name) = .ok url ∧ ∃ body, (web url).Brings body

-- What is told where none are: there is no request for the name, or what it comes to is told.
inductive Fruitless (web : Web) (host name : String) : Alert → Prop where
  | unsayable {outcome : Outcome} (none : destination (keysUrl host name) = .error outcome)
      (reason : String) : Fruitless web host name (.requestFailed reason)
  | answered {url : Web.Url} {alert : Alert} (said : destination (keysUrl host name) = .ok url)
      (told : Web.Told name (web url) alert) : Fruitless web host name alert

theorem destination_error {text : String} {outcome : Outcome}
    (none : destination text = .error outcome) : ∃ reason, outcome = .failed reason := by
  unfold destination at none
  split at none
  · cases none
    exact ⟨_, rfl⟩
  · dsimp only at none
    split at none
    · cases none
    · cases none
      exact ⟨_, rfl⟩

theorem asked_requests (web : Web) (host name : String) : (asked web host name).2 = [] ∨
    ∃ url, destination (keysUrl host name) = .ok url ∧
      (asked web host name).2 = [Web.Request.toGet url] := by
  unfold asked
  cases said : destination (keysUrl host name) with
  | error outcome => exact .inl rfl
  | ok url =>
      by_cases seen : (web url).isSeen = true
      · exact .inr ⟨url, rfl, if_pos seen⟩
      · exact .inl (if_neg seen)

theorem asked_brings {url : Web.Url} {body : List UInt8}
    (said : destination (keysUrl host name) = .ok url) (brings : (web url).Brings body) :
    asked web host name = (.fetched (Text.ofBytesReplacing body), [Web.Request.toGet url]) := by
  simp only [asked, said, Web.judge_brings brings, brings.seen, if_true]

theorem asked_fruitless (none : ¬∃ url, Brings web host name url) :
    ∃ alert, Fruitless web host name alert ∧ (asked web host name).1.alert? name = some alert := by
  unfold asked
  cases said : destination (keysUrl host name) with
  | error outcome =>
      obtain ⟨reason, rfl⟩ := destination_error said
      exact ⟨_, .unsayable said reason, rfl⟩
  | ok url =>
      obtain ⟨alert, told, alerted⟩ := Web.judge_told name (keysUrl host name) url
        fun brings => none ⟨url, said, brings⟩
      exact ⟨alert, .answered said told, alerted⟩

theorem carried_store (call : Store.Call) : carried web context style text (.store call) w =
    ((serve w.here context.paramsDir call w.tree).1,
     { w with tree := (serve w.here context.paramsDir call w.tree).2 }) := by
  rw [carried, Terminal.answer, run_filing]
  rfl

theorem run_stored_calls {α : Type} (script : Store.Script α) :
    (Session.storing script).run (carried web context style text) w =
      ((script.run (serve w.here context.paramsDir) w.tree).1,
       { w with tree := (script.run (serve w.here context.paramsDir) w.tree).2 }) := by
  rw [Session.storing, run_through]
  exact run_part (fun call w => carried web context style text (.store call) w)
    (fun w => serve w.here context.paramsDir) World.tree (fun tree w => { w with tree })
    (fun _ _ => rfl) (fun _ _ _ => rfl) (fun _ => rfl) (fun _ _ => rfl) (fun _ _ => carried_store _)
    script w

theorem run_take (event : Control.Event) :
    (s.take event).run (carried web context style text) w =
      let (turn, tree) := (Control.handle s.state event).run (serve w.here context.paramsDir) w.tree
      ((turn.result, { s with state := turn.state }), { w with tree }) := by
  rw [Session.take, run_do, run_stored_calls]
  rfl

theorem run_queue (effect : Effect) (queue : List Effect) :
    (Session.performAll (effect :: queue) s).run (carried web context style text) w =
      match (s.perform effect).run (carried web context style text) w with
      | ((.ok next, s), w) => (Session.performAll (queue ++ next) s).run (carried web context style text) w
      | ((.error failure, s), w) => ((.error failure, s), w) := by
  rw [Session.performAll_cons, run_do]
  rcases (s.perform effect).run (carried web context style text) w with ⟨⟨result, s⟩, w⟩
  cases result <;> rfl

theorem carried_render (view : Control.View) :
    carried web context style text (.render view) w = (.ok (), w) := by
  rw [carried, Terminal.answer, if_pos (.inr rfl)]
  rfl

-- Nothing is drawn, and an alert is a line among the errors.
theorem run_drawn : (s.perform .render).run (carried web context style text) w = ((.ok [], s), w) := by
  have drawn : s.render.run (carried web context style text) w = ((.ok (), s), w) := by
    rw [Session.render, Script.run, carried_render]
    rfl
  rw [Session.perform, run_do, drawn]
  rfl

theorem run_render : (Session.performAll [.render] s).run (carried web context style text) w =
    ((.ok (), s), w) := by
  rw [run_queue, run_drawn]
  rfl

theorem run_alert (alert : Alert) :
    (Session.performAll [.alert alert, .render] s).run (carried web context style text) w =
      ((.ok (), { s with lastAlert := some alert }),
       { w with errors := w.errors ++ style.error alert.message }) := by
  rw [run_queue]
  exact run_render

theorem run_asked (name : String) :
    (s.perform (.fetch name)).run (carried web context style text) w =
      let (outcome, requests) := asked web context.host name
      let (turn, tree) :=
        (Control.finish s.state name outcome).run (serve w.here context.paramsDir) w.tree
      ((turn.result, { s with state := turn.state }),
       { w with tree, requests := w.requests ++ requests }) := by
  have fetched : carried web context style text (.fetch name) w = ((asked web context.host name).1,
      { w with requests := w.requests ++ (asked web context.host name).2 }) := by
    rw [carried, Terminal.answer, run_fetch]
  simp only [Session.perform, Script.run, fetched, run_take, Control.handle]

-- The click asks for a name and is given the one from before.
theorem run_click {state : State} {effects : List Effect}
    (submitted : Control.submit .unlinked text = ⟨state, .ok effects⟩) :
    (Session.click { state := .unlinked }).run (carried web context style text) w =
      (Session.performAll effects ⟨state, none⟩).run (carried web context style text) w := by
  have prompted : (Session.perform ⟨.unlinked, none⟩ .prompt).run (carried web context style text) w =
      ((.ok effects, ⟨state, none⟩), w) := by
    have answered : (Session.take ⟨.unlinked, none⟩ (.submitted text)).run
        (carried web context style text) w = _ := run_take _
    simp only [Control.handle, submitted] at answered
    exact answered
  have clicked : (Session.take ⟨.unlinked, none⟩ .clicked).run (carried web context style text) w =
      ((.ok [.prompt], ⟨.unlinked, none⟩), w) := run_take _
  rw [Session.click, run_do, clicked]
  refine (run_queue _ _).trans ?_
  rw [prompted]
  rfl

theorem run_link_linked {account : Account} (text? : Option String)
    (linked : accountIn w.here context.paramsDir w.tree = .ok (some account)) :
    (link style context text?).run.run (World.answer web) w =
      (.error (.alreadyLinked account.username), w) := by
  rw [link, run_then, run_current, linked]
  rfl

-- What is left to do when the click has come to its end.
def concluded (style : Style) (context : Context) (ended : Except Failure Unit × Session) :
    Action Unit := do
  settled ended.1
  if ended.2.lastAlert.isSome then throw .notLinked
  print (linkReport style (← storing context.paramsDir stored))

-- The warning that goes before a prompt. A name that is given is not prompted for.
def warned (style : Style) (text? : Option String) (w : World) : World :=
  if text? = none then { w with output := w.output ++ style.warning warningText } else w

theorem run_link_unlinked (text? : Option String)
    (idle : accountIn w.here context.paramsDir w.tree = .ok none) :
    (link style context text?).run.run (World.answer web) w =
      let (ended, after) := ((Terminal.mk context style text? false).carryOut
        (Session.click { state := .unlinked })).run (World.answer web) (warned style text? w)
      (concluded style context ended).run.run (World.answer web) after := by
  rw [link, run_then, run_current, idle]
  simp only [Except.map, State.ofAccount]
  cases text? with
  | none =>
      rw [if_pos rfl, run_then, print, run_lift]
      simp only
      rw [run_then, run_connecting]
      simp only
      rw [run_then, run_lift]
      rfl
  | some text =>
      rw [if_neg (Option.some_ne_none text), run_then, run_connecting]
      simp only
      rw [run_then, run_lift]
      rfl

theorem run_link_idle (idle : accountIn w.here context.paramsDir w.tree = .ok none) :
    (link style context (some text)).run.run (World.answer web) w =
      let (ended, after) :=
        (Session.click { state := .unlinked }).run (carried web context style text) w
      (concluded style context ended).run.run (World.answer web) after := by
  rw [run_link_unlinked (some text) idle, warned, if_neg (Option.some_ne_none text),
    Terminal.carryOut, run_through]
  rfl

theorem run_concluded_alert {ended : Except Failure Unit × Session} {alert : Alert}
    (fine : ended.1 = .ok ()) (told : ended.2.lastAlert = some alert) :
    (concluded style context ended).run.run (World.answer web) w = (.error .notLinked, w) := by
  rw [concluded, run_then, run_settled, fine, told]
  rfl

theorem run_concluded (ended : Except Failure Unit × Session) (quiet : ended.2.lastAlert = none) :
    (concluded style context ended).run.run (World.answer web) w =
      match ended.1, accountIn w.here context.paramsDir w.tree with
      | .ok (), .ok account? => (.ok (), { w with output := w.output ++ linkReport style account? })
      | .ok (), .error failure => (.error failure, w)
      | .error failure, _ => (.error failure, w) := by
  rw [concluded, run_then, run_settled, quiet]
  cases ended.1 with
  | error failure => rfl
  | ok done =>
      simp only [Option.isSome_none, Bool.false_eq_true, if_false]
      rw [run_then, run_stored]
      cases accountIn w.here context.paramsDir w.tree <;> rfl

theorem run_link_blank (idle : accountIn w.here context.paramsDir w.tree = .ok none)
    (blank : cleaned text = "") :
    (link style context (some text)).run.run (World.answer web) w =
      (.ok (), { w with output := w.output ++ linkReport style none }) := by
  have submitted := Control.submit_unlinked text
  rw [if_pos blank] at submitted
  rw [run_link_idle idle, run_click submitted]
  exact (run_concluded _ rfl).trans (by rw [idle])

theorem run_link_invalid (idle : accountIn w.here context.paramsDir w.tree = .ok none)
    (full : cleaned text ≠ "") (invalid : Username.isValid (cleaned text) = false) :
    (link style context (some text)).run.run (World.answer web) w =
      (.error .notLinked, { w with
        errors := w.errors ++ style.error (Alert.message (.invalidUsername (cleaned text))) }) := by
  have submitted := Control.submit_unlinked text
  rw [if_neg full, if_neg (by simp [invalid])] at submitted
  rw [run_link_idle idle, run_click submitted, run_alert]
  exact run_concluded_alert rfl rfl

-- The fetch stands behind a first drawing, and what it leads to behind the fetch.
theorem run_link_valid {outcome : Outcome} {requests : List Web.Request} {turn : Control.Turn}
    {tree : Tree} (idle : accountIn w.here context.paramsDir w.tree = .ok none)
    (valid : Username.isValid (cleaned text) = true)
    (brought : asked web context.host (cleaned text) = (outcome, requests))
    (finished : (Control.finish (.loading (cleaned text)) (cleaned text) outcome).run
      (serve w.here context.paramsDir) w.tree = (turn, tree)) :
    (link style context (some text)).run.run (World.answer web) w =
      let (ended, after) := match turn.result with
        | .ok effects => (Session.performAll effects ⟨turn.state, none⟩).run
            (carried web context style text) { w with tree, requests := w.requests ++ requests }
        | .error failure => ((.error failure, ⟨turn.state, none⟩),
            { w with tree, requests := w.requests ++ requests })
      (concluded style context ended).run.run (World.answer web) after := by
  have submitted := Control.submit_unlinked text
  rw [if_neg (Control.valid_name valid), if_pos valid] at submitted
  have fetched : (Session.perform ⟨.loading (cleaned text), none⟩ (.fetch (cleaned text))).run
      (carried web context style text) w = ((turn.result, ⟨turn.state, none⟩),
        { w with tree, requests := w.requests ++ requests }) := by
    rw [run_asked]
    simp only [brought, finished]
  rw [run_link_idle idle, run_click submitted, run_queue, run_drawn]
  simp only [List.append_nil]
  rw [run_queue, fetched]
  cases turn.result with
  | error failure => rfl
  | ok effects => rfl

theorem run_link_rejected {outcome : Outcome} {requests : List Web.Request} {alert : Alert}
    (idle : accountIn w.here context.paramsDir w.tree = .ok none)
    (valid : Username.isValid (cleaned text) = true)
    (brought : asked web context.host (cleaned text) = (outcome, requests))
    (rejected : outcome.alert? (cleaned text) = some alert) :
    (link style context (some text)).run.run (World.answer web) w =
      (.error .notLinked, { w with
        requests := w.requests ++ requests
        errors := w.errors ++ style.error alert.message }) := by
  rw [run_link_valid idle valid brought (Control.finish_rejected rejected idle)]
  simp only
  rw [run_alert]
  exact run_concluded_alert rfl rfl

theorem run_link_fetched {keys : String} {requests : List Web.Request} {turn : Control.Turn}
    {tree : Tree} (idle : accountIn w.here context.paramsDir w.tree = .ok none)
    (valid : Username.isValid (cleaned text) = true)
    (brought : asked web context.host (cleaned text) = (.fetched keys, requests)) (full : keys ≠ "")
    (finished : (Control.finish (.loading (cleaned text)) (cleaned text) (.fetched keys)).run
      (serve w.here context.paramsDir) w.tree = (turn, tree)) :
    (link style context (some text)).run.run (World.answer web) w =
      match turn.result, accountIn w.here context.paramsDir tree with
      | .ok _, .ok account? => (.ok (), { w with
          tree, requests := w.requests ++ requests, output := w.output ++ linkReport style account? })
      | .ok _, .error failure =>
          (.error failure, { w with tree, requests := w.requests ++ requests })
      | .error failure, _ => (.error failure, { w with tree, requests := w.requests ++ requests }) := by
  rw [run_link_valid idle valid brought finished]
  cases led : turn.result with
  | error failure => exact run_concluded (.error failure, ⟨turn.state, none⟩) rfl
  | ok effects =>
      obtain rfl := Control.finish_unalerted full finished led
      simp only
      rw [run_render]
      refine (run_concluded _ rfl).trans ?_
      cases accountIn w.here context.paramsDir tree <;> rfl

-- What becomes of a world in which a link is asked for by name.
structure Linkage (web : Web) (context : Context) (style : Style) (text : String)
    (account? : Option Account) (w : World) (code : Nat) (after : World) : Prop where
  touched : after.tree ≠ w.tree → account? = none ∧ Username.isValid (cleaned text) = true ∧
    ∃ url, Brings web context.host (cleaned text) url ∧
      after.requests = w.requests ++ [Web.Request.toGet url]
  linked : ∀ account, account? = some account → code = 1 ∧ after.requests = w.requests ∧
    after.errors = w.errors ++ style.error ("Error: " ++ (Failure.alreadyLinked account.username).message)
  blank : account? = none → cleaned text = "" →
    code = 0 ∧ after.requests = w.requests ∧ after.errors = w.errors
  invalid : account? = none → cleaned text ≠ "" → Username.isValid (cleaned text) = false →
    code = 1 ∧ after.requests = w.requests ∧
    after.errors = w.errors ++ style.error (Alert.invalidUsername (cleaned text)).message ++
      style.error ("Error: " ++ Failure.notLinked.message)
  once : after.requests = w.requests ∨
    ∃ url, destination (keysUrl context.host (cleaned text)) = .ok url ∧
      after.requests = w.requests ++ [Web.Request.toGet url]
  told : account? = none → Username.isValid (cleaned text) = true →
    (¬∃ url, Brings web context.host (cleaned text) url) →
    ∃ alert, Fruitless web context.host (cleaned text) alert ∧ code = 1 ∧
      after.errors = w.errors ++ style.error alert.message ++
        style.error ("Error: " ++ Failure.notLinked.message)

theorem blank_linkage (blank : cleaned text = "") (output : String) :
    Linkage web context style text none w 0 { w with output } where
  touched := fun moved => absurd rfl moved
  linked := nofun
  blank := fun _ _ => ⟨rfl, rfl, rfl⟩
  invalid := fun _ full => absurd blank full
  once := .inl rfl
  told := fun _ valid => absurd blank (Control.valid_name valid)

theorem invalid_linkage (full : cleaned text ≠ "") (invalid : Username.isValid (cleaned text) = false) :
    Linkage web context style text none w 1 { w with
      errors := w.errors ++ style.error (Alert.invalidUsername (cleaned text)).message ++
        style.error ("Error: " ++ Failure.notLinked.message) } where
  touched := fun moved => absurd rfl moved
  linked := nofun
  blank := fun _ blank => absurd blank full
  invalid := fun _ _ _ => ⟨rfl, rfl, rfl⟩
  once := .inl rfl
  told := fun _ valid => absurd (valid.symm.trans invalid) nofun

-- The request, if there is one, is all that is left of a name for which nothing is brought.
theorem fruitless_linkage {alert : Alert} (valid : Username.isValid (cleaned text) = true)
    (fruitless : Fruitless web context.host (cleaned text) alert) :
    Linkage web context style text none w 1 { w with
      requests := w.requests ++ (asked web context.host (cleaned text)).2
      errors := w.errors ++ style.error alert.message ++
        style.error ("Error: " ++ Failure.notLinked.message) } where
  touched := fun moved => absurd rfl moved
  linked := nofun
  blank := fun _ blank => absurd blank (Control.valid_name valid)
  invalid := fun _ _ invalid => absurd (valid.symm.trans invalid) nofun
  once := by
    rcases asked_requests web context.host (cleaned text) with none | ⟨url, said, one⟩
    · exact .inl (by simp [none])
    · exact .inr ⟨url, said, by simp [one]⟩
  told := fun _ _ _ => ⟨alert, fruitless, rfl, rfl⟩

-- Whether what is brought can be stored is left open here.
theorem fruitful_linkage {url : Web.Url} {code : Nat} {after : World}
    (valid : Username.isValid (cleaned text) = true)
    (brings : Brings web context.host (cleaned text) url)
    (one : after.requests = w.requests ++ [Web.Request.toGet url]) :
    Linkage web context style text none w code after where
  touched := fun _ => ⟨rfl, valid, url, brings, one⟩
  linked := nofun
  blank := fun _ blank => absurd blank (Control.valid_name valid)
  invalid := fun _ _ invalid => absurd (valid.symm.trans invalid) nofun
  once := .inr ⟨url, brings.1, one⟩
  told := fun _ _ fruitless => absurd ⟨url, brings⟩ fruitless

theorem link_fetched_requests {keys : String} {requests : List Web.Request}
    (idle : accountIn w.here context.paramsDir w.tree = .ok none)
    (valid : Username.isValid (cleaned text) = true)
    (brought : asked web context.host (cleaned text) = (.fetched keys, requests)) (full : keys ≠ "") :
    ((link style context (some text)).run.run (World.answer web) w).2.requests =
      w.requests ++ requests := by
  rw [run_link_fetched idle valid brought full rfl]
  split <;> rfl

-- No account is found, so the name decides, and then what the request brings.
theorem idle_linkage (idle : accountIn w.here context.paramsDir w.tree = .ok none) :
    ∃ code after, exitOf style ((link style context (some text)).run.run (World.answer web) w) =
      (code, after) ∧ Linkage web context style text none w code after := by
  by_cases blank : cleaned text = ""
  · rw [run_link_blank idle blank]
    exact ⟨_, _, rfl, blank_linkage blank _⟩
  · cases valid : Username.isValid (cleaned text) with
    | false =>
        rw [run_link_invalid idle blank valid]
        exact ⟨_, _, rfl, invalid_linkage blank valid⟩
    | true =>
        by_cases fruitful : ∃ url, Brings web context.host (cleaned text) url
        · obtain ⟨url, said, body, brings⟩ := fruitful
          refine ⟨_, _, rfl, fruitful_linkage valid ⟨said, body, brings⟩ ?_⟩
          exact (exitOf_requests _ _).trans
            (link_fetched_requests idle valid (asked_brings said brings) brings.text_full)
        · obtain ⟨alert, fruitless, alerted⟩ := asked_fruitless fruitful
          refine ⟨1, _, ?_, fruitless_linkage valid fruitless⟩
          rw [run_link_rejected idle valid (Prod.eta _).symm alerted]
          rfl

theorem link_by_name {account? : Option Account} (web : Web)
    (opens : Opens env args w invocation context) (command : invocation.command = .link (some text))
    (reads : accountIn w.here context.paramsDir w.tree = .ok account?) :
    ∃ code after, World.run web env args w = (code, after) ∧
      Linkage web context (styleOf env invocation) text account? w code after := by
  have acts : action (styleOf env invocation) context invocation.command =
      some (link (styleOf env invocation) context (some text)) := by rw [command]; rfl
  rw [run_action opens acts]
  cases account? with
  | none => exact idle_linkage reads
  | some account =>
      rw [run_link_linked (some text) reads]
      refine ⟨_, _, rfl, ?_⟩
      exact {
        touched := fun moved => absurd rfl moved
        linked := by
          rintro _ ⟨⟩
          exact ⟨rfl, rfl, rfl⟩
        blank := nofun
        invalid := nofun
        once := .inl rfl
        told := nofun }

-- A name that would lead to another place of the host is refused, and no directory is made for it.
theorem link_of_path_refused : ∃ after,
    World.run (fun _ => .closed) {} ["--params-dir", "params", "link", "../alice"] {} = (1, after) ∧
      after.tree = {} ∧ after.requests = [] := by
  have opens : Opens {} ["--params-dir", "params", "link", "../alice"] {}
      ⟨{ paramsDir := some "params" }, .link (some "../alice")⟩
      ⟨"params", "https://github.com", 20⟩ := ⟨by decide, by rfl⟩
  have name : Filed [] "params" {} usernameKey none := by decide +kernel
  have blob : Filed [] "params" {} keysKey none := by decide +kernel
  obtain ⟨code, after, ran, linkage⟩ := link_by_name (fun _ => .closed) opens rfl
    (Control.accountIn_filed name blob)
  have full : cleaned "../alice" ≠ "" := by decide
  have invalid : Username.isValid (cleaned "../alice") = false := by decide
  obtain ⟨rfl, same, _⟩ := linkage.invalid rfl full invalid
  refine ⟨after, ran, ?_, same⟩
  by_contra moved
  have valid := (linkage.touched moved).2.1
  rw [invalid] at valid
  cases valid

end LinkedKeys.Program

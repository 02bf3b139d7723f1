import LinkedKeys.Proofs.Program.Clicks
import LinkedKeys.Proofs.Settings.Arguments
import LinkedKeys.Proofs.Text.Fields

namespace LinkedKeys.Program

open Script
open Control (accountIn cleaned Session)
open Control.Session (times isPrompt promptTitle)
open Files (Tree)
open Report (Style)

variable {τ : Type} {server : Server τ} {w : World} {memory : τ} {v u : Scene τ}
  {context : Context} {style : Style} {text : String} {s : Session}

theorem cleaned_cleaned (text : String) : cleaned (cleaned text) = cleaned text := by
  rw [cleaned, cleaned, String.toList_ofList, Text.trim_trim]

theorem cleaned_ended (text : String) : cleaned (text ++ "\n") = cleaned text := by
  have ended : (text ++ "\n").toList = text.toList ++ ['\n'] := by simp
  rw [cleaned, cleaned, ended, Text.trim_blank (by decide)]

theorem typed_cleaned (text : String) :
    Terminal.typed text = if cleaned text = "" then none else some (cleaned text) := by
  have blank : Text.trim text.toList = [] ↔ cleaned text = "" := by
    rw [cleaned, String.ofList_eq_empty_iff]
  rw [Terminal.typed]
  simp only [blank]
  rfl

theorem submit_same {one two : String} (same : cleaned one = cleaned two) (state : Control.State) :
    Control.submit state one = Control.submit state two := by
  have read : ∀ text, Control.submit state text =
      if state ≠ .unlinked ∨ cleaned text = "" then ⟨state, .ok []⟩
      else if Username.isValid (cleaned text) then
        ⟨.loading (cleaned text), .ok [.render, .fetch (cleaned text)]⟩
      else ⟨state, .ok [.alert (.invalidUsername (cleaned text)), .render]⟩ := fun _ => rfl
  rw [read, read, same]

-- The event that a typed text stands for.
def eventOf (text : String) : Control.Event :=
  match Terminal.typed text with
  | some name => .submitted name
  | none => .dismissed

-- A line with blanks around a name counts as the name, and nothing but blanks as a dismissal.
theorem handle_line (state : Control.State) (text : String) :
    Control.handle state (eventOf (text ++ "\n")) = Control.handle state (.submitted text) := by
  rw [eventOf, typed_cleaned, cleaned_ended]
  by_cases blank : cleaned text = ""
  · rw [if_pos blank]
    have ignored : Control.submit state text = ⟨state, .ok []⟩ := by
      rw [Control.submit]
      exact if_pos (.inr blank)
    simp only [Control.handle, ignored]
  · rw [if_neg blank]
    simp only [Control.handle, submit_same (cleaned_cleaned text)]

-- A click on the control without an account asks for a name before anything else.
theorem click_asks (text : String) : ∃ next,
    Session.click { state := .unlinked } = .ask (.prompt promptTitle) next ∧
      next (.ok (Terminal.typed (text ++ "\n"))) = next (.ok (some text)) := by
  refine ⟨_, rfl, ?_⟩
  have taken : Session.take ⟨.unlinked, none⟩ (eventOf (text ++ "\n")) =
      Session.take ⟨.unlinked, none⟩ (.submitted text) := by
    rw [Session.take, handle_line]
    rfl
  rw [eventOf] at taken
  cases read : Terminal.typed (text ++ "\n") with
  | none =>
      rw [read] at taken
      exact congrArg (Script.bind · _) taken
  | some name =>
      rw [read] at taken
      exact congrArg (Script.bind · _) taken

-- The same but for what is printed and what is left to read.
structure Mirrors (v u : Scene τ) : Prop where
  same : Matches v u
  errors : u.1.errors = v.1.errors

-- Behind the prompt it makes no difference where its answer came from.
theorem carried_mirrored {t other : Terminal} (context : other.context = t.context)
    (style : other.style = t.style) {past : Session.Past} (prompted : times isPrompt past = 1)
    (c : Session.Call) (once : times isPrompt (past ++ [⟨c, (server.carried t c v).1⟩]) ≤ 1)
    (mirrors : Mirrors v u) :
    (server.carried other c u).1 = (server.carried t c v).1 ∧
      Mirrors (server.carried t c v).2 (server.carried other c u).2 := by
  obtain ⟨w, memory⟩ := v
  obtain ⟨w', memory'⟩ := u
  obtain ⟨same, errors⟩ := mirrors
  obtain rfl : memory' = memory := same.memory
  have here : w'.here = w.here := same.here
  have tree : w'.tree = w.tree := same.tree
  have requests : w'.requests = w.requests := same.requests
  cases c with
  | store call =>
      rw [Server.carried_store, Server.carried_store, context, here, tree]
      exact ⟨rfl, ⟨rfl, rfl, requests, rfl⟩, errors⟩
  | render view =>
      obtain ⟨row, drawn⟩ := Server.carried_render server t w memory' view
      obtain ⟨row', drawn'⟩ := Server.carried_render server other w' memory' view
      rw [drawn, drawn']
      exact ⟨rfl, ⟨here, tree, requests, rfl⟩, errors⟩
  | alert alert =>
      rw [Server.carried_alert, Server.carried_alert, style]
      exact ⟨rfl, ⟨here, tree, requests, rfl⟩, congrArg (· ++ t.style.error alert.message) errors⟩
  | fetch username =>
      rw [Server.carried_fetch, Server.carried_fetch, context, requests]
      exact ⟨rfl, ⟨here, tree, rfl, rfl⟩, errors⟩
  | prompt title =>
      rw [Session.times_append, prompted] at once
      exact absurd once (Nat.not_succ_le_self 1)

theorem run_mirrored {α : Type} (t other : Terminal) (context : other.context = t.context)
    (style : other.style = t.style) {script : Session.Script α} {past : Session.Past}
    (once : script.Throughout (fun _ (_ : Unit) _ _ => True) (fun now _ => times isPrompt now ≤ 1)
      (fun _ now _ => times isPrompt now ≤ 1) past ())
    (prompted : times isPrompt past = 1) (mirrors : Mirrors v u) :
    (script.run (server.carried other) u).1 = (script.run (server.carried t) v).1 ∧
      Mirrors (script.run (server.carried t) v).2 (script.run (server.carried other) u).2 := by
  have step : ∀ (past : Session.Past) c (v u : Scene τ),
      times isPrompt (past ++ [⟨c, (server.carried t c v).1⟩]) ≤ 1 →
      Mirrors v u ∧ times isPrompt past = 1 →
      (server.carried other c u).1 = (server.carried t c v).1 ∧
        Mirrors (server.carried t c v).2 (server.carried other c u).2 ∧
          times isPrompt (past ++ [⟨c, (server.carried t c v).1⟩]) = 1 := by
    rintro past c v u few ⟨mirrors, prompted⟩
    obtain ⟨same, after⟩ := carried_mirrored context style prompted c few mirrors
    refine ⟨same, after, Nat.le_antisymm few ?_⟩
    rw [Session.times_append, prompted]
    exact Nat.le_add_right 1 _
  have ran := run_alike (fun past v u => Mirrors v u ∧ times isPrompt past = 1) step once
    ⟨mirrors, prompted⟩
  exact ⟨ran.1, ran.2.1⟩

-- The scene behind a prompt that was answered by a line.
def prompting (u : Scene τ) : Scene τ :=
  ({ u.1 with
    output := u.1.output ++ ("  " ++ promptTitle ++ ": ")
    input := u.1.input.drop 1 }, u.2)

-- A click that is answered from a line of input, and one that has its answer from before.
theorem click_mirrored (server : Server τ) (context : Context) (style : Style) (text : String)
    (mirrors : Mirrors v u) (line : u.1.input.head? = some (Text.toBytes (text ++ "\n"))) :
    ((Session.click { state := .unlinked }).run (server.carried ⟨context, style, none, false⟩) u).1 =
        ((Session.click { state := .unlinked }).run
          (server.carried ⟨context, style, some text, false⟩) v).1 ∧
      Mirrors ((Session.click { state := .unlinked }).run
          (server.carried ⟨context, style, some text, false⟩) v).2
        ((Session.click { state := .unlinked }).run
          (server.carried ⟨context, style, none, false⟩) u).2 := by
  obtain ⟨next, asks, same⟩ := click_asks text
  have typed : server.carried ⟨context, style, none, false⟩ (.prompt promptTitle) u =
      (.ok (Terminal.typed (text ++ "\n")), prompting u) := by
    refine (Server.carried_prompt rfl promptTitle).trans ?_
    rw [line, Server.answered, decodeLine, Text.ofBytes?_toBytes]
    rfl
  have given : (Script.ask (.prompt promptTitle) next).run
      (server.carried ⟨context, style, some text, false⟩) v =
        (next (.ok (some text))).run (server.carried ⟨context, style, some text, false⟩) v := rfl
  have asked : (Script.ask (.prompt promptTitle) next).run
      (server.carried ⟨context, style, none, false⟩) u =
        (next (.ok (some text))).run (server.carried ⟨context, style, none, false⟩) (prompting u) := by
    rw [Script.run, typed, same]
  have behind : Mirrors v (prompting u) :=
    ⟨⟨mirrors.same.here, mirrors.same.tree, mirrors.same.requests, mirrors.same.memory⟩, mirrors.errors⟩
  have once := click_prompts_once { state := .unlinked }
  rw [asks] at once ⊢
  rw [given, asked]
  exact run_mirrored ⟨context, style, some text, false⟩ ⟨context, style, none, false⟩ rfl rfl
    (once.2 (.ok (some text)) () trivial) rfl behind

theorem concluded_mirrored (ended : Except Failure Unit × Session) (mirrors : Mirrors v u) :
    ((concluded style context ended).run.run server.answer u).1 =
        ((concluded style context ended).run.run server.answer v).1 ∧
      Mirrors ((concluded style context ended).run.run server.answer v).2
        ((concluded style context ended).run.run server.answer u).2 := by
  obtain ⟨w, memory⟩ := v
  obtain ⟨w', memory'⟩ := u
  have here : w'.here = w.here := mirrors.same.here
  have tree : w'.tree = w.tree := mirrors.same.tree
  rw [Server.run_concluded, Server.run_concluded, here, tree]
  split
  · exact ⟨rfl, mirrors⟩
  · split
    · exact ⟨rfl, mirrors⟩
    · split
      · exact ⟨rfl, mirrors⟩
      · exact ⟨rfl, ⟨rfl, rfl, mirrors.same.requests, mirrors.same.memory⟩, mirrors.errors⟩

-- Where there is an account, or none can be read, nothing is asked for.
theorem Server.run_link_unread (server : Server τ) (style : Style) (memory : τ) (text? : Option String)
    {failure : Failure} (unread : accountIn w.here context.paramsDir w.tree = .error failure) :
    (link style context text?).run.run server.answer (w, memory) = (.error failure, w, memory) := by
  rw [link, run_then, Server.run_current, unread]
  rfl

theorem Server.run_link_linked (server : Server τ) (style : Style) (memory : τ) (text? : Option String)
    {account : Account} (linked : accountIn w.here context.paramsDir w.tree = .ok (some account)) :
    (link style context text?).run.run server.answer (w, memory) =
      (.error (.alreadyLinked account.username), w, memory) := by
  rw [link, run_then, Server.run_current, linked]
  rfl

theorem link_mirrored (server : Server τ) (context : Context) (style : Style) (text : String)
    (mirrors : Mirrors v u) (line : u.1.input.head? = some (Text.toBytes (text ++ "\n"))) :
    ((link style context none).run.run server.answer u).1 =
        ((link style context (some text)).run.run server.answer v).1 ∧
      Mirrors ((link style context (some text)).run.run server.answer v).2
        ((link style context none).run.run server.answer u).2 := by
  obtain ⟨w, memory⟩ := v
  obtain ⟨w', memory'⟩ := u
  have here : w'.here = w.here := mirrors.same.here
  have tree : w'.tree = w.tree := mirrors.same.tree
  have again : accountIn w'.here context.paramsDir w'.tree = accountIn w.here context.paramsDir w.tree := by
    rw [here, tree]
  cases reads : accountIn w.here context.paramsDir w.tree with
  | error failure =>
      rw [Server.run_link_unread server style memory (some text) reads,
        Server.run_link_unread server style memory' none (again.trans reads)]
      exact ⟨rfl, mirrors⟩
  | ok account? =>
      cases account? with
      | some account =>
          rw [Server.run_link_linked server style memory (some text) reads,
            Server.run_link_linked server style memory' none (again.trans reads)]
          exact ⟨rfl, mirrors⟩
      | none =>
          have begun : Mirrors (warned style (some text) w, memory) (warned style none w', memory') :=
            ⟨⟨here, tree, mirrors.same.requests, mirrors.same.memory⟩, mirrors.errors⟩
          obtain ⟨same, clicked⟩ := click_mirrored server context style text begun line
          rw [Server.run_link_unlinked server style w memory (some text) reads,
            Server.run_link_unlinked server style w' memory' none (again.trans reads)]
          simp only [same]
          exact concluded_mirrored _ clicked

-- How an invocation ends with a command that comes to an end by itself.
def endOf (style : Style) (ended : Except Failure Unit × Scene τ) : Next × Scene τ :=
  (.exit (exitOf style (ended.1, ended.2.1)).1, (exitOf style (ended.1, ended.2.1)).2, ended.2.2)

theorem run_opening_link {env : Environment} {args : List String} {options : Options}
    {text? : Option String} (server : Server τ) (memory : τ) (onTerminal : Bool) (w : World)
    (read : Arguments.read env args = .ok ⟨options, .link text?⟩) :
    (opening env onTerminal args).run server.answer (w, memory) =
      endOf ⟨isColored env onTerminal, options.quiet⟩
        (match ((Context.resolve options env).run (Tree.answer w.here) w.tree).1 with
          | .error failure => (.error failure, w, memory)
          | .ok context =>
              (link ⟨isColored env onTerminal, options.quiet⟩ context text?).run.run server.answer
                (w, memory)) := by
  have resolved : (ExceptT.mk (filing (Context.resolve options env)) : Action Context).run.run
      server.answer (w, memory) =
        (((Context.resolve options env).run (Tree.answer w.here) w.tree).1, w, memory) := by
    refine (Server.run_filing _).trans ?_
    rw [resolve_quiet]
  simp only [opening, read]
  rw [run_do, start, run_then, resolved]
  cases ((Context.resolve options env).run (Tree.answer w.here) w.tree).1 with
  | error failure => rfl
  | ok context =>
      simp only
      rw [run_then]
      rcases (link ⟨isColored env onTerminal, options.quiet⟩ context text?).run.run server.answer
        (w, memory) with ⟨result, after⟩
      cases result <;> rfl

theorem endOf_mirrored (style : Style) {one two : Except Failure Unit × Scene τ} (same : two.1 = one.1)
    (mirrors : Mirrors one.2 two.2) : ∃ code after typed,
      endOf style one = (.exit code, after) ∧ endOf style two = (.exit code, typed) ∧
        Mirrors after typed := by
  obtain ⟨result, w, memory⟩ := one
  obtain ⟨result', w', memory'⟩ := two
  obtain rfl : result' = result := same
  cases result' with
  | ok done => exact ⟨0, (w, memory), (w', memory'), rfl, rfl, mirrors⟩
  | error failure =>
      have told := congrArg (· ++ style.error ("Error: " ++ failure.message)) mirrors.errors
      exact ⟨1, _, _, rfl, rfl, ⟨mirrors.same.here, mirrors.same.tree, mirrors.same.requests,
        mirrors.same.memory⟩, told⟩

-- A name that is given, with whatever blanks, against the same text and a line feed as input. What
-- is made of the files, of the server and of the errors is the same, and so is the exit code.
theorem typed_as_given {env : Environment} {args others : List String} {options : Options} {text : String}
    (server : Server τ) (memory : τ) (onTerminal : Bool) (w : World) (more : List UInt8)
    (unended : '\n' ∉ text.toList)
    (given : Arguments.read env args = .ok ⟨options, .link (some text)⟩)
    (asks : Arguments.read env others = .ok ⟨options, .link none⟩) : ∃ code after typed,
      (opening env onTerminal args).run server.answer (w, memory) = (.exit code, after) ∧
      (opening env onTerminal others).run server.answer
        ({ w with input := inputLines (Text.toBytes (text ++ "\n") ++ more) }, memory) =
          (.exit code, typed) ∧
      Mirrors after typed := by
  rw [run_opening_link server memory onTerminal w given, run_opening_link server memory onTerminal _ asks]
  have begun : Mirrors (w, memory)
      ({ w with input := inputLines (Text.toBytes (text ++ "\n") ++ more) }, memory) :=
    ⟨⟨rfl, rfl, rfl, rfl⟩, rfl⟩
  have line : (inputLines (Text.toBytes (text ++ "\n") ++ more)).head? =
      some (Text.toBytes (text ++ "\n")) := by
    rw [inputLines_text unended]
    rfl
  cases ((Context.resolve options env).run (Tree.answer w.here) w.tree).1 with
  | error failure => exact endOf_mirrored _ rfl begun
  | ok context =>
      obtain ⟨same, linked⟩ := link_mirrored server context _ text begun line
      exact endOf_mirrored _ same linked

def unknown : Web := fun _ => .response 404 [] true

def linkArgs : List String := ["--params-dir", "params", "--host", "http://[::1]", "link"]

def linkOptions : Options := { paramsDir := some "params", host := some "http://[::1]" }

-- A name between two kinds of blanks, which the server does not know.
theorem padded_alice_typed : ∃ code after typed,
    World.run unknown {} (linkArgs ++ ["--", "\u2003alice\u00a0"]) {} = (code, after) ∧
    World.run unknown {} linkArgs
      { input := inputLines (Text.toBytes ("\u2003alice\u00a0" ++ "\n") ++ []) } = (code, typed) ∧
    typed.tree = after.tree ∧ typed.errors = after.errors ∧ typed.requests = after.requests ∧
    after.requests = [⟨"GET", "/alice.keys", "keylink/0.3.0"⟩] := by
  have asks : Arguments.read {} linkArgs = .ok ⟨linkOptions, .link none⟩ := by decide
  have given := Arguments.read_named asks (by decide) "\u2003alice\u00a0"
  have asked : ((opening {} false (linkArgs ++ ["--", "\u2003alice\u00a0"])).run
      (Server.always unknown).answer ({}, ())).2.1.requests =
        [⟨"GET", "/alice.keys", "keylink/0.3.0"⟩] := by decide +kernel
  obtain ⟨code, after, typed, ran, ranTyped, mirrors⟩ :=
    typed_as_given (Server.always unknown) () false {} [] (by decide) given asks
  rw [ran] at asked
  exact ⟨code, after.1, typed.1, always_runs unknown (n := 0) ran, always_runs unknown (n := 0) ranTyped,
    mirrors.same.tree, mirrors.errors, mirrors.same.requests, asked⟩

end LinkedKeys.Program

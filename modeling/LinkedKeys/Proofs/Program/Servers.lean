import LinkedKeys.Proofs.Program.Linking
import Mathlib.Logic.Function.Iterate

namespace LinkedKeys.Program

open Script
open Control (accountIn Session)
open Files (Tree)
open Report (Style)
open Store.Directory (serve)

-- How a server answers may depend on what it remembers of the requests before.
structure Server (τ : Type) where
  reply : Web.Url → τ → Web.Reply × τ

-- A world, and what the server in it remembers.
abbrev Scene (τ : Type) := World × τ

namespace Server

variable {τ α : Type} (server : Server τ)

-- The web as the next request finds it.
def web (memory : τ) : Web := fun url => (server.reply url memory).1

def remember : Call → τ → τ
  | .request url _, memory => (server.reply url memory).2
  | _, memory => memory

def answer (c : Call) (v : Scene τ) : c.Answer × Scene τ :=
  let (reply, w) := World.answer (server.web v.2) c v.1
  (reply, w, server.remember c v.2)

-- One turn of a panel. What has come to its end stays there.
def step : Next × Scene τ → Next × Scene τ
  | (.exit code, v) => (.exit code, v)
  | (.turn p, v) => p.next.run server.answer v

end Server

variable {τ α : Type} {server : Server τ} {w : World} {memory : τ} {v u : Scene τ}
  {context : Context} {style : Style} {dir : String} {here : List String}

-- The server of a web that always answers alike.
def Server.always (web : Web) : Server Unit := ⟨fun url memory => (web url, memory)⟩

theorem run_always (web : Web) (script : Script α) (v : Scene Unit) :
    script.run (Server.always web).answer v =
      ((script.run (World.answer web) v.1).1, (script.run (World.answer web) v.1).2, v.2) :=
  run_part (Server.always web).answer (fun _ => World.answer web) Prod.fst (fun w v => (w, v.2))
    (fun _ _ => rfl) (fun _ _ _ => rfl) (fun _ => rfl) (fun _ _ => rfl)
    (fun c v => by cases c <;> rfl) script v

theorem follow_turn (web : Web) (p : Panel) (w : World) :
    World.follow web (.turn p, w) = World.follow web (p.next.run (World.answer web) w) := by
  rw [World.follow]
  split
  · rename_i turned
    rw [turned, follow_exit]
  · rename_i turned
    rw [turned]

theorem steps_follow (web : Web) {n : Nat} {first : Next × Scene Unit} {code : Nat} {after : Scene Unit}
    (ended : (Server.always web).step^[n] first = (.exit code, after)) :
    World.follow web (first.1, first.2.1) = (code, after.1) := by
  induction n generalizing first with
  | zero =>
      obtain rfl := ended
      exact follow_exit code after.1
  | succ n ih =>
      rw [Function.iterate_succ_apply] at ended
      have later := ih ended
      obtain ⟨next, v⟩ := first
      cases next with
      | exit code => exact later
      | turn p =>
          rw [follow_turn, ← later, Server.step, run_always]

theorem always_runs (web : Web) {env : Environment} {args : List String} {n code : Nat}
    {last : Scene Unit} (ended : (Server.always web).step^[n]
      ((opening env false args).run (Server.always web).answer (w, ())) = (.exit code, last)) :
    World.run web env args w = (code, last.1) := by
  rw [run_always] at ended
  exact steps_follow web ended

namespace Server

theorem run_filing (script : Files.Script α) : (filing script).run server.answer (w, memory) =
    ((script.run (Tree.answer w.here) w.tree).1,
     { w with tree := (script.run (Tree.answer w.here) w.tree).2 }, memory) := by
  rw [filing, run_through]
  exact run_part _ (fun v => Tree.answer v.1.here) (fun v => v.1.tree)
    (fun tree v => ({ v.1 with tree }, v.2)) (fun _ _ => rfl) (fun _ _ _ => rfl) (fun _ => rfl)
    (fun _ _ => rfl) (fun _ _ => rfl) script (w, memory)

theorem run_store (dir : String) (script : Store.Script α) :
    (filing (script.through (Store.Directory.answer dir))).run server.answer (w, memory) =
      ((script.run (serve w.here dir) w.tree).1,
       { w with tree := (script.run (serve w.here dir) w.tree).2 }, memory) := by
  rw [run_filing, run_through]
  rfl

theorem run_current (dir : String) :
    (storing dir Control.current).run.run server.answer (w, memory) =
      ((accountIn w.here dir w.tree).map Control.State.ofAccount, w, memory) := by
  refine (run_store dir Control.current.run).trans ?_
  rw [Control.current_serve]

theorem run_connecting (server : Server τ) (seconds : Nat) (v : Scene τ) :
    (connecting seconds).run.run server.answer v = (.ok (), v) := rfl

theorem run_stored (dir : String) :
    (storing dir Account.stored).run.run server.answer (w, memory) =
      (accountIn w.here dir w.tree, w, memory) := by
  refine (run_store dir Account.stored.run).trans ?_
  rw [Control.stored_serve]

-- What a server remembers once the keys of a name were asked for.
def recalled (server : Server τ) (host name : String) (memory : τ) : τ :=
  match Web.destination (Web.keysUrl host name) with
  | .error _ => memory
  | .ok url => (server.reply url memory).2

theorem run_fetch (host : String) (seconds : Nat) (name : String) :
    (fetch host seconds name).run server.answer (w, memory) =
      ((asked (server.web memory) host name).1,
       { w with requests := w.requests ++ (asked (server.web memory) host name).2 },
       server.recalled host name memory) := by
  simp only [fetch, asked, recalled]
  cases Web.destination (Web.keysUrl host name) with
  | error outcome => simp [pure, Script.run]
  | ok url =>
      simp only [Script.run, Server.answer, World.answer, remember, pure]
      split <;> simp

-- How a terminal carries out the calls of a session.
def carried (server : Server τ) (t : Terminal) (c : Session.Call) (v : Scene τ) :
    c.Answer × Scene τ :=
  (t.answer c).run server.answer v

theorem run_carryOut (t : Terminal) (script : Session.Script α) (v : Scene τ) :
    (t.carryOut script).run server.answer v = script.run (server.carried t) v := by
  rw [Terminal.carryOut, run_through]
  rfl

variable {t other : Terminal} {s : Session}

theorem carried_store (call : Store.Call) : server.carried t (.store call) (w, memory) =
    ((serve w.here t.context.paramsDir call w.tree).1,
     { w with tree := (serve w.here t.context.paramsDir call w.tree).2 }, memory) := by
  rw [Server.carried, Terminal.answer, Server.run_filing]
  rfl

theorem carried_fetch (name : String) : server.carried t (.fetch name) (w, memory) =
    ((asked (server.web memory) t.context.host name).1,
     { w with requests := w.requests ++ (asked (server.web memory) t.context.host name).2 },
     server.recalled t.context.host name memory) := by
  rw [Server.carried, Terminal.answer, Server.run_fetch]

theorem carried_alert (alert : Control.Alert) : server.carried t (.alert alert) (w, memory) =
    (.ok (), { w with errors := w.errors ++ t.style.error alert.message }, memory) := rfl

theorem carried_render (server : Server τ) (t : Terminal) (w : World) (memory : τ)
    (view : Control.View) : ∃ row, server.carried t (.render view) (w, memory) =
      (.ok (), { w with output := w.output ++ row }, memory) := by
  simp only [Server.carried, Terminal.answer]
  split
  · exact ⟨"", by rw [String.append_empty]; rfl⟩
  · exact ⟨Terminal.row t.style view, rfl⟩

-- What a line of input answers to a prompt.
def answered : Option (List UInt8) → Except Failure (Option String)
  | none => .ok none
  | some line => (decodeLine line).map Terminal.typed

theorem carried_prompt (free : t.preset = none) (title : String) :
    server.carried t (.prompt title) (w, memory) =
      (answered w.input.head?,
       { w with output := w.output ++ ("  " ++ title ++ ": "), input := w.input.drop 1 }, memory) := by
  rw [Server.carried, Terminal.answer, free]
  simp only [Terminal.ask, Script.run, Server.answer, World.answer, Server.remember]
  cases w.input.head? <;> rfl

theorem run_stored_calls (script : Store.Script α) :
    (Session.storing script).run (server.carried t) (w, memory) =
      ((script.run (serve w.here t.context.paramsDir) w.tree).1,
       { w with tree := (script.run (serve w.here t.context.paramsDir) w.tree).2 }, memory) := by
  rw [Session.storing, run_through]
  exact run_part (fun call => server.carried t (.store call))
    (fun v => serve v.1.here t.context.paramsDir) (fun v => v.1.tree)
    (fun tree v => ({ v.1 with tree }, v.2)) (fun _ _ => rfl) (fun _ _ _ => rfl) (fun _ => rfl)
    (fun _ _ => rfl) (fun _ _ => Server.carried_store _) script (w, memory)

theorem run_take (event : Control.Event) :
    (s.take event).run (server.carried t) (w, memory) =
      let (turn, tree) := (Control.handle s.state event).run (serve w.here t.context.paramsDir) w.tree
      ((turn.result, { s with state := turn.state }), { w with tree }, memory) := by
  rw [Session.take, run_do, run_stored_calls]
  rfl

theorem run_drawn (server : Server τ) (t : Terminal) (w : World) (memory : τ) (s : Session) :
    ∃ row, (Session.performAll [.render] s).run (server.carried t) (w, memory) =
      ((.ok (), s), { w with output := w.output ++ row }, memory) := by
  obtain ⟨row, drawn⟩ := carried_render server t w memory s.state.view
  have rendered : s.render.run (server.carried t) (w, memory) =
      ((.ok (), s), { w with output := w.output ++ row }, memory) := by
    rw [Session.render, Script.run, drawn]
    rfl
  refine ⟨row, ?_⟩
  rw [Session.performAll_cons, run_do, Session.perform, run_do, rendered]
  rfl

end Server

end LinkedKeys.Program

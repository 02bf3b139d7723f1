import LinkedKeys.Program.World
import LinkedKeys.Proofs.Control.Filing

namespace LinkedKeys.Program

open Script
open Control (accountIn)
open Files (Tree)
open Report (Style)
open Store.Directory (serve)

variable {α : Type} {web : Web} {w : World} {env : Environment} {args : List String}
  {invocation : Invocation} {context : Context}

theorem run_filing (script : Files.Script α) : (filing script).run (World.answer web) w =
    ((script.run (Tree.answer w.here) w.tree).1,
     { w with tree := (script.run (Tree.answer w.here) w.tree).2 }) := by
  rw [filing, run_through]
  exact run_part _ (fun w => Tree.answer w.here) World.tree (fun tree w => { w with tree })
    (fun _ _ => rfl) (fun _ _ _ => rfl) (fun _ => rfl) (fun _ _ => rfl) (fun _ _ => rfl) script w

-- A store kept as files moves the tree, and nothing else of the world.
theorem run_store (dir : String) (script : Store.Script α) :
    (filing (script.through (Store.Directory.answer dir))).run (World.answer web) w =
      ((script.run (serve w.here dir) w.tree).1,
       { w with tree := (script.run (serve w.here dir) w.tree).2 }) := by
  rw [run_filing, run_through]
  rfl

theorem run_storing (dir : String) (attempt : Store.Attempt α) :
    (storing dir attempt).run.run (World.answer web) w =
      ((attempt.run.run (serve w.here dir) w.tree).1,
       { w with tree := (attempt.run.run (serve w.here dir) w.tree).2 }) :=
  run_store dir attempt.run

theorem run_current (dir : String) :
    (storing dir Control.current).run.run (World.answer web) w =
      ((accountIn w.here dir w.tree).map Control.State.ofAccount, w) := by
  rw [run_storing, Control.current_serve]

theorem run_stored (dir : String) :
    (storing dir Account.stored).run.run (World.answer web) w = (accountIn w.here dir w.tree, w) := by
  rw [run_storing, Control.stored_serve]

@[simp] theorem run_connecting (web : Web) (seconds : Nat) (w : World) :
    (connecting seconds).run.run (World.answer web) w = (.ok (), w) := rfl

@[simp] theorem run_settled (result : Except Failure α) :
    (settled result).run.run (World.answer web) w = (result, w) := rfl

-- What the arguments, the variables and the configuration file come to.
structure Opens (env : Environment) (args : List String) (w : World) (invocation : Invocation)
    (context : Context) : Prop where
  read : Arguments.read env args = .ok invocation
  resolved : ((Context.resolve invocation.options env).run (Tree.answer w.here) w.tree).1 = .ok context

-- Every command but the panel, which waits for input.
def action (style : Style) (context : Context) : Command → Option (Action Unit)
  | .status json => some (status style context json)
  | .link username => some (link style context username)
  | .unlink => some (unlink style context)
  | .authorizedKeys => some (authorizedKeys context)
  | .panel => none

-- Nothing in memory is a terminal.
def styleOf (env : Environment) (invocation : Invocation) : Style :=
  { colored := isColored env false, quiet := invocation.options.quiet }

-- A failure is reported, and the exit code tells of it.
def exitOf (style : Style) : Except Failure Unit × World → Nat × World
  | (.ok (), w) => (0, w)
  | (.error failure, w) =>
      (1, { w with errors := w.errors ++ style.error ("Error: " ++ failure.message) })

theorem exitOf_requests (style : Style) (ended : Except Failure Unit × World) :
    (exitOf style ended).2.requests = ended.2.requests := by
  rcases ended with ⟨result, w⟩
  cases result <;> rfl

theorem exitOf_tree (style : Style) (ended : Except Failure Unit × World) :
    (exitOf style ended).2.tree = ended.2.tree := by
  rcases ended with ⟨result, w⟩
  cases result <;> rfl

theorem exitOf_output (style : Style) (ended : Except Failure Unit × World) :
    (exitOf style ended).2.output = ended.2.output := by
  rcases ended with ⟨result, w⟩
  cases result <;> rfl

theorem readFile_quiet (path : String) (here : List String) (t : Tree) :
    ((Config.readFile path).run (Tree.answer here) t).2 = t := by
  simp only [Config.readFile, Script.run, Tree.read_quiet]
  split
  · rfl
  · split <;> rfl

theorem load_quiet (chosen usual : Option String) (here : List String) (t : Tree) :
    ((Config.load chosen usual).run (Tree.answer here) t).2 = t := by
  unfold Config.load
  split
  · simp only [Script.run, Tree.isPresent_quiet]
    split
    · exact readFile_quiet _ here t
    · rfl
  · simp only [Script.run, Tree.isPresent_quiet]
    split
    · exact readFile_quiet _ here t
    · rfl
  · rfl

theorem resolve_quiet (options : Options) (env : Environment) (here : List String) (t : Tree) :
    ((Context.resolve options env).run (Tree.answer here) t).2 = t := by
  rw [Context.resolve, run_do]
  have quiet := load_quiet options.config env.configFile here t
  cases ((Config.load options.config env.configFile).run (Tree.answer here) t).1 <;> exact quiet

theorem run_start (web : Web) {act : Action Unit} {style : Style}
    (opens : Opens env args w invocation context)
    (acts : action style context invocation.command = some act) :
    (start env style invocation).run.run (World.answer web) w =
      (act >>= fun _ => pure none).run.run (World.answer web) w := by
  have resolved : (ExceptT.mk (filing (Context.resolve invocation.options env)) : Action Context).run.run
      (World.answer web) w = (.ok context, w) := by
    refine (run_filing _).trans ?_
    rw [opens.resolved, resolve_quiet]
  rw [start, run_then, resolved]
  cases command : invocation.command <;> rw [command] at acts <;> cases acts <;> rfl

theorem follow_exit (code : Nat) (w : World) : World.follow web (.exit code, w) = (code, w) := by
  rw [World.follow]

theorem run_action {act : Action Unit} (opens : Opens env args w invocation context)
    (acts : action (styleOf env invocation) context invocation.command = some act) :
    World.run web env args w =
      exitOf (styleOf env invocation) (act.run.run (World.answer web) w) := by
  have started := run_start web opens acts
  rw [run_then] at started
  simp only [World.run, opening, opens.read]
  rw [run_do, ← styleOf, started]
  rcases act.run.run (World.answer web) w with ⟨result, after⟩
  cases result with
  | ok done => exact follow_exit 0 after
  | error failure => exact follow_exit 1 _

end LinkedKeys.Program

import LinkedKeys.Proofs.Program.Accord
import LinkedKeys.Proofs.Program.Clicks

namespace LinkedKeys.Program

open Script
open Control (accountIn Session State)
open Report (Style)

variable {τ : Type} {server : Server τ} {w : World} {memory : τ} {v : Scene τ} {context : Context}
  {style : Style} {env : Environment} {args : List String} {invocation : Invocation}
  {account? : Option Account} {p : Panel} {line : List UInt8} {rest : List (List UInt8)}

-- What is written stays written, whoever serves.
theorem run_more {α : Type} (script : Script α) (v : Scene τ) :
    ∃ more, (script.run server.answer v).2.1.output = v.1.output ++ more := by
  refine Script.run_related (fun v u => ∃ more, u.1.output = v.1.output ++ more) ?_ ?_ server.answer
    ?_ script v
  · intro v
    exact ⟨"", String.append_empty.symm⟩
  · intro u v w first second
    obtain ⟨early, first⟩ := first
    obtain ⟨late, second⟩ := second
    exact ⟨early ++ late, by rw [second, first, String.append_assoc]⟩
  · intro c v
    exact run_output (server.web v.2) (Script.one c) v.1

-- The panel of a context, with a session.
def panelOf (style : Style) (context : Context) (s : Session) : Panel :=
  ⟨⟨context, style, none, true⟩, s⟩

def greeting (style : Style) (state : State) : String :=
  style.header "SSH Keys" ++ "  " ++ warningText ++ "\n\n" ++ Terminal.row style state.view

-- The scene in which a panel waits for the first time.
def greeted (style : Style) (account? : Option Account) (v : Scene τ) : Scene τ :=
  ({ v.1 with output := v.1.output ++ greeting style (State.ofAccount account?) }, v.2)

theorem run_start_panel (reads : accountIn w.here context.paramsDir w.tree = .ok account?) :
    (Panel.start style context).run.run server.answer (w, memory) =
      (.ok (panelOf style context ⟨State.ofAccount account?, none⟩),
       greeted style account? (w, memory)) := by
  rw [Panel.start, run_then, print, run_lift]
  simp only [printing, Script.run, Server.answer, World.answer, Server.remember]
  rw [run_then, Server.run_current, reads]
  simp only [Except.map]
  rw [run_then, Server.run_connecting]
  simp only
  rw [run_then, run_lift, Server.run_carryOut]
  have output : w.output ++ (style.header "SSH Keys" ++ "  " ++ warningText ++ "\n\n") ++
      Terminal.row style (State.ofAccount account?).view =
        w.output ++ greeting style (State.ofAccount account?) := String.append_assoc
  rw [greeted, ← output]
  cases account? <;> rfl

theorem run_opening (opens : Opens env args w invocation context)
    (command : invocation.command = .panel)
    (reads : accountIn w.here context.paramsDir w.tree = .ok account?) :
    (opening env false args).run server.answer (w, memory) =
      (.turn (panelOf (styleOf env invocation) context ⟨State.ofAccount account?, none⟩),
       greeted (styleOf env invocation) account? (w, memory)) := by
  have resolved : (ExceptT.mk (filing (Context.resolve invocation.options env)) : Action Context).run.run
      server.answer (w, memory) = (.ok context, w, memory) := by
    refine (Server.run_filing _).trans ?_
    rw [opens.resolved, resolve_quiet]
  simp only [opening, opens.read]
  rw [run_do, ← styleOf, start, run_then, resolved]
  simp only [command]
  rw [run_then, run_start_panel reads]
  rfl

-- The scene in which a panel goes by the line that it has read.
def commanded (p : Panel) (v : Scene τ) : Scene τ :=
  ({ v.1 with output := v.1.output ++ p.invitation, input := v.1.input.drop 1 }, v.2)

theorem next_over (spent : v.1.input = []) :
    p.next.run server.answer v = (.exit 0, commanded p v) := by
  obtain ⟨w, memory⟩ := v
  obtain ⟨tree, here, input, output, errors, requests⟩ := w
  cases spent
  rfl

theorem next_obeys {text : String} (waits : v.1.input = line :: rest)
    (said : Text.ofBytes? line = some text) :
    p.next.run server.answer v =
      (Next.ofResult p.terminal.style ((p.obey text).run.run server.answer (commanded p v)).1).run
        server.answer ((p.obey text).run.run server.answer (commanded p v)).2 := by
  obtain ⟨w, memory⟩ := v
  obtain ⟨tree, here, input, output, errors, requests⟩ := w
  cases waits
  rw [Panel.next, run_do]
  simp only [Panel.turn, Script.run, Server.answer, World.answer, Server.remember, List.head?_cons]
  rw [run_then]
  simp only [decodeLine, said]
  rfl

theorem commandOf_text {command : List Char} (commands : commandOf line = some command) :
    ∃ text, Text.ofBytes? line = some text ∧ Text.trim text.toList = command := by
  simpa [commandOf] using commands

theorem next_quits (waits : v.1.input = line :: rest) (quits : Quits line) :
    p.next.run server.answer v = (.exit 0, commanded p v) := by
  have named : ∃ command, commandOf line = some command ∧
      (command = ['q'] ∨ command = ['q', 'u', 'i', 't']) := by
    rcases quits with one | word
    · exact ⟨_, one, .inl rfl⟩
    · exact ⟨_, word, .inr rfl⟩
  obtain ⟨command, commands, known⟩ := named
  obtain ⟨text, said, rfl⟩ := commandOf_text commands
  rw [next_obeys waits said, Panel.obey, if_pos known]
  rfl

theorem next_ignores {command : List Char} (waits : v.1.input = line :: rest)
    (commands : commandOf line = some command) (unknown : command ≠ []) (goesOn : ¬Quits line) :
    p.next.run server.answer v = (.turn p, { (commanded p v).1 with
      output := (commanded p v).1.output ++
        p.terminal.style.warning ("Unknown input '" ++ String.ofList command ++ "'") }, v.2) := by
  obtain ⟨text, said, rfl⟩ := commandOf_text commands
  have other : ¬(Text.trim text.toList = ['q'] ∨ Text.trim text.toList = ['q', 'u', 'i', 't']) := by
    intro known
    apply goesOn
    rcases known with same | same
    · exact .inl (commands.trans (congrArg some same))
    · exact .inr (commands.trans (congrArg some same))
  rw [next_obeys waits said, Panel.obey]
  simp only [if_neg other, if_neg unknown]
  rfl

theorem next_clicks {done : Session} {after : Scene τ} (waits : v.1.input = line :: rest)
    (blank : Blank line)
    (clicked : p.session.click.run (server.carried p.terminal) (commanded p v) = ((.ok (), done), after)) :
    p.next.run server.answer v = (.turn { p with session := done }, after) := by
  obtain ⟨text, said, trimmed⟩ := commandOf_text blank
  have other : ¬(Text.trim text.toList = ['q'] ∨ Text.trim text.toList = ['q', 'u', 'i', 't']) := by
    simp [trimmed]
  have obeyed : (p.obey text).run.run server.answer (commanded p v) =
      (.ok (some { p with session := done }), after) := by
    rw [Panel.obey]
    simp only [if_neg other, if_pos trimmed]
    rw [run_then, Panel.click, run_then, run_lift, Server.run_carryOut, clicked]
    rfl
  rw [next_obeys waits said, obeyed]
  rfl

end LinkedKeys.Program

import LinkedKeys.Proofs.Control.Settling
import LinkedKeys.Proofs.Program.Input
import LinkedKeys.Proofs.Program.Servers

namespace LinkedKeys.Program

open Script
open Control (accountIn Session)
open Control.Session (times isPrompt)
open Files (Tree)
open Report (Style)
open Store.Directory (serve)

variable {τ α : Type} {server : Server τ} {w : World} {memory : τ} {v u : Scene τ}
  {context : Context} {style : Style} {here : List String} {t other : Terminal} {s : Session}

-- The same but for what is written and what is left to read.
structure Matches (v u : Scene τ) : Prop where
  here : u.1.here = v.1.here
  tree : u.1.tree = v.1.tree
  requests : u.1.requests = v.1.requests
  memory : u.2 = v.2

theorem matches_refl (v : Scene τ) : Matches v v := ⟨rfl, rfl, rfl, rfl⟩

theorem matches_trans {v u x : Scene τ} (first : Matches v u) (second : Matches u x) : Matches v x where
  here := second.here.trans first.here
  tree := second.tree.trans first.tree
  requests := second.requests.trans first.requests
  memory := second.memory.trans first.memory

theorem matches_symm (same : Matches v u) : Matches u v where
  here := same.here.symm
  tree := same.tree.symm
  requests := same.requests.symm
  memory := same.memory.symm

-- Each prompt has taken a line from either input.
structure Paced (left right : List (List UInt8)) (past : Session.Past) (v u : Scene τ) : Prop where
  same : Matches v u
  left : v.1.input = left.drop (times isPrompt past)
  right : u.1.input = right.drop (times isPrompt past)

theorem paced_quiet {left right : List (List UInt8)} {past more : Session.Past} {v' u' : Scene τ}
    (paced : Paced left right past v u) (unasked : times isPrompt more = 0) (same : Matches v' u')
    (leftKept : v'.1.input = v.1.input) (rightKept : u'.1.input = u.1.input) :
    Paced left right (past ++ more) v' u' := by
  have count : times isPrompt (past ++ more) = times isPrompt past := by
    rw [Session.times_append, unasked]
    rfl
  refine ⟨same, ?_, ?_⟩
  · rw [leftKept, paced.left, count]
  · rw [rightKept, paced.right, count]

-- Two terminals of one context carry out a call alike, as long as they prompt no more than once.
theorem carried_paced (context : other.context = t.context) (free : t.preset = none)
    (otherFree : other.preset = none) {left right : List (List UInt8)} (heads : right.head? = left.head?)
    (past : Session.Past) (c : Session.Call) (v u : Scene τ)
    (once : times isPrompt (past ++ [⟨c, (server.carried t c v).1⟩]) ≤ 1)
    (paced : Paced left right past v u) :
    (server.carried other c u).1 = (server.carried t c v).1 ∧
      Paced left right (past ++ [⟨c, (server.carried t c v).1⟩]) (server.carried t c v).2
        (server.carried other c u).2 := by
  obtain ⟨w, memory⟩ := v
  obtain ⟨w', memory'⟩ := u
  obtain rfl : memory' = memory := paced.same.memory
  have here : w'.here = w.here := paced.same.here
  have tree : w'.tree = w.tree := paced.same.tree
  have requests : w'.requests = w.requests := paced.same.requests
  cases c with
  | store call =>
      rw [Server.carried_store, Server.carried_store, context, here, tree]
      exact ⟨rfl, paced_quiet paced rfl ⟨rfl, rfl, requests, rfl⟩ rfl rfl⟩
  | render view =>
      obtain ⟨row, drawn⟩ := Server.carried_render server t w memory' view
      obtain ⟨row', drawn'⟩ := Server.carried_render server other w' memory' view
      rw [drawn, drawn']
      exact ⟨rfl, paced_quiet paced rfl ⟨here, tree, requests, rfl⟩ rfl rfl⟩
  | alert alert =>
      rw [Server.carried_alert, Server.carried_alert]
      exact ⟨rfl, paced_quiet paced rfl ⟨here, tree, requests, rfl⟩ rfl rfl⟩
  | fetch username =>
      rw [Server.carried_fetch, Server.carried_fetch, context, requests]
      exact ⟨rfl, paced_quiet paced rfl ⟨here, tree, rfl, rfl⟩ rfl rfl⟩
  | prompt title =>
      have first : times isPrompt past = 0 := by
        rw [Session.times_append] at once
        exact Nat.le_zero.mp (Nat.le_of_succ_le_succ once)
      have read : w.input = left := by simpa [first] using paced.left
      have read' : w'.input = right := by simpa [first] using paced.right
      have count : ∀ answer, times isPrompt (past ++ [⟨.prompt title, answer⟩]) = 1 := by
        intro answer
        rw [Session.times_append, first]
        rfl
      rw [Server.carried_prompt free, Server.carried_prompt otherFree, read, read', heads]
      refine ⟨rfl, ⟨here, tree, requests, rfl⟩, ?_, ?_⟩
      · rw [count]
      · rw [count]

theorem click_prompts_once (s : Session) :
    s.click.Throughout (fun _ (_ : Unit) _ _ => True) (fun now _ => times isPrompt now ≤ 1)
      (fun _ now _ => times isPrompt now ≤ 1) [] () := by
  apply (Session.click_along s).mono
  · intro now _ along
    exact Session.times_seen now ▸ (Session.along_once along).1
  · intro r now _ along
    exact Session.times_seen now ▸ (Session.along_once along.1).1

-- A click goes the same way on either terminal.
theorem click_paced (server : Server τ) (t other : Terminal) (context : other.context = t.context)
    (free : t.preset = none) (otherFree : other.preset = none) (s : Session) (same : Matches v u)
    (heads : u.1.input.head? = v.1.input.head?) :
    (s.click.run (server.carried other) u).1 = (s.click.run (server.carried t) v).1 ∧
      Paced v.1.input u.1.input (s.click.exchanges (server.carried t) v)
        (s.click.run (server.carried t) v).2 (s.click.run (server.carried other) u).2 := by
  exact run_alike (Paced v.1.input u.1.input) (carried_paced context free otherFree heads)
    (click_prompts_once s) ⟨same, rfl, rfl⟩

theorem answered_fine {line? : Option (List UInt8)} (readable : ∀ line ∈ line?, Readable line) :
    ∃ text?, Server.answered line? = .ok text? := by
  cases line? with
  | none => exact ⟨none, rfl⟩
  | some line =>
      obtain ⟨said, read⟩ := readable line rfl
      exact ⟨Terminal.typed said, by simp [Server.answered, decodeLine, read, Except.map]⟩

-- The working directory stays, and so do the lines that are left.
structure Stays (here : List String) (v : Scene τ) : Prop where
  here : v.1.here = here
  readable : ∀ line ∈ v.1.input, Readable line

-- Files are moved by the store alone, and only the store can fail.
structure Serves (here : List String) (dir : String) (c : Session.Call) (tree : Tree)
    (answer : c.Answer) (after : Tree) : Prop where
  housed : Session.Housed here dir c tree answer after
  fine : Session.refused? ⟨c, answer⟩ = none → Session.failure? ⟨c, answer⟩ = none

theorem carried_serves (free : t.preset = none) (c : Session.Call) (v : Scene τ) (stays : Stays here v) :
    Stays here (server.carried t c v).2 ∧
      Serves here t.context.paramsDir c v.1.tree (server.carried t c v).1
        (server.carried t c v).2.1.tree := by
  obtain ⟨w, memory⟩ := v
  obtain ⟨rfl, readable⟩ := stays
  cases c with
  | store call =>
      rw [Server.carried_store]
      exact ⟨⟨rfl, readable⟩, rfl, id⟩
  | render view =>
      obtain ⟨row, drawn⟩ := Server.carried_render server t w memory view
      rw [drawn]
      exact ⟨⟨rfl, readable⟩, rfl, fun _ => rfl⟩
  | alert alert =>
      rw [Server.carried_alert]
      exact ⟨⟨rfl, readable⟩, rfl, fun _ => rfl⟩
  | fetch username =>
      rw [Server.carried_fetch]
      exact ⟨⟨rfl, readable⟩, rfl, fun _ => rfl⟩
  | prompt title =>
      have first : ∀ line ∈ w.input.head?, Readable line := by
        intro line head
        exact readable line (List.mem_of_mem_head? head)
      obtain ⟨text?, fine⟩ := answered_fine first
      rw [Server.carried_prompt free, fine]
      refine ⟨⟨rfl, ?_⟩, rfl, fun _ => rfl⟩
      intro line among
      exact readable line (List.mem_of_mem_drop among)

-- What a click comes to where the store refuses nothing.
structure WentWell (here : List String) (dir : String) (s : Session) (past : Session.Past)
    (r : Except Failure Unit × Session) (after : Scene τ) : Prop where
  fine : r.1 = .ok ()
  reads : Session.Reads here dir after.1.tree r.2.state
  whole : Session.Whole s.state (Session.seen past)
  stays : Stays here after

theorem click_well (free : t.preset = none) (stays : Stays here v)
    (reads : Session.Reads here t.context.paramsDir v.1.tree s.state)
    (unrefused : ∀ made ∈ s.click.exchanges (server.carried t) v, Session.refused? made = none) :
    WentWell here t.context.paramsDir s (s.click.exchanges (server.carried t) v)
      (s.click.run (server.carried t) v).1 (s.click.run (server.carried t) v).2 := by
  have kept : ∀ c (v : Scene τ), Stays here v → Stays here (server.carried t c v).2 :=
    fun c v stays => (carried_serves free c v stays).1
  have course : Leads (Serves here t.context.paramsDir) s.click v.1.tree
      (s.click.exchanges (server.carried t) v) (.done (s.click.run (server.carried t) v).1)
      (s.click.run (server.carried t) v).2.1.tree :=
    exchanges_lead (fun v => v.1.tree) (Stays here) kept
      (fun c v stays => (carried_serves free c v stays).2) s.click stays
  have fine : (s.click.run (server.carried t) v).1.1 = .ok () := by
    cases ended : (s.click.run (server.carried t) v).1.1 with
    | ok done => rfl
    | error failure =>
        obtain ⟨made, among, failed⟩ := (Session.click_blames s).ending course failure ended
        obtain ⟨before, after, served⟩ := leads_served course made among
        have none := served.fine (unrefused made among)
        rw [failed] at none
        cases none
  refine ⟨fine, ?_, ?_, ?_⟩
  · exact (Session.click_leaves reads).ending
      (leads_mono (fun _ _ _ _ served => served.housed) course) fine
  · exact ((Session.click_along s).ending course).2 fine
  · exact run_related (fun v after => Stays here v → Stays here after) (fun _ => id)
      (fun first second => second ∘ first) (server.carried t) kept s.click v stays

-- How many lines a click has taken is known from the state that it was made in.
theorem well_input (server : Server τ) (free : t.preset = none)
    (well : WentWell here t.context.paramsDir s (s.click.exchanges (server.carried t) v)
      (s.click.run (server.carried t) v).1 (s.click.run (server.carried t) v).2) :
    (s.click.run (server.carried t) v).2.1.input =
      v.1.input.drop (if s.state = .unlinked then 1 else 0) := by
  obtain ⟨_, paced⟩ := click_paced server t t rfl free free s (matches_refl v) rfl
  have count : times isPrompt (s.click.exchanges (server.carried t) v) =
      if s.state = .unlinked then 1 else 0 := by
    rw [← Session.times_seen, Session.whole_prompts well.whole]
  rw [paced.left, count]

theorem Server.run_concluded (ended : Except Failure Unit × Session) :
    (concluded style context ended).run.run server.answer (w, memory) =
      match ended.1 with
      | .error failure => (.error failure, w, memory)
      | .ok () =>
          if ended.2.lastAlert.isSome then (.error .notLinked, w, memory)
          else match accountIn w.here context.paramsDir w.tree with
            | .error failure => (.error failure, w, memory)
            | .ok account? =>
                (.ok (), { w with output := w.output ++ linkReport style account? }, memory) := by
  obtain ⟨result, session⟩ := ended
  rw [concluded, run_then]
  cases result with
  | error failure => rfl
  | ok done =>
      cases session.lastAlert with
      | some alert => rfl
      | none =>
          simp only [Option.isSome_none, Bool.false_eq_true, if_false]
          change (storing context.paramsDir Account.stored >>= fun account? =>
            print (linkReport style account?)).run.run server.answer (w, memory) = _
          rw [run_then, Server.run_stored]
          cases accountIn w.here context.paramsDir w.tree <;> rfl

theorem concluded_matches (ended : Except Failure Unit × Session) (v : Scene τ) :
    Matches v ((concluded style context ended).run.run server.answer v).2 := by
  obtain ⟨w, memory⟩ := v
  rw [Server.run_concluded]
  split
  · exact matches_refl _
  · split
    · exact matches_refl _
    · split
      · exact matches_refl _
      · exact ⟨rfl, rfl, rfl, rfl⟩

-- A command on its own, with these lines as all of its input.
def Server.runs (server : Server τ) (act : Action Unit) (given : List (List UInt8)) (v : Scene τ) :
    Scene τ :=
  (act.run.run server.answer ({ v.1 with input := given }, v.2)).2

-- The click of the command, behind the warning that goes before a prompt.
theorem Server.run_link_unlinked (server : Server τ) (style : Style) (w : World) (memory : τ)
    (text? : Option String) (idle : accountIn w.here context.paramsDir w.tree = .ok none) :
    (link style context text?).run.run server.answer (w, memory) =
      let (ended, after) := (Session.click { state := .unlinked }).run
        (server.carried ⟨context, style, text?, false⟩) (warned style text? w, memory)
      (concluded style context ended).run.run server.answer after := by
  rw [link, run_then, Server.run_current, idle]
  simp only [Except.map, Control.State.ofAccount]
  cases text? with
  | none =>
      rw [if_pos rfl, run_then, print, run_lift]
      simp only
      rw [run_then, Server.run_connecting]
      simp only
      rw [run_then, run_lift, Server.run_carryOut]
      rfl
  | some text =>
      rw [if_neg (Option.some_ne_none text), run_then, Server.run_connecting]
      simp only
      rw [run_then, run_lift, Server.run_carryOut]
      rfl

theorem link_runs (server : Server τ) (style : Style) (t : Terminal) (s : Session)
    (idle : accountIn v.1.here t.context.paramsDir v.1.tree = .ok none) (free : t.preset = none)
    (state : s.state = .unlinked) (same : Matches v u) {given : List (List UInt8)}
    (heads : u.1.input.head? = given.head?) :
    Matches (server.runs (link style t.context none) given v) (s.click.run (server.carried t) u).2 := by
  obtain ⟨w, memory⟩ := v
  obtain ⟨state, lastAlert⟩ := s
  cases state
  have begun : Matches (warned style none { w with input := given }, memory) u :=
    ⟨same.here, same.tree, same.requests, same.memory⟩
  obtain ⟨_, paced⟩ := click_paced server ⟨t.context, style, none, false⟩ t rfl rfl free
    ⟨.unlinked, none⟩ begun heads
  have ran := Server.run_link_unlinked server style { w with input := given } memory none idle
  rw [Server.runs]
  refine ran ▸ ?_
  exact matches_trans (matches_symm (concluded_matches _ _)) paced.same

-- What taking an account away comes to.
def cleared (context : Context) (username : String) (v : Scene τ) : Scene τ :=
  ({ v.1 with tree := ((Control.handle (.linked username) .clicked).run
      (serve v.1.here context.paramsDir) v.1.tree).2 }, v.2)

theorem cleared_same {username : String} (same : Matches v u) :
    Matches (cleared context username v) (cleared context username u) := by
  refine ⟨same.here, ?_, same.requests, same.memory⟩
  rw [cleared, cleared, same.here, same.tree]

theorem unlink_runs {account : Account}
    (linked : accountIn v.1.here context.paramsDir v.1.tree = .ok (some account))
    (given : List (List UInt8)) :
    Matches (cleared context account.username v) (server.runs (unlink style context) given v) := by
  obtain ⟨w, memory⟩ := v
  rw [Server.runs, unlink, run_then, Server.run_current, linked]
  simp only [Except.map, Control.State.ofAccount]
  rw [run_then, run_lift, Server.run_store]
  simp only
  rw [run_then, cleared]
  generalize (Control.handle (.linked account.username) .clicked).run
    (serve w.here context.paramsDir) w.tree = turn
  obtain ⟨⟨state, result⟩, tree⟩ := turn
  cases result with
  | error failure => exact ⟨rfl, rfl, rfl, rfl⟩
  | ok effects => exact ⟨rfl, rfl, rfl, rfl⟩

-- The panel takes an account away as the command does, and draws what is left.
theorem click_linked {username : String} (linked : s.state = .linked username) :
    Matches (cleared t.context username v) (s.click.run (server.carried t) v).2 := by
  obtain ⟨w, memory⟩ := v
  have renders : ∀ effects, ((Control.handle (.linked username) .clicked).run
      (serve w.here t.context.paramsDir) w.tree).1.result = .ok effects → effects = [.render] := by
    intro effects led
    exact ((Control.unlinking_settles username).run_end w.tree effects led).1
  rw [Session.click, run_do, Server.run_take, linked, cleared]
  generalize (Control.handle (.linked username) .clicked).run
    (serve w.here t.context.paramsDir) w.tree = turn at renders ⊢
  obtain ⟨⟨state, result⟩, tree⟩ := turn
  cases result with
  | error failure => exact matches_refl _
  | ok effects =>
      obtain rfl := renders effects rfl
      obtain ⟨row, drawn⟩ := Server.run_drawn server t { w with tree } memory ⟨state, none⟩
      have ended : Matches ({ w with tree }, memory)
          ({ w with tree, output := w.output ++ row }, memory) := ⟨rfl, rfl, rfl, rfl⟩
      exact drawn ▸ ended

end LinkedKeys.Program

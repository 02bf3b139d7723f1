import LinkedKeys.Proofs.Program.Runs

namespace LinkedKeys.Program

open Account Script
open Control (accountIn)
open Files (Tree)
open Report (Style)
open Store.Directory (serve Filed filed_none)

variable {web : Web} {w : World} {env : Environment} {args : List String} {invocation : Invocation}
  {context : Context} {style : Style} {username keys : String} {name? keys? : Option String}

theorem clicked_serve {here : List String} {dir : String} {t : Tree}
    (name : Filed here dir t usernameKey (some username)) (blob : Filed here dir t keysKey (some keys)) :
    ∃ after, (Control.handle (.linked username) .clicked).run (serve here dir) t =
      (⟨.unlinked, .ok [.render]⟩, after) ∧ Control.Cleared here dir t after := by
  obtain ⟨after, unlinked, cleared⟩ := Control.unlink_serve name blob
  refine ⟨after, ?_, cleared⟩
  rw [Control.handle, Control.click, run_do, unlinked]
  rfl

theorem run_unlink_idle (idle : accountIn w.here context.paramsDir w.tree = .ok none) :
    (unlink style context).run.run (World.answer web) w =
      (.ok (), { w with output := w.output ++ style.warning "No account linked." }) := by
  rw [unlink, run_then, run_current, idle]
  rfl

theorem run_unlink_linked (web : Web) (style : Style)
    (name : Filed w.here context.paramsDir w.tree usernameKey (some username))
    (blob : Filed w.here context.paramsDir w.tree keysKey (some keys))
    (named : username ≠ "") (full : keys ≠ "") :
    ∃ after, (unlink style context).run.run (World.answer web) w =
      (.ok (), { w with
        tree := after
        output := w.output ++ (style.success ("Unlinked " ++ username) ++
          "\n  Its keys no longer grant SSH access to this device.\n") }) ∧
      Control.Cleared w.here context.paramsDir w.tree after := by
  obtain ⟨after, clicked, cleared⟩ := clicked_serve name blob
  refine ⟨after, ?_, cleared⟩
  have linked : accountIn w.here context.paramsDir w.tree = .ok (some ⟨username, keys⟩) := by
    rw [Control.accountIn_filed name blob]
    simp [ofParts, named, full]
  rw [unlink, run_then, run_current, linked]
  simp only [Except.map, Control.State.ofAccount]
  rw [run_then, run_lift, run_store, clicked]
  rfl

-- The files of a parameter that holds no text count as those of one that is not there, and half an
-- account is none: only a whole account is taken away, and a half that was left over stays.
theorem unlink_clears_iff (web : Web) (opens : Opens env args w invocation context)
    (command : invocation.command = .unlink)
    (name : Filed w.here context.paramsDir w.tree usernameKey name?)
    (blob : Filed w.here context.paramsDir w.tree keysKey keys?) :
    ∃ after, World.run web env args w = (0, after) ∧
      (∀ place, ¬Control.Own w.here context.paramsDir w.tree place →
        after.tree.at? place = w.tree.at? place) ∧
      (name?.getD "" = "" ∨ keys?.getD "" = "" → after.tree = w.tree) ∧
      (Filed w.here context.paramsDir after.tree usernameKey none ∧
          Filed w.here context.paramsDir after.tree keysKey none ↔
        name? = none ∧ keys? = none ∨ name?.getD "" ≠ "" ∧ keys?.getD "" ≠ "") := by
  have acts : action (styleOf env invocation) context invocation.command =
      some (unlink (styleOf env invocation) context) := by rw [command]; rfl
  rw [run_action opens acts]
  by_cases half : name?.getD "" = "" ∨ keys?.getD "" = ""
  · have idle : accountIn w.here context.paramsDir w.tree = .ok none := by
      rw [Control.accountIn_filed name blob, ofParts, if_pos half.symm]
    rw [run_unlink_idle idle]
    refine ⟨_, rfl, fun _ _ => rfl, fun _ => rfl, ?_⟩
    have never : ¬(name?.getD "" ≠ "" ∧ keys?.getD "" ≠ "") := by
      rintro ⟨named, full⟩
      exact half.elim named full
    simp only [filed_none name, filed_none blob, never, or_false]
  · obtain ⟨named, full⟩ := not_or.mp half
    cases name? with
    | none => exact absurd rfl named
    | some username =>
        cases keys? with
        | none => exact absurd rfl full
        | some keys =>
            obtain ⟨after, ran, cleared⟩ := run_unlink_linked web
              (styleOf env invocation) name blob named full
            rw [ran]
            refine ⟨_, rfl, cleared.beside, fun either => absurd either half, ?_⟩
            exact ⟨fun _ => .inr ⟨named, full⟩, fun _ => ⟨cleared.name, cleared.blob⟩⟩

-- A directory that holds a username and no keys, as a link leaves it that is cut short.
def leftover : World where
  tree := .plant {} [] "params/GithubUsername" (.file (Text.toBytes "alice"))

-- The username is there before and after.
theorem unlink_leaves_half : ∃ after,
    World.run (fun _ => .refused) {} ["--params-dir", "params", "unlink"] leftover = (0, after) ∧
      ¬(Filed [] "params" after.tree usernameKey none ∧ Filed [] "params" after.tree keysKey none) := by
  have opens : Opens {} ["--params-dir", "params", "unlink"] leftover
      ⟨{ paramsDir := some "params" }, .unlink⟩ ⟨"params", "https://github.com", 20⟩ :=
    ⟨by decide, by rfl⟩
  have name : Filed [] "params" leftover.tree usernameKey (some "alice") := by decide +kernel
  have blob : Filed [] "params" leftover.tree keysKey none := by decide +kernel
  obtain ⟨after, ran, _, _, cleared⟩ := unlink_clears_iff (fun _ => .refused) opens rfl name blob
  refine ⟨after, ran, fun none => ?_⟩
  rcases cleared.mp none with ⟨absent, _⟩ | ⟨_, full⟩
  · cases absent
  · exact full rfl

end LinkedKeys.Program

import LinkedKeys.Proofs.Keys.Reading
import LinkedKeys.Proofs.Program.Linking
import LinkedKeys.Proofs.Program.Unlinking

namespace LinkedKeys

namespace Program

open Account Script
open Control (accountIn Admits Cleared Kept)
open Files (Tree)
open Report (Json Style)
open Store.Directory (Filed)
open Web (destination keysUrl)

variable {web : Web} {w : World} {env : Environment} {args : List String} {invocation : Invocation}
  {context : Context} {style : Style} {name blob : String}

theorem keysText_lines (blob : String) : KeyLine.ofBlob (keysText blob) = KeyLine.ofBlob blob := by
  unfold keysText
  split
  · rfl
  · exact KeyLine.ofBlob_closed blob

theorem keysText_eq (blob : String) :
    keysText blob = blob ++ (if blob.toList.getLast? = some '\n' then "" else "\n") := by
  unfold keysText
  split
  · exact String.append_empty.symm
  · rfl

theorem run_authorizedKeys {account : Account}
    (linked : accountIn w.here context.paramsDir w.tree = .ok (some account)) :
    (authorizedKeys context).run.run (World.answer web) w =
      (.ok (), { w with output := w.output ++ keysText account.keys }) := by
  rw [authorizedKeys, run_then, run_current, linked]
  simp only [Except.map]
  rw [run_then, run_stored, linked]
  rfl

theorem run_status {account? : Option Account} (json : Bool)
    (reads : accountIn w.here context.paramsDir w.tree = .ok account?) :
    (status style context json).run.run (World.answer web) w =
      (.ok (), { w with output := w.output ++
        (if json then (statusReport account?).render ++ "\n"
          else statusText style context.paramsDir account?) }) := by
  rw [status, run_then, run_current, reads]
  simp only [Except.map]
  rw [run_then, run_stored, reads]
  rfl

-- What the other commands make of a world whose tree holds a linked account.
structure ReadsBack (web : Web) (env : Environment) (args : List String) (invocation : Invocation)
    (context : Context) (name blob : String) (w : World) : Prop where
  keys : invocation.command = .authorizedKeys → ∃ shown,
    World.run web env args w = (0, { w with output := w.output ++ shown }) ∧
    shown = blob ++ (if blob.toList.getLast? = some '\n' then "" else "\n") ∧
    KeyLine.ofBlob shown = KeyLine.ofBlob blob
  report : invocation.command = .status true →
    World.run web env args w = (0, { w with output := w.output ++
      ((Json.object [("linked", .boolean true), ("username", .text name),
        ("keys", .list ((KeyLine.ofBlob blob).map keyReport))]).render ++ "\n") })
  listing : invocation.command = .status false →
    World.run web env args w = (0, { w with output := w.output ++
      ((styleOf env invocation).header ("Linked account: " ++ name) ++
        "  Params: " ++ context.paramsDir ++ "\n" ++
        "  Keys (" ++ toString (KeyLine.ofBlob blob).length ++ "):\n" ++
        String.join ((KeyLine.ofBlob blob).map fun line => "  • " ++ line.render ++ "\n")) })
  unlink : invocation.command = .unlink → ∃ after,
    World.run web env args w = (0, after) ∧ Cleared w.here context.paramsDir w.tree after.tree

theorem filed_readsBack (opens : Opens env args w invocation context)
    (named : Filed w.here context.paramsDir w.tree usernameKey (some name))
    (keyed : Filed w.here context.paramsDir w.tree keysKey (some blob))
    (valid : name ≠ "") (full : blob ≠ "") :
    ReadsBack web env args invocation context name blob w := by
  have linked : accountIn w.here context.paramsDir w.tree = .ok (some ⟨name, blob⟩) := by
    rw [Control.accountIn_filed named keyed]
    simp [ofParts, valid, full]
  refine ⟨fun command => ?_, fun command => ?_, fun command => ?_, fun command => ?_⟩
  · refine ⟨keysText blob, ?_, keysText_eq blob, keysText_lines blob⟩
    rw [run_action opens (by rw [command]; rfl), run_authorizedKeys linked]
    rfl
  · rw [run_action opens (by rw [command]; rfl), run_status true linked]
    rfl
  · rw [run_action opens (by rw [command]; rfl), run_status false linked]
    rfl
  · obtain ⟨after, ran, cleared⟩ := run_unlink_linked web (styleOf env invocation) named keyed valid full
    rw [run_action opens (by rw [command]; rfl), ran]
    exact ⟨_, rfl, cleared⟩

theorem run_link_stored {url : Web.Url} {body : List UInt8} {ready : Tree}
    (valid : Username.isValid name = true)
    (idle : accountIn w.here context.paramsDir w.tree = .ok none)
    (admits : Admits w.here context.paramsDir w.tree ready)
    (said : destination (keysUrl context.host name) = .ok url) (brings : (web url).Brings body) :
    ∃ tree, (link style context (some name)).run.run (World.answer web) w = (.ok (), { w with
        tree
        requests := w.requests ++ [Web.Request.toGet url]
        output := w.output ++ linkReport style (some ⟨name, Text.ofBytesReplacing body⟩) }) ∧
      Kept w.here context.paramsDir name (Text.ofBytesReplacing body) w.tree tree := by
  have full := brings.text_full
  have brought := asked_brings said brings
  obtain ⟨tree, finished, kept⟩ :=
    Control.finish_fetched admits idle (Control.valid_name valid) full
  refine ⟨tree, ?_, kept⟩
  have clean := Control.cleaned_valid valid
  rw [← clean] at valid brought finished
  rw [run_link_fetched idle valid brought full finished]
  rw [Control.accountIn_filed kept.name kept.blob]
  simp [ofParts, full, Control.valid_name (clean ▸ valid)]

theorem link_round_trip {url : Web.Url} {body : List UInt8} {ready : Tree} (web : Web)
    (opens : Opens env args w invocation context) (command : invocation.command = .link (some name))
    (valid : Username.isValid name = true)
    (idle : accountIn w.here context.paramsDir w.tree = .ok none)
    (admits : Admits w.here context.paramsDir w.tree ready)
    (said : destination (keysUrl context.host name) = .ok url) (brings : (web url).Brings body) :
    ∃ tree, World.run web env args w = (0, { w with
        tree
        requests := w.requests ++ [Web.Request.toGet url]
        output := w.output ++ (styleOf env invocation).success ("Linked " ++ name ++ " (" ++
          toString (KeyLine.ofBlob (Text.ofBytesReplacing body)).length ++ " keys)") }) ∧
      Kept w.here context.paramsDir name (Text.ofBytesReplacing body) w.tree tree ∧
      ∀ (later : World) (web : Web) (env : Environment) (args : List String)
        (invocation : Invocation) (settings : Context),
        later.tree = tree → later.here = w.here → settings.paramsDir = context.paramsDir →
        Opens env args later invocation settings →
        ReadsBack web env args invocation settings name (Text.ofBytesReplacing body) later := by
  obtain ⟨tree, ran, kept⟩ := run_link_stored valid idle admits said brings
  refine ⟨tree, ?_, kept, ?_⟩
  · rw [run_action opens (by rw [command]; rfl), ran]
    rfl
  · intro later web env args invocation settings sameTree sameHere sameDir opens
    refine filed_readsBack opens ?_ ?_ (Control.valid_name valid) brings.text_full
    · rw [sameTree, sameHere, sameDir]
      exact kept.name
    · rw [sameTree, sameHere, sameDir]
      exact kept.blob

-- From nothing at all, over a server that answers with one key and no line end.
theorem alice_round_trip : ∃ tree output,
    World.run (fun _ => .response 200 (Text.toBytes "ssh-rsa AAAA") true) {}
      ["--params-dir", "params", "--host", "http://[::1]", "link", "alice"] {} = (0,
        { tree, output, requests := [⟨"GET", "/alice.keys", "keylink/0.3.0"⟩] }) ∧
    Filed [] "params" tree usernameKey (some "alice") ∧
    Filed [] "params" tree keysKey (some "ssh-rsa AAAA") := by
  have opens : Opens {} ["--params-dir", "params", "--host", "http://[::1]", "link", "alice"] {}
      ⟨{ paramsDir := some "params", host := some "http://[::1]" }, .link (some "alice")⟩
      ⟨"params", "http://[::1]", 20⟩ := ⟨by decide, by rfl⟩
  have named : Filed [] "params" {} usernameKey none := by decide +kernel
  have keyed : Filed [] "params" {} keysKey none := by decide +kernel
  have admits : Admits [] "params" {} ⟨[(["params"], .directory)]⟩ := by
    refine ⟨by decide +kernel, fun key known => ?_⟩
    rcases List.mem_pair.mp known with rfl | rfl
    · exact ⟨["params", "GithubUsername"], none, by decide +kernel⟩
    · exact ⟨["params", "GithubSshKeys"], none, by decide +kernel⟩
  have said : destination (keysUrl "http://[::1]" "alice") =
      .ok ⟨"http", some { host := "[::1]" }, .segments ["alice.keys"], none, none⟩ := by rfl
  have brings : (Web.Reply.response 200 (Text.toBytes "ssh-rsa AAAA") true).Brings
      (Text.toBytes "ssh-rsa AAAA") := ⟨200, rfl, by decide, by decide⟩
  obtain ⟨tree, ran, kept, _⟩ := link_round_trip
    (fun _ => .response 200 (Text.toBytes "ssh-rsa AAAA") true) opens rfl (by decide)
    (Control.accountIn_filed named keyed) admits said brings
  have read : Text.ofBytesReplacing (Text.toBytes "ssh-rsa AAAA") = "ssh-rsa AAAA" := by decide +kernel
  refine ⟨tree, _, ran, kept.name, ?_⟩
  rw [← read]
  exact kept.blob

end Program

end LinkedKeys

import LinkedKeys.Proofs.Program.RoundTrip

namespace LinkedKeys.Program

open Account
open Control (accountIn)
open Report (Style)
open Store.Directory (Filed)

variable {web : Web} {env : Environment} {args : List String} {w : World} {invocation : Invocation}
  {context : Context}

def keyRow (key : KeyLine) : String := "  • " ++ key.render

theorem keyRow_level {blob : String} {key : KeyLine} (among : key ∈ KeyLine.ofBlob blob) :
    '\n' ∉ (keyRow key).toList ∧ '\r' ∉ (keyRow key).toList := by
  have level : KeyLine.Level (keyRow key) :=
    KeyLine.level_append (by decide) (KeyLine.render_level among)
  constructor
  · intro feed
    exact absurd (level '\n' feed (by decide)) (by decide)
  · intro back
    exact absurd (level '\r' back (by decide)) (by decide)

theorem listing_lines (blob : String) :
    Text.lines (String.join ((KeyLine.ofBlob blob).map fun key => keyRow key ++ "\n")).toList =
      (KeyLine.ofBlob blob).map fun key => (keyRow key).toList := by
  have rows : (String.join ((KeyLine.ofBlob blob).map fun key => keyRow key ++ "\n")).toList =
      ((KeyLine.ofBlob blob).map fun key => (keyRow key).toList).flatMap (· ++ ['\n']) := by
    rw [String.toList_join, List.flatMap_map, List.flatMap_map]
    simp
  rw [rows]
  apply Text.lines_rows
  intro row among
  obtain ⟨key, listed, rfl⟩ := List.mem_map.mp among
  exact keyRow_level listed

-- The output of the status command: a heading that ends a line, and behind it a line for each key.
def Prints (web : Web) (env : Environment) (args : List String) (w : World) (style : Style)
    (dir : String) (account : Account) : Prop :=
  ∃ listing,
    World.run web env args w = (0, { w with output := w.output ++
      (style.header ("Linked account: " ++ account.username) ++ "  Params: " ++ dir ++ "\n" ++
        "  Keys (" ++ toString (KeyLine.ofBlob account.keys).length ++ "):\n" ++ listing) }) ∧
    Text.lines listing.toList =
      (KeyLine.ofBlob account.keys).map fun key => ("  • " ++ key.render).toList

theorem status_prints {account : Account} (opens : Opens env args w invocation context)
    (command : invocation.command = .status false)
    (linked : accountIn w.here context.paramsDir w.tree = .ok (some account)) :
    Prints web env args w (styleOf env invocation) context.paramsDir account := by
  refine ⟨_, ?_, listing_lines account.keys⟩
  rw [run_action opens (by rw [command]; rfl), run_status false linked]
  rfl

-- Nothing but the fields between line feeds counts: not how they are set apart, not which line ends
-- there are, and not what stands in front or behind.
structure Listed (account : Account) : Prop where
  reading : account.lines = (account.keys.toList.splitOn '\n').filterMap fun piece =>
    KeyLine.fieldwise ((piece.splitOnP Text.isBlank).filter (· ≠ []))
  append : ∀ other,
    KeyLine.ofBlob (account.keys ++ "\n" ++ other) = account.lines ++ KeyLine.ofBlob other
  returned : KeyLine.ofBlob (KeyLine.returned account.keys) = account.lines
  fields : ∀ other,
    (Text.lines other.toList).map Text.fields = (Text.lines account.keys.toList).map Text.fields →
      KeyLine.ofBlob other = account.lines
  level : ∀ key ∈ account.lines, KeyLine.Level key.render
  printed : ∀ web env args w invocation context, Opens env args w invocation context →
    invocation.command = .status false →
    accountIn w.here context.paramsDir w.tree = .ok (some account) →
      Prints web env args w (styleOf env invocation) context.paramsDir account

theorem account_listed (account : Account) : Listed account where
  reading := by
    rw [lines, KeyLine.ofBlob_pieces, Text.pieces_splitOn]
    apply List.filterMap_congr
    intro piece _
    rw [KeyLine.ofLine_fieldwise, Text.fields_splitOnP]
  append := KeyLine.ofBlob_append account.keys
  returned := KeyLine.ofBlob_returned account.keys
  fields := fun _ same => KeyLine.ofBlob_fields same
  level := fun _ among => KeyLine.render_level among
  printed := fun _ _ _ _ _ _ opens command linked => status_prints opens command linked

-- A remark, a line of blanks and a key, with a blank that is no line end inside its comment.
def remarked : Account := ⟨"alice", "# none\r\n \u2003\r\nssh-rsa AAA alice\u2028laptop\r\n"⟩

def remarkedWorld : World where
  tree := ⟨[(["params"], .directory),
    (["params", "GithubUsername"], .file (Text.toBytes remarked.username)),
    (["params", "GithubSshKeys"], .file (Text.toBytes remarked.keys))]⟩

theorem remarked_listed : remarked.lines = [⟨"ssh-rsa", some "alice laptop", none⟩] ∧
    Prints (fun _ => .refused) {} ["--params-dir", "params", "status"] remarkedWorld {} "params"
      remarked := by
  have named : Filed [] "params" remarkedWorld.tree usernameKey (some remarked.username) := by
    decide +kernel
  have keyed : Filed [] "params" remarkedWorld.tree keysKey (some remarked.keys) := by decide +kernel
  have opens : Opens {} ["--params-dir", "params", "status"] remarkedWorld
      ⟨{ paramsDir := some "params" }, .status false⟩ ⟨"params", "https://github.com", 20⟩ :=
    ⟨by decide, by rfl⟩
  have linked : accountIn [] "params" remarkedWorld.tree = .ok (some remarked) := by
    rw [Control.accountIn_filed named keyed]
    decide +kernel
  have listed := account_listed remarked
  have prints := listed.printed (fun _ => .refused) _ _ _ _ _ opens rfl linked
  refine ⟨?_, prints⟩
  rw [listed.reading]
  decide +kernel

end LinkedKeys.Program

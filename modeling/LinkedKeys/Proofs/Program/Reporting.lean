import LinkedKeys.Proofs.Program.RoundTrip
import LinkedKeys.Proofs.Report.Decoding

namespace LinkedKeys.Program

open Account
open Control (accountIn)
open Report (Json)
open Store.Directory (Filed)

variable {env : Environment} {args : List String} {w : World} {invocation : Invocation}
  {context : Context} {name? blob? : Option String}

-- What a report tells once it is decoded.
structure Standing where
  linked : Bool
  username : Option String
  keys : List KeyLine
  deriving DecidableEq

namespace Standing

def ofAccount (account? : Option Account) : Standing where
  linked := account?.isSome
  username := account?.map (·.username)
  keys := (account?.map Account.lines).getD []

def optional? : Json → Option (Option String)
  | .null => some none
  | .text t => some (some t)
  | _ => none

-- These members and no others.
def key? : Json → Option KeyLine
  | .object [("algorithm", .text algorithm), ("comment", comment), ("fingerprint", fingerprint)] => do
      return { algorithm, comment := ← optional? comment, fingerprint := ← optional? fingerprint }
  | _ => none

def ofJson? : Json → Option Standing
  | .object [("linked", .boolean linked), ("username", username), ("keys", .list keys)] => do
      return { linked, username := ← optional? username, keys := ← keys.mapM key? }
  | _ => none

theorem optional?_text (text? : Option String) : optional? (optionalText text?) = some text? := by
  cases text? <;> rfl

theorem key?_report (line : KeyLine) : key? (keyReport line) = some line := by
  rw [keyReport, key?, optional?_text, optional?_text]
  rfl

theorem keys?_reports (lines : List KeyLine) : (lines.map keyReport).mapM key? = some lines := by
  induction lines with
  | nil => rfl
  | cons line lines ih =>
      rw [List.map_cons, List.mapM_cons, key?_report, ih]
      rfl

theorem ofJson?_report (account? : Option Account) :
    ofJson? (statusReport account?) = some (ofAccount account?) := by
  rw [statusReport, ofJson?, optional?_text, keys?_reports]
  rfl

end Standing

-- The document stands for one JSON value, and it decodes to the standing of the account.
structure Reports (document : String) (account? : Option Account) (value : Json) : Prop where
  written : Json.Document value document.toList
  only : ∀ other, Json.Document other document.toList → other = value
  decoded : Json.decode document = some value
  told : Standing.ofJson? value = some (Standing.ofAccount account?)

theorem statusReport_reports (account? : Option Account) :
    Reports (statusReport account?).render account? (statusReport account?) where
  written := Json.render_document _
  only := fun _ other => Json.document_unique other (Json.render_document _)
  decoded := Json.decode_document (Json.render_document _)
  told := Standing.ofJson?_report account?

theorem status_json_decodes (web : Web) (opens : Opens env args w invocation context)
    (command : invocation.command = .status true)
    (named : Filed w.here context.paramsDir w.tree usernameKey name?)
    (keyed : Filed w.here context.paramsDir w.tree keysKey blob?) :
    ∃ account? document value,
      accountIn w.here context.paramsDir w.tree = .ok account? ∧
      account? = ofParts (blob?.getD "") (name?.getD "") ∧
      World.run web env args w = (0, { w with output := w.output ++ (document ++ "\n") }) ∧
      Reports document account? value := by
  have reads := Control.accountIn_filed named keyed
  refine ⟨_, _, _, reads, rfl, ?_, statusReport_reports _⟩
  rw [run_action opens (by rw [command]; rfl), run_status true reads]
  rfl

-- Quotes, a line end and a control character in the name, a backslash in an algorithm, and a comment
-- that ends with a character past 0xffff.
def awkward : Account := ⟨"\"al\nice\"\x01", "ssh\\rsa\tAAAA\t\"my\" key 🔑\r\nlone\n"⟩

def awkwardWorld : World where
  tree := ⟨[(["params"], .directory),
    (["params", "GithubUsername"], .file (Text.toBytes awkward.username)),
    (["params", "GithubSshKeys"], .file (Text.toBytes awkward.keys))]⟩

theorem awkward_account_decodes :
    ∃ document value,
      World.run (fun _ => .refused) {} ["--params-dir", "params", "status", "--json"] awkwardWorld =
        (0, { awkwardWorld with output := document ++ "\n" }) ∧
      Reports document (some awkward) value := by
  have named : Filed [] "params" awkwardWorld.tree usernameKey (some awkward.username) := by
    decide +kernel
  have keyed : Filed [] "params" awkwardWorld.tree keysKey (some awkward.keys) := by decide +kernel
  have opens : Opens {} ["--params-dir", "params", "status", "--json"] awkwardWorld
      ⟨{ paramsDir := some "params" }, .status true⟩ ⟨"params", "https://github.com", 20⟩ :=
    ⟨by decide, by rfl⟩
  obtain ⟨account?, document, value, -, read, printed, reports⟩ :=
    status_json_decodes (fun _ => .refused) opens rfl named keyed
  have whole : account? = some awkward := by
    rw [read]
    decide +kernel
  rw [whole] at reports
  refine ⟨document, value, ?_, reports⟩
  rw [printed]
  simp [awkwardWorld]

end LinkedKeys.Program

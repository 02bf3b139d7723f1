import LinkedKeys.Program.Terminal
import LinkedKeys.Report.Json
import LinkedKeys.Settings.Arguments

namespace LinkedKeys.Program

open Report (Style Json)

def warningText : String :=
  "Warning: This grants SSH access to all public keys in your GitHub settings. " ++
    "Never enter a GitHub username other than your own. " ++
    "Nobody will ever legitimately ask you to add their GitHub username."

def versionText : String := "keylink 0.3.0\n"

def usageText : String :=
  "Link a GitHub account and authorize its public SSH keys on this device\n\n" ++
    "Usage: keylink [OPTIONS] <COMMAND>\n\n" ++
    "Commands:\n" ++
    "  status           Show the linked account and its keys\n" ++
    "  link             Link an account and store its public keys\n" ++
    "  unlink           Forget the linked account and its keys\n" ++
    "  authorized-keys  Print the stored keys in authorized_keys format\n" ++
    "  panel            Interactive control: Enter toggles, q quits\n" ++
    "  help             Print this message or the help of the given subcommand(s)\n\n" ++
    "Options:\n" ++
    "      --params-dir <PARAMS_DIR>  Directory holding the persisted parameters\n" ++
    "      --host <HOST>              Host serving the keys (default: https://github.com)\n" ++
    "      --timeout <TIMEOUT>        Request timeout in seconds\n" ++
    "  -v, --verbose                  Verbose output\n" ++
    "  -q, --quiet                    Quiet mode: only show errors\n" ++
    "      --config <CONFIG>          Path to alternative config file\n" ++
    "  -h, --help                     Print help\n" ++
    "  -V, --version                  Print version\n"

-- A panel between two turns.
structure Panel where
  terminal : Terminal
  session : Control.Session

def optionalText : Option String → Json
  | none => .null
  | some text => .text text

def keyReport (line : KeyLine) : Json :=
  .object [("algorithm", .text line.algorithm), ("comment", optionalText line.comment),
    ("fingerprint", optionalText line.fingerprint)]

def statusReport (account : Option Account) : Json :=
  .object [("linked", .boolean account.isSome),
    ("username", optionalText (account.map (·.username))),
    ("keys", .list (((account.map Account.lines).getD []).map keyReport))]

def statusText (style : Style) (paramsDir : String) : Option Account → String
  | none => style.warning "No account linked." ++ "  Run 'keylink link <username>' to add one.\n"
  | some account =>
      style.header ("Linked account: " ++ account.username) ++
        "  Params: " ++ paramsDir ++ "\n" ++
        "  Keys (" ++ toString account.lines.length ++ "):\n" ++
        String.join (account.lines.map fun line => "  • " ++ line.render ++ "\n")

def status (style : Style) (context : Context) (json : Bool) : Action Unit := do
  let _ ← storing context.paramsDir Control.current
  let account ← storing context.paramsDir Account.stored
  print (if json then (statusReport account).render ++ "\n"
    else statusText style context.paramsDir account)

-- The stored blob as it is, with a line end where it lacks one.
def keysText (keys : String) : String :=
  if keys.toList.getLast? = some '\n' then keys else keys ++ "\n"

def authorizedKeys (context : Context) : Action Unit := do
  let _ ← storing context.paramsDir Control.current
  match ← storing context.paramsDir Account.stored with
  | none => return ()
  | some account => print (keysText account.keys)

def unlink (style : Style) (context : Context) : Action Unit := do
  match ← storing context.paramsDir Control.current with
  | .linked username => do
      let turn ← ExceptT.lift (filing
        ((Control.handle (.linked username) .clicked).through
          (Store.Directory.answer context.paramsDir)))
      let _ ← settled turn.result
      print (style.success ("Unlinked " ++ username) ++
        "\n  Its keys no longer grant SSH access to this device.\n")
  | _ => print (style.warning "No account linked.")

def linkReport (style : Style) : Option Account → String
  | some account =>
      style.success ("Linked " ++ account.username ++ " (" ++ toString account.lines.length ++
        " keys)")
  | none => style.warning "No username entered, nothing linked."

-- One click while unlinked. Without a name the prompt asks for one, behind a warning.
def link (style : Style) (context : Context) (username : Option String) : Action Unit := do
  match ← storing context.paramsDir Control.current with
  | .linked username => throw (.alreadyLinked username)
  | state => do
      if username = none then print (style.warning warningText)
      connecting context.timeout
      let terminal : Terminal := { context, style, preset := username }
      let (result, session) ← ExceptT.lift (terminal.carryOut (Control.Session.click { state }))
      settled result
      if session.lastAlert.isSome then throw .notLinked
      print (linkReport style (← storing context.paramsDir Account.stored))

namespace Panel

def start (style : Style) (context : Context) : Action Panel := do
  print (style.header "SSH Keys" ++ "  " ++ warningText ++ "\n\n")
  let state ← storing context.paramsDir Control.current
  connecting context.timeout
  let terminal : Terminal := { context, style, showsRows := true }
  let (result, session) ← ExceptT.lift (terminal.carryOut (Control.Session.render { state }))
  settled result
  return ⟨terminal, session⟩

def click (p : Panel) : Action Panel := do
  let (result, session) ← ExceptT.lift (p.terminal.carryOut p.session.click)
  settled result
  return { p with session }

-- A line of input as a command: to quit, to click, or nothing known. Quitting leaves no panel.
def obey (p : Panel) (line : String) : Action (Option Panel) :=
  let command := Text.trim line.toList
  if command = ['q'] ∨ command = ['q', 'u', 'i', 't'] then return none
  else if command = [] then return some (← p.click)
  else do
    print (p.terminal.style.warning ("Unknown input '" ++ String.ofList command ++ "'"))
    return some p

def invitation (p : Panel) : String :=
  "  [Enter] " ++ p.session.state.view.button.label ++ "  [q] quit: "

-- One turn reads one command; the click it may stand for can read another line.
def turn (p : Panel) : Script (Except Failure (Option Panel)) :=
  .ask (.print p.invitation) fun _ => .ask .readLine fun
    | none => return .ok none
    | some bytes => (settled (decodeLine bytes) >>= p.obey).run

end Panel

-- Everything up to the end, or up to the first turn of a panel.
def start (env : Environment) (style : Style) (invocation : Invocation) :
    Action (Option Panel) := do
  let context ← ExceptT.mk (filing (Context.resolve invocation.options env))
  match invocation.command with
  | .status json => status style context json
  | .link username => link style context username
  | .unlink => unlink style context
  | .authorizedKeys => authorizedKeys context
  | .panel => return some (← Panel.start style context)
  return none

end LinkedKeys.Program

import LinkedKeys.Control.Session
import LinkedKeys.Program.Call
import LinkedKeys.Report.Style
import LinkedKeys.Settings.Context
import LinkedKeys.Store.Directory
import LinkedKeys.Text.Blank

namespace LinkedKeys.Program

structure Terminal where
  context : Context
  style : Report.Style
  preset : Option String := none
  showsRows : Bool := false

namespace Terminal

def row (style : Report.Style) (view : Control.View) : String :=
  let button := "[" ++ view.button.label ++ "]"
  let button :=
    if !view.enabled then style.paint .dimmed button
    else if view.button = .remove then style.paint .red button
    else style.paint .green button
  let username := if view.username = "" then "" else style.paint .gray view.username ++ "  "
  "  " ++ style.paint .bold "SSH Keys" ++ "  " ++ username ++ button ++ "\n"

-- What is typed is cleaned of blanks on both sides; nothing typed is a dismissal.
def typed (line : String) : Option String :=
  let name := Text.trim line.toList
  if name = [] then none else some (String.ofList name)

def ask (title : String) : Script (Except Failure (Option String)) :=
  .ask (.print ("  " ++ title ++ ": ")) fun _ => .ask .readLine fun
    | none => return .ok none
    | some bytes => return (decodeLine bytes).map typed

-- Nothing is drawn while a fetch is under way.
def answer (t : Terminal) : (c : Control.Session.Call) → Script c.Answer
  | .store call => filing (Store.Directory.answer t.context.paramsDir call)
  | .render view =>
      if view.button = .loading ∨ !t.showsRows then return .ok ()
      else do
        printing (row t.style view)
        return .ok ()
  | .prompt title =>
      match t.preset with
      | some name => return .ok (some name)
      | none => ask title
  | .alert alert => do
      complaining (t.style.error alert.message)
      return .ok ()
  | .fetch username => fetch t.context.host t.context.timeout username

def carryOut {α : Type} (t : Terminal) (script : Control.Session.Script α) : Script α :=
  script.through t.answer

end Terminal

-- Store calls outside a session.
def storing {α : Type} (paramsDir : String) (script : Store.Attempt α) : Action α :=
  ExceptT.mk (filing (script.run.through (Store.Directory.answer paramsDir)))

end LinkedKeys.Program

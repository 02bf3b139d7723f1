import LinkedKeys.Files.Call
import LinkedKeys.Files.Path
import LinkedKeys.Store.Call
import LinkedKeys.Text.Utf8

namespace LinkedKeys.Store.Directory

def isPlain (key : String) : Bool :=
  key ≠ "" && key.toList.all fun c => c.isAlphanum || c == '_'

def fileOf (dir key : String) : String := Files.Path.join dir key

def guarded {α : Type} (key : String) (script : Files.Script (Except Failure α)) :
    Files.Script (Except Failure α) :=
  if isPlain key then script else return .error (.badKey key)

-- An unreadable value gives no reason: the path is what a user can act on.
def get (dir key : String) : Files.Script (Except Failure String) :=
  .ask (.read (fileOf dir key)) fun
    | .error .missing => return .ok ""
    | .error _ => return .error (.unreadable key (fileOf dir key))
    | .ok content =>
        match Text.ofBytes? content with
        | none => return .error (.unreadable key (fileOf dir key))
        | some value => return .ok value

def put (dir key value : String) : Files.Script (Except Failure Unit) := do
  match ← Files.makeChain (if dir = "" then [] else dir :: Files.Path.ancestors dir) with
  | .error cause => return .error (.unwritable key dir cause.message)
  | .ok () =>
      .ask (.replace (fileOf dir key) (Text.toBytes value)) fun
        | .error cause => return .error (.unwritable key (fileOf dir key) cause.message)
        | .ok () => return .ok ()

def remove (dir key : String) : Files.Script (Except Failure Unit) :=
  .ask (.remove (fileOf dir key)) fun
    | .error .missing => return .ok ()
    | .error cause => return .error (.unwritable key (fileOf dir key) cause.message)
    | .ok () => return .ok ()

def answer (dir : String) : (c : Call) → Files.Script c.Answer
  | .get key => guarded key (get dir key)
  | .put key value => guarded key (put dir key value)
  | .remove key => guarded key (remove dir key)

end LinkedKeys.Store.Directory

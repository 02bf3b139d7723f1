import LinkedKeys.Account
import LinkedKeys.Control.State
import LinkedKeys.Text.Blank

namespace LinkedKeys.Control

-- The state that the stored pair stands for.
def State.ofAccount : Option Account → State
  | some account => .linked account.username
  | none => .unlinked

def current : Store.Attempt State := do
  return State.ofAccount (← Account.stored)

structure Turn where
  state : State
  result : Except Failure (List Effect)

-- The keys go first, so an unlinking that is cut short reads as no account.
def unlink : Store.Attempt (List Effect × State) := do
  Store.remove Account.keysKey
  Store.remove Account.usernameKey
  return ([.render], ← current)

def click (state : State) : Store.Script Turn :=
  match state with
  | .unlinked => return ⟨state, .ok [.prompt]⟩
  | .loading _ => return ⟨state, .ok []⟩
  | .linked _ => do
      match ← unlink.run with
      | .ok (effects, next) => return ⟨next, .ok effects⟩
      | .error failure => return ⟨state, .error failure⟩

def submit (state : State) (text : String) : Turn :=
  let name := String.ofList (Text.trim text.toList)
  if state ≠ .unlinked ∨ name = "" then ⟨state, .ok []⟩
  else if Username.isValid name then ⟨.loading name, .ok [.render, .fetch name]⟩
  else ⟨state, .ok [.alert (.invalidUsername name), .render]⟩

-- Takes a username back that was written for keys that could not be. Whether this succeeds is
-- not reported: the failure that led here is.
def restore (previous : String) : Store.Attempt Unit :=
  if previous = "" then Store.remove Account.usernameKey
  else Store.put Account.usernameKey previous

-- The username goes first: as long as no keys are there, it reads as no account.
def persist (username keys : String) : Store.Attempt Unit := do
  let previous ← Store.get Account.usernameKey
  Store.put Account.usernameKey username
  tryCatch (Store.put Account.keysKey keys) fun failure => do
    tryCatch (restore previous) fun _ => pure ()
    throw failure

-- What a finished fetch leads to before the state is read again.
def conclude (username : String) : Outcome → Store.Attempt (List Effect)
  | .fetched body =>
      if body = "" then return [.alert (.noKeys username)]
      else do
        persist username body
        return []
  | .timedOut => return [.alert .timedOut]
  | .notFound => return [.alert (.userNotFound username)]
  | .failed reason => return [.alert (.requestFailed reason)]

-- The state is read again whether or not the pair could be written, and a failure to read it
-- comes before a failure to write.
def finish (state : State) (username : String) (outcome : Outcome) : Store.Script Turn :=
  if state = .loading username then do
    let concluded ← (conclude username outcome).run
    match ← current.run with
    | .error failure => return ⟨state, .error failure⟩
    | .ok next => return ⟨next, concluded.map (· ++ [.render])⟩
  else return ⟨state, .ok []⟩

def handle (state : State) : Event → Store.Script Turn
  | .clicked => click state
  | .submitted text => return submit state text
  | .dismissed => return ⟨state, .ok []⟩
  | .finished username outcome => finish state username outcome

end LinkedKeys.Control

namespace LinkedKeys.Control

inductive State where
  | unlinked
  | loading (username : String)
  | linked (username : String)
  deriving DecidableEq

inductive Button where
  | add
  | loading
  | remove
  deriving DecidableEq

def Button.label : Button → String
  | .add => "ADD"
  | .loading => "LOADING"
  | .remove => "REMOVE"

structure View where
  button : Button
  enabled : Bool
  username : String
  deriving DecidableEq

def State.view : State → View
  | .unlinked => ⟨.add, true, ""⟩
  | .loading _ => ⟨.loading, false, ""⟩
  | .linked username => ⟨.remove, true, username⟩

-- A complete answer may be empty; that is for the control to judge.
inductive Outcome where
  | fetched (body : String)
  | timedOut
  | notFound
  | failed (reason : String)
  deriving DecidableEq

inductive Alert where
  | noKeys (username : String)
  | timedOut
  | userNotFound (username : String)
  | requestFailed (reason : String)
  | invalidUsername (username : String)
  deriving DecidableEq

def Alert.message : Alert → String
  | .noKeys username => "Username '" ++ username ++ "' has no keys on GitHub"
  | .timedOut => "Request timed out"
  | .userNotFound username => "Username '" ++ username ++ "' doesn't exist on GitHub"
  | .requestFailed reason => "Request failed: " ++ reason
  | .invalidUsername username => "'" ++ username ++ "' is not a valid username"

inductive Event where
  | clicked
  | submitted (text : String)
  | dismissed
  | finished (username : String) (outcome : Outcome)

inductive Effect where
  | prompt
  | fetch (username : String)
  | alert (alert : Alert)
  | render
  deriving DecidableEq

end LinkedKeys.Control

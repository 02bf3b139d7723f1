import LinkedKeys.Failure
import LinkedKeys.Script

namespace LinkedKeys.Store

-- An absent parameter reads as the empty text, and removing it is no failure.
inductive Call where
  | get (key : String)
  | put (key value : String)
  | remove (key : String)
  deriving DecidableEq

abbrev Call.Answer : Call → Type
  | .get _ => Except Failure String
  | .put _ _ => Except Failure Unit
  | .remove _ => Except Failure Unit

abbrev Script (α : Type) := LinkedKeys.Script Call Call.Answer α

-- Goes on only after an answer that is no failure.
abbrev Attempt (α : Type) := ExceptT Failure (LinkedKeys.Script Call Call.Answer) α

def get (key : String) : Attempt String := ExceptT.mk (.ask (Call.get key) .done)

def put (key value : String) : Attempt Unit := ExceptT.mk (.ask (Call.put key value) .done)

def remove (key : String) : Attempt Unit := ExceptT.mk (.ask (Call.remove key) .done)

end LinkedKeys.Store

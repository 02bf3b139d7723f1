import LinkedKeys.Files.Call
import LinkedKeys.Web.Fetch
import LinkedKeys.Failure

namespace LinkedKeys.Program

inductive Call where
  | files (call : Files.Call)
  | print (text : String)
  | complain (text : String)
  | readLine
  | client (seconds : Nat)
  | request (url : Web.Url) (seconds : Nat)

-- A line of input comes with its line end; at the end of the input there is none. A client, which may
-- be impossible to have, and each of its requests are given so many seconds.
abbrev Call.Answer : Call → Type
  | .files call => call.Answer
  | .print _ => Unit
  | .complain _ => Unit
  | .readLine => Option (List UInt8)
  | .client _ => Except String Unit
  | .request _ _ => Web.Reply

abbrev Script (α : Type) := LinkedKeys.Script Call Call.Answer α

-- Goes on only while nothing has failed.
abbrev Action (α : Type) := ExceptT Failure (LinkedKeys.Script Call Call.Answer) α

def filing {α : Type} (script : Files.Script α) : Script α :=
  script.through fun call => .ask (.files call) .done

def printing (text : String) : Script Unit := .ask (.print text) .done

def complaining (text : String) : Script Unit := .ask (.complain text) .done

def print (text : String) : Action Unit := ExceptT.lift (printing text)

def settled {α : Type} (result : Except Failure α) : Action α := ExceptT.mk (.done result)

def decodeLine (bytes : List UInt8) : Except Failure String :=
  match Text.ofBytes? bytes with
  | none => .error (.system "stream did not contain valid UTF-8")
  | some line => .ok line

-- There has to be a client before there is a session.
def connecting (seconds : Nat) : Action Unit :=
  ExceptT.mk (.ask (.client seconds) fun had =>
    return had.mapError fun reason => .noClient ("Failed to create HTTP client: " ++ reason))

def fetch (host : String) (seconds : Nat) (username : String) : Script Control.Outcome :=
  let text := Web.keysUrl host username
  match Web.destination text with
  | .error outcome => return outcome
  | .ok url => .ask (.request url seconds) fun reply => return Web.judge text url reply

end LinkedKeys.Program

import LinkedKeys.Control.Session
import LinkedKeys.Store.Faulty

namespace LinkedKeys.Control

inductive Screen where
  | render
  | prompt
  | alert
  deriving DecidableEq

def Screen.word : Screen → String
  | .render => "render"
  | .prompt => "prompt"
  | .alert => "alert"

inductive Asked where
  | render (view : View)
  | prompt (title : String)
  | alert (alert : Alert)
  | fetch (username : String)
  deriving DecidableEq

-- What was asked of the screen and the fetcher is kept in order, refused calls included.
structure Rehearsal where
  store : Store.Faulty := {}
  answers : List (Option String) := []
  outcomes : List (String × Outcome) := []
  refusals : List Screen := []
  asked : List Asked := []

namespace Rehearsal

-- A planned refusal is used up by the first call of its kind.
def refuses (r : Rehearsal) (kind : Screen) : Option Failure × Rehearsal :=
  if kind ∈ r.refusals then
    (some (.system (kind.word ++ " refused")), { r with refusals := r.refusals.erase kind })
  else (none, r)

def log (r : Rehearsal) (entry : Asked) : Rehearsal :=
  { r with asked := r.asked ++ [entry] }

def draw (r : Rehearsal) (kind : Screen) (entry : Asked) : Except Failure Unit × Rehearsal :=
  match (r.log entry).refuses kind with
  | (some failure, r) => (.error failure, r)
  | (none, r) => (.ok (), r)

-- An unknown username has no account, and a prompt without an answer left is dismissed.
def answer : (c : Session.Call) → Rehearsal → c.Answer × Rehearsal
  | .store call, r =>
      let (reply, store) := Store.Faulty.answer call r.store
      (reply, { r with store })
  | .render view, r => r.draw .render (.render view)
  | .alert alert, r => r.draw .alert (.alert alert)
  | .prompt title, r =>
      match (r.log (.prompt title)).refuses .prompt with
      | (some failure, r) => (.error failure, r)
      | (none, r) => (.ok (r.answers.head?.getD none), { r with answers := r.answers.drop 1 })
  | .fetch username, r =>
      ((r.outcomes.lookup username).getD .notFound, r.log (.fetch username))

end Rehearsal

end LinkedKeys.Control

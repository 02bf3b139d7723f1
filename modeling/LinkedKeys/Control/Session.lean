import LinkedKeys.Control.Handle

namespace LinkedKeys.Control

namespace Session

inductive Call where
  | store (call : Store.Call)
  | render (view : View)
  | prompt (title : String)
  | alert (alert : Alert)
  | fetch (username : String)

abbrev Call.Answer : Call → Type
  | .store call => call.Answer
  | .render _ => Except Failure Unit
  | .prompt _ => Except Failure (Option String)
  | .alert _ => Except Failure Unit
  | .fetch _ => Outcome

abbrev Script (α : Type) := LinkedKeys.Script Call Call.Answer α

-- Store calls made on behalf of the control.
def storing {α : Type} (script : Store.Script α) : Script α :=
  script.through fun call => .ask (.store call) .done

end Session

structure Session where
  state : State
  lastAlert : Option Alert := none

namespace Session

def promptTitle : String := "Enter your GitHub username"

def take (s : Session) (event : Event) : Script (Except Failure (List Effect) × Session) := do
  let turn ← storing (handle s.state event)
  return (turn.result, { s with state := turn.state })

def render (s : Session) : Script (Except Failure Unit × Session) :=
  .ask (.render s.state.view) fun answer => return (answer, s)

def perform (s : Session) : Effect → Script (Except Failure (List Effect) × Session)
  | .prompt => .ask (.prompt promptTitle) fun
      | .error failure => return (.error failure, s)
      | .ok (some text) => take s (.submitted text)
      | .ok none => take s .dismissed
  | .fetch username => .ask (.fetch username) fun outcome => take s (.finished username outcome)
  | .alert alert => .ask (.alert alert) fun
      | .error failure => return (.error failure, s)
      | .ok () => return (.ok [], { s with lastAlert := some alert })
  | .render => do
      let (answer, s) ← render s
      return (answer.map fun _ => [], s)

-- How many effects an effect can stand for, itself included. A prompt leads to a render and a
-- fetch at most, and a fetch to an alert and a render.
def weight : Effect → Nat
  | .prompt => 5
  | .fetch _ => 3
  | .alert _ => 1
  | .render => 1

def load : List Effect → Nat
  | [] => 0
  | effect :: rest => weight effect + load rest

-- The first argument bounds how many effects are still performed.
def performFirst : Nat → List Effect → Session → Script (Except Failure Unit × Session)
  | 0, _, s => return (.ok (), s)
  | _ + 1, [], s => return (.ok (), s)
  | n + 1, effect :: queue, s => do
      let (result, s) ← perform s effect
      match result with
      | .error failure => return (.error failure, s)
      | .ok next => performFirst n (queue ++ next) s

-- First in, first out: what an effect leads to waits behind the effects already there.
def performAll (effects : List Effect) (s : Session) : Script (Except Failure Unit × Session) :=
  performFirst (load effects) effects s

-- A click forgets the alert of the click before it, even when it goes wrong at once.
def click (s : Session) : Script (Except Failure Unit × Session) := do
  let (result, s) ← take { s with lastAlert := none } .clicked
  match result with
  | .error failure => return (.error failure, s)
  | .ok effects => performAll effects s

end Session

end LinkedKeys.Control

import LinkedKeys.Store.Params

namespace LinkedKeys.Store

inductive Method where
  | get
  | put
  | remove
  deriving DecidableEq

def Call.method : Call → Method
  | .get _ => .get
  | .put _ _ => .put
  | .remove _ => .remove

def Call.key : Call → String
  | .get key => key
  | .put key _ => key
  | .remove key => key

-- No key stands for every key, and no number of times for every time.
structure Fault where
  method : Method
  key : Option String
  after : Nat
  times : Option Nat

def Fault.covers (f : Fault) (c : Call) : Bool :=
  f.method = c.method ∧ (f.key = none ∨ f.key = some c.key)

-- Whether the call fails, and what is left of the fault.
def Fault.meet (f : Fault) : Bool × Fault :=
  match f.after, f.times with
  | n + 1, _ => (false, { f with after := n })
  | 0, none => (true, f)
  | 0, some (n + 1) => (true, { f with times := some n })
  | 0, some 0 => (false, f)

-- The first fault that covers a call decides it, spent or not.
def decideFault (c : Call) : List Fault → Bool × List Fault
  | [] => (false, [])
  | f :: rest =>
      if f.covers c then (f.meet.1, f.meet.2 :: rest)
      else ((decideFault c rest).1, f :: (decideFault c rest).2)

structure Write where
  method : Method
  key : String
  refused : Bool

-- A failing write changes nothing, and is kept among the writes as one that was refused.
structure Faulty where
  params : Params := {}
  faults : List Fault := []
  writes : List Write := []

def Faulty.answer : (c : Call) → Faulty → c.Answer × Faulty
  | .get key, m =>
      let (fails, faults) := decideFault (.get key) m.faults
      (if fails then .error (.unreadable key "memory") else .ok (m.params.read key),
        { m with faults })
  | .put key value, m =>
      let (fails, faults) := decideFault (.put key value) m.faults
      let writes := m.writes ++ [⟨.put, key, fails⟩]
      if fails then (.error (.unwritable key "memory" "put refused"), { m with faults, writes })
      else (.ok (), { params := m.params.insert key value, faults, writes })
  | .remove key, m =>
      let (fails, faults) := decideFault (.remove key) m.faults
      let writes := m.writes ++ [⟨.remove, key, fails⟩]
      if fails then (.error (.unwritable key "memory" "remove refused"), { m with faults, writes })
      else (.ok (), { params := m.params.erase key, faults, writes })

end LinkedKeys.Store

import LinkedKeys.Files.Tree
import LinkedKeys.Program.Next

namespace LinkedKeys.Program

structure World where
  tree : Files.Tree := {}
  here : List String := []
  input : List (List UInt8) := []
  output : String := ""
  errors : String := ""
  requests : List Web.Request := []

-- Each line keeps its line feed; what follows the last one is a line when it is not empty.
def inputLines : List UInt8 → List (List UInt8)
  | [] => []
  | b :: rest =>
      if b = 10 then [b] :: inputLines rest
      else
        match inputLines rest with
        | [] => [[b]]
        | line :: more => (b :: line) :: more

abbrev Web := Web.Url → Web.Reply

namespace World

def answer (web : Web) : (c : Call) → World → c.Answer × World
  | .files call, w =>
      let (reply, tree) := Files.Tree.answer w.here call w.tree
      (reply, { w with tree })
  | .print text, w => ((), { w with output := w.output ++ text })
  | .complain text, w => ((), { w with errors := w.errors ++ text })
  | .readLine, w => (w.input.head?, { w with input := w.input.drop 1 })
  | .client _, w => (.ok (), w)
  | .request url _, w =>
      let reply := web url
      (reply,
        if reply.isSeen then { w with requests := w.requests ++ [Web.Request.toGet url] } else w)

theorem answer_input (web : Web) (c : Call) (w : World) :
    (answer web c w).2.input.length ≤ w.input.length := by
  cases c with
  | request url _ => simp only [answer]; split <;> exact Nat.le_refl _
  | readLine => simp [answer]
  | files | print | complain | client => exact Nat.le_refl _

theorem run_input (web : Web) {α : Type} (script : Script α) (w : World) :
    (script.run (answer web) w).2.input.length ≤ w.input.length :=
  Script.run_related (fun v w => w.input.length ≤ v.input.length) (fun _ => Nat.le_refl _)
    (fun first second => Nat.le_trans second first) (answer web) (answer_input web) script w

theorem next_input (web : Web) (p later : Panel) (w : World)
    (goesOn : (p.next.run (answer web) w).1 = .turn later) :
    (p.next.run (answer web) w).2.input.length < w.input.length := by
  obtain ⟨tree, here, input, output, errors, requests⟩ := w
  cases input with
  | nil => cases goesOn
  | cons line rest =>
      exact Nat.lt_succ_of_le (run_input web
        ((settled (decodeLine line) >>= p.obey).run.bind (Next.ofResult p.terminal.style))
        ⟨tree, here, rest, output ++ p.invitation, errors, requests⟩)

-- Turns until one of them is the end.
def follow (web : Web) : Next × World → Nat × World
  | (.exit code, w) => (code, w)
  | (.turn p, w) =>
      match _turned : p.next.run (answer web) w with
      | (.exit code, w) => (code, w)
      | (.turn later, after) => follow web (.turn later, after)
termination_by start => start.2.input.length
decreasing_by
  have shorter := next_input web p later w (by rw [_turned])
  rwa [_turned] at shorter

-- The exit code of an invocation and the world after it. Nothing in memory is a terminal.
def run (web : Web) (env : Environment) (args : List String) (w : World) : Nat × World :=
  follow web ((opening env false args).run (answer web) w)

end World

end LinkedKeys.Program

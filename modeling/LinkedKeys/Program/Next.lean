import LinkedKeys.Program.Commands

namespace LinkedKeys.Program

open Report (Style)

-- The end, with its exit code, or a panel that waits for its turn.
inductive Next where
  | exit (code : Nat)
  | turn (panel : Panel)

-- A variable can force color. Otherwise it takes a terminal, and no variable that speaks against
-- it.
def isColored (env : Environment) (onTerminal : Bool) : Bool :=
  if ((env.value? "CLICOLOR_FORCE").getD "0") ≠ "0" then true
  else if (env.value? "NO_COLOR").isSome then false
  else onTerminal ∧ (env.value? "CLICOLOR").getD "1" ≠ "0"

def Next.ofResult (style : Style) : Except Failure (Option Panel) → Script Next
  | .ok none => return .exit 0
  | .ok (some panel) => return .turn panel
  | .error failure => do
      complaining (style.error ("Error: " ++ failure.message))
      return .exit 1

def Next.ofRefusal : Arguments.Refusal → Script Next
  | .usage => do
      complaining usageText
      return .exit 2
  | .help => do
      printing usageText
      return .exit 0
  | .version => do
      printing versionText
      return .exit 0

def opening (env : Environment) (onTerminal : Bool) (args : List String) : Script Next :=
  match Arguments.read env args with
  | .error refusal => Next.ofRefusal refusal
  | .ok invocation => do
      let style : Style :=
        { colored := isColored env onTerminal, quiet := invocation.options.quiet }
      Next.ofResult style (← (start env style invocation).run)

def Panel.next (p : Panel) : Script Next := do
  Next.ofResult p.terminal.style (← p.turn)

end LinkedKeys.Program

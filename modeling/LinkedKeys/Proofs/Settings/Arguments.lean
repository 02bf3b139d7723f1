import LinkedKeys.Settings.Arguments
import Mathlib.Data.List.Basic

namespace LinkedKeys.Arguments

-- A variable stands in where no option is given.
def withVariables (env : Environment) (flags : Options) : Options :=
  { flags with
    paramsDir := flags.paramsDir <|> env.value? "KEYLINK_PARAMS_DIR"
    host := flags.host <|> env.value? "KEYLINK_HOST" }

theorem combine_variables (env : Environment) (front behind : Options) :
    combine env front behind = withVariables env (combine {} front behind) := by
  have open_end : ∀ (first second last : Option String),
      (first <|> second <|> last) = ((first <|> second <|> none) <|> last) := by
    intro first second last
    cases first <;> cases second <;> rfl
  simp only [combine, withVariables]
  rw [open_end behind.paramsDir, open_end behind.host]
  rfl

theorem bind_ok {ε α β : Type} {first : Except ε α} {next : α → Except ε β} {result : β} :
    (first >>= next) = .ok result ↔ ∃ middle, first = .ok middle ∧ next middle = .ok result := by
  cases first <;> simp [Bind.bind, Except.bind]

theorem finishLevel_bare {env : Environment} {g ended : Given} (finishes : finishLevel env g = .ok ended) :
    finishLevel {} g = .ok ended := by
  obtain ⟨settled, settles, kept⟩ := bind_ok.mp finishes
  refine bind_ok.mpr ⟨settled, settles, ?_⟩
  have unset : ¬(settled.options.paramsDir = none ∧
      ({} : Environment).value? "KEYLINK_PARAMS_DIR" = some "") := by
    rintro ⟨-, set⟩
    cases set
  rw [if_neg unset]
  split at kept
  · cases kept
  · exact kept

-- The arguments that are read with the variables are read without them as well.
theorem read_flags {env : Environment} {args : List String} {invocation : Invocation}
    (reads : read env args = .ok invocation) : ∃ flags,
      read {} args = .ok ⟨flags, invocation.command⟩ ∧ invocation.options = withVariables env flags := by
  obtain ⟨⟨front, named⟩, scans, rest⟩ := bind_ok.mp reads
  cases named with
  | none => cases rest
  | some name =>
      obtain ⟨name, args⟩ := name
      obtain ⟨⟨behind, left⟩, scansBehind, rest⟩ := bind_ok.mp rest
      obtain ⟨behind', ends, rest⟩ := bind_ok.mp rest
      obtain ⟨front', endsFront, made⟩ := bind_ok.mp rest
      cases made
      refine ⟨combine {} front'.options behind'.options, ?_, combine_variables env _ _⟩
      refine bind_ok.mpr ⟨(front, some (name, args)), scans, ?_⟩
      refine bind_ok.mpr ⟨(behind, left), scansBehind, ?_⟩
      refine bind_ok.mpr ⟨behind', finishLevel_bare ends, ?_⟩
      exact bind_ok.mpr ⟨front', finishLevel_bare endsFront, rfl⟩

variable {env : Environment} {args rest : List String} {g ended : Given}

theorem scan_named (g : Given) {text : String} (other : text ≠ "--") (rest : List String) :
    scan (some .link) false g (text :: rest) =
      (do scan (some .link) false (← plain (some .link) g text) rest) := by
  rw [scan.eq_def]
  simp only [Bool.false_eq_true, if_false, reduceCtorEq, false_and, if_neg other]

theorem scan_top (g : Given) {text : String} (other : text ≠ "--") (rest : List String) :
    scan none false g (text :: rest) =
      if g.waiting = none ∧ text = "help" then .error (helpFor rest)
      else match g.waiting, Name.ofText text with
        | none, some name => .ok (g, some (name, rest))
        | _, _ => (do scan none false (← plain none g text) rest) := by
  rw [scan.eq_def]
  simp only [Bool.false_eq_true, if_false, true_and, if_neg other]
  cases g.waiting <;> cases Name.ofText text <;> rfl

theorem scan_behind {left : Option (Name × List String)}
    (scans : scan (some .link) false g rest = .ok (ended, left)) (plainly : "--" ∉ rest)
    (more : List String) :
    scan (some .link) false g (rest ++ more) = scan (some .link) false ended more := by
  induction rest generalizing g with
  | nil =>
      cases scans
      rfl
  | cons text rest ih =>
      obtain ⟨other, later⟩ := not_or.mp (mt List.mem_cons.mpr plainly)
      rw [scan_named g (Ne.symm other)] at scans
      obtain ⟨next, takes, scans⟩ := bind_ok.mp scans
      rw [List.cons_append, scan_named g (Ne.symm other), takes]
      exact ih scans later

theorem scan_front {front : Given} {name : Name}
    (scans : scan none false g args = .ok (front, some (name, rest))) (plainly : "--" ∉ args)
    (more : List String) :
    scan none false g (args ++ more) = .ok (front, some (name, rest ++ more)) ∧ "--" ∉ rest := by
  induction args generalizing g with
  | nil => cases scans
  | cons text args ih =>
      obtain ⟨other, later⟩ := not_or.mp (mt List.mem_cons.mpr plainly)
      rw [scan_top g (Ne.symm other)] at scans
      rw [List.cons_append, scan_top g (Ne.symm other)]
      split at scans
      · cases scans
      · rename_i unhelped
        rw [if_neg unhelped]
        cases waiting : g.waiting with
        | some setting =>
            simp only [waiting] at scans ⊢
            obtain ⟨next, takes, scans⟩ := bind_ok.mp scans
            rw [takes]
            exact ih scans later
        | none =>
            cases named : Name.ofText text with
            | some name =>
                simp only [waiting, named] at scans ⊢
                cases scans
                exact ⟨rfl, later⟩
            | none =>
                simp only [waiting, named] at scans ⊢
                obtain ⟨next, takes, scans⟩ := bind_ok.mp scans
                rw [takes]
                exact ih scans later

-- Nothing waits any more, and nothing but the options has changed.
structure Settled (g ended : Given) : Prop where
  waiting : ended.waiting = none
  held : ended.held = none
  username : ended.username = g.username

theorem settle_settled (settles : settle g = .ok ended) : Settled g ended := by
  rw [settle] at settles
  split at settles
  · cases settles
  · rename_i waiting held
    obtain ⟨options, recorded, made⟩ := bind_ok.mp settles
    cases made
    exact ⟨waiting, rfl, rfl⟩
  · rename_i waiting held
    cases settles
    exact ⟨waiting, held, rfl⟩

theorem scan_dashes (settles : settle g = .ok ended) (unnamed : g.username = none) (text : String) :
    scan (some .link) false g ["--", text] = .ok ({ ended with username := some text }, none) := by
  have named : positional (some .link) g text = .ok { ended with username := some text } := by
    simp only [positional, unnamed, settles]
    rfl
  rw [scan.eq_def]
  simp only [Bool.false_eq_true, if_false, reduceCtorEq, false_and, if_true]
  rw [scan.eq_def]
  simp only [if_true, named]
  rfl

theorem finishLevel_settled (finishes : finishLevel env g = .ok ended) :
    settle g = .ok ended ∧ ∀ text, finishLevel env { ended with username := some text } =
      .ok { ended with username := some text } := by
  obtain ⟨middle, settles, kept⟩ := bind_ok.mp finishes
  have settled := settle_settled settles
  split at kept
  · cases kept
  · rename_i unset
    cases kept
    refine ⟨settles, fun text => ?_⟩
    have again : settle { ended with username := some text } = .ok { ended with username := some text } := by
      rw [settle, settled.waiting, settled.held]
    rw [finishLevel, again]
    exact if_neg unset

-- Any text can be given as a name, one that begins with a dash included.
theorem read_named {options : Options} (reads : read env args = .ok ⟨options, .link none⟩)
    (plainly : "--" ∉ args) (text : String) :
    read env (args ++ ["--", text]) = .ok ⟨options, .link (some text)⟩ := by
  obtain ⟨⟨front, named⟩, scans, reads⟩ := bind_ok.mp reads
  cases named with
  | none => cases reads
  | some name =>
      obtain ⟨name, rest⟩ := name
      obtain ⟨⟨behind, left⟩, scansBehind, reads⟩ := bind_ok.mp reads
      obtain ⟨behind', ends, reads⟩ := bind_ok.mp reads
      obtain ⟨front', endsFront, made⟩ := bind_ok.mp reads
      obtain ⟨settles, finishes⟩ := finishLevel_settled ends
      have parts := Invocation.mk.inj (Except.ok.inj made)
      cases name with
      | link =>
          have unnamed : behind.username = none :=
            (settle_settled settles).username.symm.trans (Command.link.inj parts.2)
          obtain ⟨scans, later⟩ := scan_front scans plainly ["--", text]
          refine bind_ok.mpr ⟨_, scans, ?_⟩
          refine bind_ok.mpr
            ⟨_, (scan_behind scansBehind later _).trans (scan_dashes settles unnamed text), ?_⟩
          refine bind_ok.mpr ⟨_, finishes text, ?_⟩
          refine bind_ok.mpr ⟨_, endsFront, ?_⟩
          rw [← parts.1]
          rfl
      | status | unlink | authorizedKeys | panel => cases parts.2

end LinkedKeys.Arguments

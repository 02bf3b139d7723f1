import LinkedKeys.Settings.Context

namespace LinkedKeys

inductive Command where
  | status (json : Bool)
  | link (username : Option String)
  | unlink
  | authorizedKeys
  | panel
  deriving DecidableEq

structure Invocation where
  options : Options
  command : Command
  deriving DecidableEq

namespace Arguments

inductive Refusal where
  | usage
  | help
  | version
  deriving DecidableEq

inductive Name where
  | status
  | link
  | unlink
  | authorizedKeys
  | panel
  deriving DecidableEq

def Name.ofText (text : String) : Option Name :=
  if text = "status" then some .status
  else if text = "link" then some .link
  else if text = "unlink" then some .unlink
  else if text = "authorized-keys" then some .authorizedKeys
  else if text = "panel" then some .panel
  else none

-- Options that take a value.
inductive Setting where
  | paramsDir
  | host
  | timeout
  | config
  deriving DecidableEq

inductive Meaning where
  | setting (setting : Setting)
  | verbose
  | quiet
  | json
  | help
  | version
  deriving DecidableEq

-- Arguments are read at the top and then, behind its name, for one command.
abbrev Level := Option Name

def meaningOfWord (level : Level) (word : String) : Option Meaning :=
  if word = "params-dir" then some (.setting .paramsDir)
  else if word = "host" then some (.setting .host)
  else if word = "timeout" then some (.setting .timeout)
  else if word = "config" then some (.setting .config)
  else if word = "verbose" then some .verbose
  else if word = "quiet" then some .quiet
  else if word = "help" then some .help
  else if word = "json" ∧ level = some .status then some .json
  else if word = "version" ∧ level = none then some .version
  else none

def meaningOfLetter (level : Level) (letter : Char) : Option Meaning :=
  if letter = 'v' then some .verbose
  else if letter = 'q' then some .quiet
  else if letter = 'h' then some .help
  else if letter = 'V' ∧ level = none then some .version
  else none

def unsigned : List Char → List Char
  | '+' :: cs => cs
  | cs => cs

-- Whole numbers of 64 bits in decimal; one plus sign may lead.
def seconds (text : String) : Option Nat :=
  let digits := unsigned text.toList
  let size := digits.foldl (fun n c => n * 10 + (c.toNat - 48)) 0
  if digits ≠ [] ∧ digits.all Char.isDigit ∧ size < UInt64.size then some size else none

-- What one level has been given. A value is only taken in when the next argument is read: until
-- then an option is waiting for its value, or the value is held.
structure Given where
  options : Options := {}
  json : Bool := false
  username : Option String := none
  waiting : Option Setting := none
  held : Option (Setting × String) := none

-- Nothing may be given twice at one level, and a path may not be empty.
def record (options : Options) (setting : Setting) (text : String) : Except Refusal Options :=
  match setting with
  | .paramsDir =>
      if options.paramsDir.isSome ∨ text = "" then .error .usage
      else .ok { options with paramsDir := some text }
  | .host =>
      if options.host.isSome then .error .usage else .ok { options with host := some text }
  | .timeout =>
      match options.timeout, seconds text with
      | none, some n => .ok { options with timeout := some n }
      | _, _ => .error .usage
  | .config =>
      if options.config.isSome ∨ text = "" then .error .usage
      else .ok { options with config := some text }

def settle (g : Given) : Except Refusal Given :=
  match g.waiting, g.held with
  | some _, _ => .error .usage
  | none, some (setting, text) => do
      return { g with options := ← record g.options setting text, held := none }
  | none, none => .ok g

def raise (g : Given) : Meaning → Except Refusal Given
  | .verbose =>
      if g.options.verbose then .error .usage
      else .ok { g with options := { g.options with verbose := true } }
  | .quiet =>
      if g.options.quiet then .error .usage
      else .ok { g with options := { g.options with quiet := true } }
  | .json => if g.json then .error .usage else .ok { g with json := true }
  | .help => .error .help
  | .version => .error .version
  | .setting _ => .error .usage

-- The part before the first equals sign, and the part behind it if there is one.
def parted (cs : List Char) : String × Option String :=
  let word := cs.takeWhile (· ≠ '=')
  let value := cs.drop (word.length + 1)
  (String.ofList word, if word.length < cs.length then some (String.ofList value) else none)

def long (level : Level) (g : Given) (cs : List Char) : Except Refusal Given :=
  let (word, value) := parted cs
  match meaningOfWord level word, value with
  | none, _ => .error .usage
  | some (.setting setting), none => do return { (← settle g) with waiting := some setting }
  | some (.setting setting), some text => do
      let g ← settle g
      return { g with options := ← record g.options setting text }
  | some meaning, none => do raise (← settle g) meaning
  | some _, some _ => .error .usage

def letters (level : Level) (g : Given) : List Char → Except Refusal Given
  | [] => .ok g
  | c :: cs =>
      match meaningOfLetter level c with
      | none => .error .usage
      | some meaning => do letters level (← raise (← settle g) meaning) cs

def positional (level : Level) (g : Given) (text : String) : Except Refusal Given :=
  match level, g.username with
  | some .link, none => do return { (← settle g) with username := some text }
  | _, _ => .error .usage

-- One argument in front of any "--".
def plain (level : Level) (g : Given) (text : String) : Except Refusal Given :=
  match text.toList with
  | '-' :: '-' :: cs => long level g cs
  | '-' :: c :: cs => letters level g (c :: cs)
  | _ =>
      match g.waiting with
      | some setting => .ok { g with waiting := none, held := some (setting, text) }
      | none => positional level g text

-- Help can be asked for a command by name, itself included, and for nothing further.
def helpFor : List String → Refusal
  | [] => .help
  | [name] => if name = "help" ∨ (Name.ofText name).isSome then .help else .usage
  | _ => .usage

-- Reads up to the end or, at the top, to the name of a command.
def scan (level : Level) (trailing : Bool) (g : Given) :
    List String → Except Refusal (Given × Option (Name × List String))
  | [] => .ok (g, none)
  | text :: rest =>
      if trailing then do scan level true (← positional level g text) rest
      else if level = none ∧ g.waiting = none ∧ text = "help" then .error (helpFor rest)
      else
        match level, g.waiting, Name.ofText text with
        | none, none, some name => .ok (g, some (name, rest))
        | _, _, _ =>
            if text = "--" then scan level true g rest
            else do scan level false (← plain level g text) rest

-- A variable stands in for an option that its level was not given, and is checked like it.
def finishLevel (env : Environment) (g : Given) : Except Refusal Given := do
  let g ← settle g
  if g.options.paramsDir = none ∧ env.value? "KEYLINK_PARAMS_DIR" = some "" then .error .usage
  else return g

def commandOf (g : Given) : Name → Command
  | .status => .status g.json
  | .link => .link g.username
  | .unlink => .unlink
  | .authorizedKeys => .authorizedKeys
  | .panel => .panel

-- An option behind the command's name comes before the same option in front of it.
def combine (env : Environment) (front behind : Options) : Options :=
  { paramsDir := behind.paramsDir <|> front.paramsDir <|> env.value? "KEYLINK_PARAMS_DIR"
    host := behind.host <|> front.host <|> env.value? "KEYLINK_HOST"
    timeout := behind.timeout <|> front.timeout
    config := behind.config <|> front.config
    verbose := behind.verbose || front.verbose
    quiet := behind.quiet || front.quiet }

-- Arguments are read in order, so the first that decides the outcome wins.
def read (env : Environment) (args : List String) : Except Refusal Invocation := do
  match ← scan none false {} args with
  | (_, none) => .error .usage
  | (front, some (name, rest)) =>
      let (behind, _) ← scan (some name) false {} rest
      let behind ← finishLevel env behind
      let front ← finishLevel env front
      return ⟨combine env front.options behind.options, commandOf behind name⟩

end Arguments

end LinkedKeys

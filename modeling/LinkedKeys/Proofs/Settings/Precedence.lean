import LinkedKeys.Files.Tree
import LinkedKeys.Proofs.Runs
import LinkedKeys.Proofs.Settings.Arguments
import LinkedKeys.Proofs.Settings.Documents
import LinkedKeys.Proofs.Web.KeptHost

namespace LinkedKeys.Context

open Arguments (withVariables)
open Config (ofSources hostIn timeoutIn dirIn Fault)
open Toml (Rows)

variable {σ : Type} {answer : (c : Files.Call) → σ → c.Answer × σ} {s : σ} {env : Environment}
  {flags : Options} {rows : Rows}

def IsUrl (host : String) : Prop :=
  ∃ rest, host = "http://" ++ rest ∨ host = "https://" ++ rest

theorem checkHost_iff (host : String) : Config.checkHost host = .ok () ↔ IsUrl host := by
  rw [Web.accepted_iff]
  constructor
  · rintro ⟨scheme, rest, rfl | rfl, rfl⟩
    · exact ⟨rest, .inl rfl⟩
    · exact ⟨rest, .inr rfl⟩
  · rintro ⟨rest, plain | secure⟩
    · exact ⟨"http", rest, .inl rfl, plain⟩
    · exact ⟨"https", rest, .inr rfl, secure⟩

theorem checkHost_bad {host : String} (bad : ¬IsUrl host) :
    Config.checkHost host = .error (.badHost host) := by
  rw [← checkHost_iff, Config.checkHost] at bad
  rw [Config.checkHost]
  split at bad
  · exact absurd rfl bad
  · rw [if_neg ‹_›]

-- What the answer of the file system comes to as a document, or why there is none.
inductive Reads (path : String) : Except Files.Cause (List UInt8) → Except Failure Rows → Prop where
  | refused (cause : Files.Cause) : Reads path (.error cause) (.error (.system cause.message))
  | undecoded {content : List UInt8} (bad : Text.ofBytes? content = none) :
      Reads path (.ok content) (.error (.system badText))
  | unparsable {content : List UInt8} {text : String} (decoded : Text.ofBytes? content = some text)
      (bad : (Toml.parse text).bind Config.ofRows = none) :
      Reads path (.ok content) (.error (Fault.inFile path .unparsable).failure)
  | badHost {content : List UInt8} {text : String} {rows : Rows}
      (decoded : Text.ofBytes? content = some text) (parsed : Toml.parse text = some rows)
      (known : Config.ofRows rows ≠ none) (bad : ¬IsUrl (ofSources rows).host) :
      Reads path (.ok content) (.error (Fault.inFile path (.badHost (ofSources rows).host)).failure)
  | settings {content : List UInt8} {text : String} {rows : Rows}
      (decoded : Text.ofBytes? content = some text) (parsed : Toml.parse text = some rows)
      (known : Config.ofRows rows ≠ none) (url : IsUrl (ofSources rows).host) :
      Reads path (.ok content) (.ok rows)

-- A file that is chosen has to be there. The usual one that is not there counts as an empty document.
inductive Loads (answer : (c : Files.Call) → σ → c.Answer × σ) (s : σ) :
    Option String → Option String → Except Failure Rows → Prop where
  | nowhere : Loads answer s none none (.ok [])
  | unused {path : String} (absent : (answer (.isPresent path) s).1 = false) :
      Loads answer s none (some path) (.ok [])
  | missing {path : String} {usual : Option String} (absent : (answer (.isPresent path) s).1 = false) :
      Loads answer s (some path) usual (.error (Fault.absent path).failure)
  | used {chosen usual : Option String} {path : String} {loaded : Except Failure Rows}
      (uses : (chosen <|> usual) = some path) (there : (answer (.isPresent path) s).1 = true)
      (reads : Reads path (answer (.read path) (answer (.isPresent path) s).2).1 loaded) :
      Loads answer s chosen usual loaded

-- Of a document that holds nothing but settings only the host is left to look at.
theorem reads_known {path : String} {content : List UInt8} {text : String} {rows : Rows}
    {loaded : Except Failure Rows} (reads : Reads path (.ok content) loaded)
    (decoded : Text.ofBytes? content = some text) (parsed : Toml.parse text = some rows)
    (known : Config.ofRows rows ≠ none) : (IsUrl (ofSources rows).host → loaded = .ok rows) ∧
      (¬IsUrl (ofSources rows).host →
        loaded = .error (Fault.inFile path (.badHost (ofSources rows).host)).failure) := by
  cases reads with
  | undecoded none => cases none.symm.trans decoded
  | unparsable again none =>
      cases again.symm.trans decoded
      rw [parsed] at none
      exact absurd none known
  | badHost again reparsed _ bad =>
      cases again.symm.trans decoded
      cases reparsed.symm.trans parsed
      exact ⟨fun url => absurd url bad, fun _ => rfl⟩
  | settings again reparsed _ url =>
      cases again.symm.trans decoded
      cases reparsed.symm.trans parsed
      exact ⟨fun _ => rfl, fun bad => absurd url bad⟩

theorem reads_unique {path : String} {reply : Except Files.Cause (List UInt8)}
    {one two : Except Failure Rows} (first : Reads path reply one) (second : Reads path reply two) :
    two = one := by
  cases first with
  | refused cause =>
      cases second
      rfl
  | undecoded bad =>
      cases second with
      | undecoded => rfl
      | unparsable decoded | badHost decoded | settings decoded => cases bad.symm.trans decoded
  | unparsable decoded bad =>
      cases second with
      | undecoded none => cases none.symm.trans decoded
      | unparsable => rfl
      | badHost again parsed known | settings again parsed known =>
          cases again.symm.trans decoded
          rw [parsed] at bad
          exact absurd bad known
  | badHost decoded parsed known bad => exact (reads_known second decoded parsed known).2 bad
  | settings decoded parsed known url => exact (reads_known second decoded parsed known).1 url

theorem loads_unique {chosen usual : Option String} {one two : Except Failure Rows}
    (first : Loads answer s chosen usual one) (second : Loads answer s chosen usual two) :
    two = one := by
  cases first with
  | nowhere =>
      cases second with
      | nowhere => rfl
      | used uses => cases uses
  | unused absent =>
      cases second with
      | unused => rfl
      | used uses there =>
          cases uses
          cases absent.symm.trans there
  | missing absent =>
      cases second with
      | missing => rfl
      | used uses there =>
          cases uses
          cases absent.symm.trans there
  | used uses there reads =>
      cases second with
      | nowhere => cases uses
      | unused absent | missing absent =>
          cases uses
          cases absent.symm.trans there
      | used again _ rereads =>
          cases again.symm.trans uses
          exact reads_unique reads rereads

theorem parse_unparsable {text : String} (bad : (Toml.parse text).bind Config.ofRows = none) :
    Config.parse text = .error .unparsable := by
  rw [Config.parse, bad]

theorem parse_some {text : String} {config : Config} (parsed : Toml.parse text = some rows)
    (known : Config.ofRows rows = some config) :
    Config.parse text = (do Config.checkHost (ofSources rows).host; return ofSources rows) := by
  rw [Config.parse, parsed, Option.bind_some, known, Config.ofRows_sources known]

theorem parse_reads (path : String) {content : List UInt8} {text : String}
    (decoded : Text.ofBytes? content = some text) : ∃ loaded, Reads path (.ok content) loaded ∧
      Config.inFile path (Config.parse text) = loaded.map ofSources := by
  cases known : (Toml.parse text).bind Config.ofRows with
  | none =>
      refine ⟨_, .unparsable decoded known, ?_⟩
      rw [parse_unparsable known]
      rfl
  | some config =>
      obtain ⟨rows, parsed, made⟩ := Option.bind_eq_some_iff.mp known
      have fine : Config.ofRows rows ≠ none := by
        rw [made]
        exact Option.some_ne_none config
      rw [parse_some parsed made]
      by_cases url : IsUrl (ofSources rows).host
      · refine ⟨_, .settings decoded parsed fine url, ?_⟩
        rw [(checkHost_iff _).mpr url]
        rfl
      · refine ⟨_, .badHost decoded parsed fine url, ?_⟩
        rw [checkHost_bad url]
        rfl

theorem readFile_reads (answer : (c : Files.Call) → σ → c.Answer × σ) (path : String) (s : σ) :
    ∃ loaded, Reads path (answer (.read path) s).1 loaded ∧
      ((Config.readFile path).run answer s).1 = loaded.map ofSources := by
  rw [Config.readFile, Script.run]
  generalize (answer (.read path) s).1 = reply
  cases reply with
  | error cause => exact ⟨_, .refused cause, rfl⟩
  | ok content =>
      cases decoded : Text.ofBytes? content with
      | none =>
          refine ⟨_, .undecoded decoded, ?_⟩
          simp only [decoded]
          rfl
      | some text =>
          simp only [decoded]
          exact parse_reads path decoded

theorem load_loads (answer : (c : Files.Call) → σ → c.Answer × σ) (s : σ)
    (chosen usual : Option String) : ∃ loaded, Loads answer s chosen usual loaded ∧
      ((Config.load chosen usual).run answer s).1 = loaded.map ofSources := by
  cases chosen with
  | some path =>
      rw [Config.load, Script.run]
      cases there : (answer (.isPresent path) s).1 with
      | false => exact ⟨_, .missing there, rfl⟩
      | true =>
          obtain ⟨loaded, reads, same⟩ := readFile_reads answer path (answer (.isPresent path) s).2
          exact ⟨loaded, .used rfl there reads, same⟩
  | none =>
      cases usual with
      | none => exact ⟨_, .nowhere, rfl⟩
      | some path =>
          rw [Config.load, Script.run]
          cases there : (answer (.isPresent path) s).1 with
          | false => exact ⟨_, .unused there, rfl⟩
          | true =>
              obtain ⟨loaded, reads, same⟩ := readFile_reads answer path (answer (.isPresent path) s).2
              exact ⟨loaded, .used rfl there reads, same⟩

def under (dir path : String) : String :=
  if Files.Path.endsInSeparator dir then dir ++ path else dir ++ "/" ++ path

-- Where the parameters and the configuration file are kept when nothing says otherwise.
def usualDir (env : Environment) : Option String :=
  (env.directory "XDG_DATA_HOME" ".local/share").map fun data => under data "keylink/params"

def usualFile (env : Environment) : Option String :=
  (env.directory "XDG_CONFIG_HOME" ".config").map fun settings => under settings "keylink/config.toml"

theorem directory_full {name fallback dir : String} (full : fallback ≠ "")
    (found : env.directory name fallback = some dir) : dir ≠ "" := by
  have joined : ∀ home, Files.Path.join home fallback ≠ "" := by
    intro home
    unfold Files.Path.join
    split
    · exact full
    split
    · exact fun none => full (String.append_eq_empty_iff.mp none).2
    · exact fun none => full (String.append_eq_empty_iff.mp none).2
  have below : ∀ home?, Option.map (fun home => Files.Path.join home fallback) home? = some dir →
      dir ≠ "" := by
    intro home? same
    obtain ⟨home, -, rfl⟩ := Option.map_eq_some_iff.mp same
    exact joined home
  unfold Environment.directory at found
  split at found
  · split at found
    · rename_i absolute
      cases found
      rintro rfl
      cases absolute
    · exact below _ found
  · exact below _ found

-- The parts joined one by one, against the whole path.
theorem join_under {dir : String} (full : dir ≠ "") {last : String}
    (relative : Files.Path.isAbsolute last = false) :
    Files.Path.join (Files.Path.join dir "keylink") last = under dir ("keylink/" ++ last) := by
  have ends : ∀ front : String, Files.Path.endsInSeparator (front ++ "keylink") = false := by
    intro front
    simp [Files.Path.endsInSeparator]
  have first : Files.Path.isAbsolute "keylink" = false := by decide
  have inner : Files.Path.join dir "keylink" =
      (if Files.Path.endsInSeparator dir then dir else dir ++ "/") ++ "keylink" := by
    unfold Files.Path.join
    rw [if_neg (by simp [first, full])]
    split <;> rfl
  have outer : under dir ("keylink/" ++ last) =
      (if Files.Path.endsInSeparator dir then dir else dir ++ "/") ++ ("keylink/" ++ last) := by
    unfold under
    split <;> rfl
  have spelt : "keylink/" = "keylink" ++ "/" := by decide
  rw [inner, outer, spelt, Files.Path.join, if_neg (by simp [relative]), if_neg (by simp [ends])]
  simp only [String.append_assoc]

theorem paramsDir_usual (env : Environment) : env.paramsDir = usualDir env := by
  unfold Environment.paramsDir usualDir
  cases found : env.directory "XDG_DATA_HOME" ".local/share" with
  | none => rfl
  | some data => exact congrArg some (join_under (directory_full (by decide) found) (by decide))

theorem configFile_usual (env : Environment) : env.configFile = usualFile env := by
  unfold Environment.configFile usualFile
  cases found : env.directory "XDG_CONFIG_HOME" ".config" with
  | none => rfl
  | some settings => exact congrArg some (join_under (directory_full (by decide) found) (by decide))

example : usualDir ⟨[("HOME", "/home/alice")], none⟩ =
    some "/home/alice/.local/share/keylink/params" := by decide

def dirFrom (flags : Options) (env : Environment) (rows : Rows) : Option String :=
  flags.paramsDir <|> env.value? "KEYLINK_PARAMS_DIR" <|> dirIn rows <|> usualDir env

def hostFrom (flags : Options) (env : Environment) (rows : Rows) : String :=
  (flags.host <|> env.value? "KEYLINK_HOST" <|> hostIn rows).getD "https://github.com"

def timeoutFrom (flags : Options) (rows : Rows) : Nat :=
  (flags.timeout <|> timeoutIn rows).getD 20

theorem host_picked (flags : Options) (env : Environment) (rows : Rows) :
    (withVariables env flags).host.getD (ofSources rows).host = hostFrom flags env rows := by
  rw [hostFrom, withVariables, ofSources]
  cases flags.host with
  | some host => rfl
  | none => cases env.value? "KEYLINK_HOST" <;> rfl

theorem timeout_picked (flags : Options) (env : Environment) (rows : Rows) :
    (withVariables env flags).timeout.getD (ofSources rows).timeout = timeoutFrom flags rows := by
  rw [timeoutFrom, withVariables, ofSources]
  cases flags.timeout <;> rfl

-- The checks that are left when there is a directory.
def checked (dir host : String) (timeout : Nat) : Except Fault Context := do
  Config.checkHost host
  if timeout = 0 then .error .zeroTimeout else .ok ⟨dir, host, timeout⟩

theorem checked_badHost {dir host : String} (bad : ¬IsUrl host) (timeout : Nat) :
    checked dir host timeout = .error (.badHost host) := by
  rw [checked, checkHost_bad bad]
  rfl

theorem checked_url {dir host : String} (url : IsUrl host) (timeout : Nat) :
    checked dir host timeout =
      if timeout = 0 then .error .zeroTimeout else .ok ⟨dir, host, timeout⟩ := by
  rw [checked, (checkHost_iff host).mpr url]
  rfl

theorem checked_ok {dir host : String} {timeout : Nat} {context : Context} :
    checked dir host timeout = .ok context ↔
      IsUrl host ∧ 1 ≤ timeout ∧ context = ⟨dir, host, timeout⟩ := by
  constructor
  · intro accepted
    by_cases url : IsUrl host
    · rw [checked_url url] at accepted
      split at accepted
      · cases accepted
      · rename_i some
        exact ⟨url, Nat.pos_of_ne_zero some, (Except.ok.inj accepted).symm⟩
    · rw [checked_badHost url] at accepted
      cases accepted
  · rintro ⟨url, some, rfl⟩
    rw [checked_url url, if_neg (Nat.pos_iff_ne_zero.mp some)]

theorem merge_sources (flags : Options) (env : Environment) (rows : Rows) :
    merge (withVariables env flags) env (ofSources rows) =
      (dirFrom flags env rows).elim (.error .noDataDirectory) fun dir =>
        checked dir (hostFrom flags env rows) (timeoutFrom flags rows) := by
  rw [merge]
  dsimp only
  rw [host_picked, timeout_picked, dirFrom, withVariables, ofSources, Config.dataDir, paramsDir_usual]
  cases flags.paramsDir with
  | some dir => rfl
  | none =>
      cases env.value? "KEYLINK_PARAMS_DIR" with
      | some dir => rfl
      | none =>
          cases dirIn rows with
          | some dir => rfl
          | none => cases usualDir env <;> rfl

-- What the options and the variables make of what was loaded.
structure Resolved (flags : Options) (env : Environment) (loaded : Except Failure Rows)
    (outcome : Except Failure Context) : Prop where
  succeeds : (∃ context, outcome = .ok context) ↔ ∃ rows, loaded = .ok rows ∧
    dirFrom flags env rows ≠ none ∧ IsUrl (hostFrom flags env rows) ∧ 1 ≤ timeoutFrom flags rows
  chosen : ∀ context, outcome = .ok context → ∃ rows, loaded = .ok rows ∧
    dirFrom flags env rows = some context.paramsDir ∧ context.host = hostFrom flags env rows ∧
      context.timeout = timeoutFrom flags rows
  load : ∀ failure, loaded = .error failure → outcome = .error failure
  dir : ∀ rows, loaded = .ok rows → dirFrom flags env rows = none →
    outcome = .error Fault.noDataDirectory.failure
  host : ∀ rows, loaded = .ok rows → dirFrom flags env rows ≠ none →
    ¬IsUrl (hostFrom flags env rows) → outcome = .error (Fault.badHost (hostFrom flags env rows)).failure
  timeout : ∀ rows, loaded = .ok rows → dirFrom flags env rows ≠ none →
    IsUrl (hostFrom flags env rows) → timeoutFrom flags rows = 0 →
      outcome = .error Fault.zeroTimeout.failure

theorem failed_resolved (failure : Failure) : Resolved flags env (.error failure) (.error failure) where
  succeeds := ⟨nofun, nofun⟩
  chosen := nofun
  load := by
    rintro _ ⟨⟩
    rfl
  dir := nofun
  host := nofun
  timeout := nofun

theorem merged_ok {context : Context} :
    (merge (withVariables env flags) env (ofSources rows)).mapError Fault.failure = .ok context ↔
      ∃ dir, dirFrom flags env rows = some dir ∧ IsUrl (hostFrom flags env rows) ∧
        1 ≤ timeoutFrom flags rows ∧
          context = ⟨dir, hostFrom flags env rows, timeoutFrom flags rows⟩ := by
  have kept : ∀ result : Except Fault Context,
      result.mapError Fault.failure = .ok context ↔ result = .ok context := by
    intro result
    cases result <;> simp [Except.mapError]
  rw [kept, merge_sources]
  cases dirFrom flags env rows with
  | none => exact ⟨nofun, fun found => by obtain ⟨_, ⟨⟩, _⟩ := found⟩
  | some dir => simp [checked_ok]

theorem merged_resolved (flags : Options) (env : Environment) (rows : Rows) :
    Resolved flags env (.ok rows)
      ((merge (withVariables env flags) env (ofSources rows)).mapError Fault.failure) where
  succeeds := by
    constructor
    · rintro ⟨context, accepted⟩
      obtain ⟨dir, found, url, some, -⟩ := merged_ok.mp accepted
      exact ⟨rows, rfl, Option.ne_none_iff_exists'.mpr ⟨dir, found⟩, url, some⟩
    · rintro ⟨_, ⟨⟩, found, url, some⟩
      obtain ⟨dir, found⟩ := Option.ne_none_iff_exists'.mp found
      exact ⟨_, merged_ok.mpr ⟨dir, found, url, some, rfl⟩⟩
  chosen := by
    intro context accepted
    obtain ⟨dir, found, -, -, rfl⟩ := merged_ok.mp accepted
    exact ⟨rows, rfl, found, rfl, rfl⟩
  load := nofun
  dir := by
    rintro _ ⟨⟩ none
    rw [merge_sources, none]
    rfl
  host := by
    rintro _ ⟨⟩ found bad
    obtain ⟨dir, found⟩ := Option.ne_none_iff_exists'.mp found
    rw [merge_sources, found, Option.elim_some, checked_badHost bad]
    rfl
  timeout := by
    rintro _ ⟨⟩ found url zero
    obtain ⟨dir, found⟩ := Option.ne_none_iff_exists'.mp found
    rw [merge_sources, found, Option.elim_some, checked_url url, if_pos zero]
    rfl

-- Over every file system: either there is a document to go by or the reason why there is none, and
-- what the options of the arguments, the variables and that document come to.
theorem settings_resolved {args : List String} {invocation : Invocation}
    (answer : (c : Files.Call) → σ → c.Answer × σ) (s : σ)
    (read : Arguments.read env args = .ok invocation) : ∃ flags loaded,
      Arguments.read {} args = .ok ⟨flags, invocation.command⟩ ∧
      Loads answer s flags.config (usualFile env) loaded ∧
      (∀ other, Loads answer s flags.config (usualFile env) other → other = loaded) ∧
      Resolved flags env loaded ((resolve invocation.options env).run answer s).1 := by
  obtain ⟨flags, bare, options⟩ := Arguments.read_flags read
  obtain ⟨loaded, loads, same⟩ := load_loads answer s flags.config (usualFile env)
  refine ⟨flags, loaded, bare, loads, fun other again => loads_unique loads again, ?_⟩
  have config : (withVariables env flags).config = flags.config := rfl
  rw [options, resolve, config, configFile_usual, Script.run_do, same]
  cases loaded with
  | error failure => exact failed_resolved failure
  | ok rows => exact merged_resolved flags env rows

def zeroFile : String := "[github]\ntimeout_secs = 0\n"

def zeroTree : Files.Tree := .plant {} [] "k.toml" (.file (Text.toBytes zeroFile))

def inParams : Environment := ⟨[("KEYLINK_PARAMS_DIR", "params")], none⟩

theorem zeroFile_known :
    (Toml.parse zeroFile).bind Config.ofRows = some ⟨"https://github.com", 0, none⟩ := by decide +kernel

-- The document gives a time that no command could run with, and is loaded all the same.
theorem zeroTree_loads (usual : Option String) : ∃ rows,
    ofSources rows = ⟨"https://github.com", 0, none⟩ ∧ IsUrl (ofSources rows).host ∧
      Loads (Files.Tree.answer []) zeroTree (some "k.toml") usual (.ok rows) := by
  obtain ⟨rows, parsed, made⟩ := Option.bind_eq_some_iff.mp zeroFile_known
  have sources : ofSources rows = ⟨"https://github.com", 0, none⟩ := (Config.ofRows_sources made).symm
  have url : IsUrl (ofSources rows).host := by
    rw [sources]
    exact ⟨"github.com", .inr (by decide)⟩
  have decoded : Text.ofBytes? (Text.toBytes zeroFile) = some zeroFile := Text.ofBytes?_toBytes zeroFile
  have there : (Files.Tree.answer [] (.isPresent "k.toml") zeroTree).1 = true := by decide +kernel
  have content : (Files.Tree.answer [] (.read "k.toml")
      (Files.Tree.answer [] (.isPresent "k.toml") zeroTree).2).1 = .ok (Text.toBytes zeroFile) := by
    decide +kernel
  have reads : Reads "k.toml" (.ok (Text.toBytes zeroFile)) (.ok rows) :=
    .settings decoded parsed (made ▸ Option.some_ne_none _) url
  rw [← content] at reads
  exact ⟨rows, sources, url, .used rfl there reads⟩

-- A file with no time at all, an option that gives some, and a variable for the directory.
theorem zero_timeout_overridden :
    (Toml.parse zeroFile).bind Config.ofRows = some ⟨"https://github.com", 0, none⟩ ∧
    ∃ invocation,
      Arguments.read inParams ["--config", "k.toml", "--timeout", "5", "status"] = .ok invocation ∧
      ((resolve invocation.options inParams).run (Files.Tree.answer []) zeroTree).1 =
        .ok ⟨"params", "https://github.com", 5⟩ := by
  have read : Arguments.read inParams ["--config", "k.toml", "--timeout", "5", "status"] =
      .ok ⟨{ paramsDir := some "params", timeout := some 5, config := some "k.toml" }, .status false⟩ := by
    decide
  refine ⟨zeroFile_known, _, read, ?_⟩
  obtain ⟨flags, loaded, bare, -, unique, resolved⟩ :=
    settings_resolved (Files.Tree.answer []) zeroTree read
  have given : Arguments.read {} ["--config", "k.toml", "--timeout", "5", "status"] =
      .ok ⟨{ timeout := some 5, config := some "k.toml" }, .status false⟩ := by decide
  cases given.symm.trans bare
  obtain ⟨rows, sources, url, loads⟩ := zeroTree_loads (usualFile inParams)
  cases unique (.ok rows) loads
  have host : hostFrom { timeout := some 5, config := some "k.toml" } inParams rows =
      "https://github.com" := congrArg Config.host sources
  have timeout : timeoutFrom { timeout := some 5, config := some "k.toml" } rows = 5 := rfl
  have dir : dirFrom { timeout := some 5, config := some "k.toml" } inParams rows = some "params" := rfl
  have granted : 1 ≤ timeoutFrom { timeout := some 5, config := some "k.toml" } rows := by
    rw [timeout]
    decide
  obtain ⟨context, accepted⟩ := resolved.succeeds.mpr ⟨rows, rfl, nofun, url, granted⟩
  obtain ⟨_, ⟨⟩, placed, named, timed⟩ := resolved.chosen context accepted
  rw [accepted]
  rw [dir] at placed
  rw [host] at named
  rw [timeout] at timed
  obtain ⟨paramsDir, host, timeout⟩ := context
  cases placed
  cases named
  cases timed
  rfl

end LinkedKeys.Context

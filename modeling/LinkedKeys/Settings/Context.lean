import LinkedKeys.Files.Call
import LinkedKeys.Settings.Config
import LinkedKeys.Settings.Places
import LinkedKeys.Text.Utf8

namespace LinkedKeys

structure Options where
  paramsDir : Option String := none
  host : Option String := none
  timeout : Option Nat := none
  config : Option String := none
  verbose : Bool := false
  quiet : Bool := false
  deriving DecidableEq

structure Context where
  paramsDir : String
  host : String
  timeout : Nat
  deriving DecidableEq

def badText : String := "stream did not contain valid UTF-8"

namespace Config

def inFile (path : String) : Except Fault Config → Except Failure Config
  | .ok config => .ok config
  | .error fault => .error (Fault.inFile path fault).failure

def readFile (path : String) : Files.Script (Except Failure Config) :=
  .ask (.read path) fun
    | .error cause => return .error (.system cause.message)
    | .ok content =>
        match Text.ofBytes? content with
        | none => return .error (.system badText)
        | some text => return inFile path (parse text)

-- A file that was asked for has to be there; the usual one need not.
def load (chosen usual : Option String) : Files.Script (Except Failure Config) :=
  match chosen, usual with
  | some path, _ =>
      .ask (.isPresent path) fun there =>
        if there then readFile path else return .error (Fault.absent path).failure
  | none, some path =>
      .ask (.isPresent path) fun there => if there then readFile path else return .ok {}
  | none, none => return .ok {}

def dataDir (config : Config) (env : Environment) : Except Fault String :=
  match config.paramsDir with
  | some dir => .ok dir
  | none =>
      match env.paramsDir with
      | some dir => .ok dir
      | none => .error .noDataDirectory

end Config

namespace Context

def merge (options : Options) (env : Environment) (config : Config) :
    Except Config.Fault Context := do
  let paramsDir ← match options.paramsDir with
    | some dir => .ok dir
    | none => config.dataDir env
  let host := options.host.getD config.host
  Config.checkHost host
  let timeout := options.timeout.getD config.timeout
  if timeout = 0 then .error .zeroTimeout else .ok ⟨paramsDir, host, timeout⟩

def resolve (options : Options) (env : Environment) : Files.Script (Except Failure Context) := do
  match ← Config.load options.config env.configFile with
  | .error failure => return .error failure
  | .ok config => return (merge options env config).mapError Config.Fault.failure

end Context

end LinkedKeys

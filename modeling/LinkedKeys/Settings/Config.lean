import LinkedKeys.Failure
import LinkedKeys.Toml.Document

namespace LinkedKeys

structure Config where
  host : String := "https://github.com"
  timeout : Nat := 20
  paramsDir : Option String := none
  deriving DecidableEq

namespace Config

inductive Fault where
  | absent (path : String)
  | unparsable
  | badHost (host : String)
  | zeroTimeout
  | noDataDirectory
  | inFile (path : String) (fault : Fault)
  deriving DecidableEq

def Fault.message : Fault → String
  | .absent path => "config file not found: " ++ path
  | .unparsable => "failed to parse config"
  | .badHost host => "host must be an http(s) URL, got '" ++ host ++ "'"
  | .zeroTimeout => "timeout must be at least 1 second"
  | .noDataDirectory => "could not determine a data directory; pass --params-dir"
  | .inFile path fault => path ++ ": " ++ fault.message

def Fault.failure (fault : Fault) : Failure := .badConfig fault.message

def startsWith (start text : List Char) : Bool :=
  text.take start.length = start

-- Only the beginning of a host is looked at.
def isHost (host : String) : Bool :=
  startsWith "https://".toList host.toList || startsWith "http://".toList host.toList

def checkHost (host : String) : Except Fault Unit :=
  if isHost host then .ok () else .error (.badHost host)

def textOf : Toml.Value → Option String
  | .text text => some text
  | _ => none

def secondsOf : Toml.Value → Option Nat
  | .integer n => if 0 ≤ n then some n.toNat else none
  | _ => none

-- A setting that is not given keeps what it was.
def given {α : Type} (read : Toml.Value → Option α) (value : Option Toml.Value) (default : α) :
    Option α :=
  match value with
  | none => some default
  | some value => read value

def onlyKeys (known : List String) (rows : Toml.Rows) : Bool :=
  rows.all fun row => known.contains row.1

-- The values of a section in the order of its keys. A list gives them by position, and what it
-- holds beyond the last key is ignored.
def section? (keys : List String) : Toml.Value → Option (List (Option Toml.Value))
  | .table rows => if onlyKeys keys rows then some (keys.map fun key => rows.lookup key) else none
  | .list items => some ((items.map some ++ keys.map fun _ => none).take keys.length)
  | _ => none

def readGithub (config : Config) (value : Toml.Value) : Option Config := do
  match ← section? ["host", "timeout_secs"] value with
  | [host, timeout] =>
      return { config with
        host := ← given textOf host config.host
        timeout := ← given secondsOf timeout config.timeout }
  | _ => none

def readParams (config : Config) (value : Toml.Value) : Option Config := do
  match ← section? ["dir"] value with
  | [dir] =>
      return { config with
        paramsDir := ← given (fun v => (textOf v).map some) dir config.paramsDir }
  | _ => none

def ofRows (rows : Toml.Rows) : Option Config :=
  if onlyKeys ["github", "params"] rows then do
    let config ← given (readGithub {}) (rows.lookup "github") {}
    given (readParams config) (rows.lookup "params") config
  else none

-- The host is looked at last, whether it was given or not.
def parse (text : String) : Except Fault Config :=
  match (Toml.parse text).bind ofRows with
  | none => .error .unparsable
  | some config => do
      checkHost config.host
      return config

end Config

end LinkedKeys

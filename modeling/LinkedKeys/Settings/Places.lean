import LinkedKeys.Files.Path

namespace LinkedKeys

-- `accountHome` is the home directory on record for the user, for when no variable gives one.
structure Environment where
  bindings : List (String × String) := []
  accountHome : Option String := none

namespace Environment

def value? (env : Environment) (name : String) : Option String :=
  env.bindings.lookup name

def home (env : Environment) : Option String :=
  match env.value? "HOME" with
  | some home => if home = "" then env.accountHome else some home
  | none => env.accountHome

-- A relative path in the variable is as good as none.
def directory (env : Environment) (name fallback : String) : Option String :=
  match env.value? name with
  | some path =>
      if Files.Path.isAbsolute path then some path
      else env.home.map fun home => Files.Path.join home fallback
  | none => env.home.map fun home => Files.Path.join home fallback

def configFile (env : Environment) : Option String :=
  (env.directory "XDG_CONFIG_HOME" ".config").map fun dir =>
    Files.Path.join (Files.Path.join dir "keylink") "config.toml"

def paramsDir (env : Environment) : Option String :=
  (env.directory "XDG_DATA_HOME" ".local/share").map fun dir =>
    Files.Path.join (Files.Path.join dir "keylink") "params"

end Environment

end LinkedKeys

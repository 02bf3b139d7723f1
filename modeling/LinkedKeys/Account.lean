import LinkedKeys.KeyLine
import LinkedKeys.Store.Call

namespace LinkedKeys

structure Account where
  username : String
  keys : String
  deriving DecidableEq

namespace Account

def usernameKey : String := "GithubUsername"

def keysKey : String := "GithubSshKeys"

def lines (account : Account) : List KeyLine :=
  KeyLine.ofBlob account.keys

-- Half a pair is no account.
def ofParts (keys username : String) : Option Account :=
  if keys = "" ∨ username = "" then none else some ⟨username, keys⟩

def stored : Store.Attempt (Option Account) := do
  let keys ← Store.get keysKey
  let username ← Store.get usernameKey
  return ofParts keys username

end Account

-- A name of these characters is one plain segment of a path, and no option or hidden file.
def Username.isFirst (c : Char) : Bool :=
  c.isAlphanum || c == '_'

def Username.isLater (c : Char) : Bool :=
  Username.isFirst c || c == '.' || c == '-'

def Username.isValid (name : String) : Bool :=
  match name.toList with
  | [] => false
  | c :: cs => Username.isFirst c && cs.all Username.isLater

end LinkedKeys

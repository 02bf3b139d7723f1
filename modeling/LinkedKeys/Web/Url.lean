import LinkedKeys.Web.Host
import LinkedKeys.Web.Segments

namespace LinkedKeys.Web

structure User where
  name : String
  password : String
  deriving DecidableEq

structure Authority where
  user : Option User := none
  host : String
  portNumber : Option Nat := none
  deriving DecidableEq

-- A path without a slash in front has no segments.
inductive Path where
  | text (text : String)
  | segments (names : List String)
  deriving DecidableEq

structure Url where
  scheme : String
  authority : Option Authority
  path : Path
  query : Option String
  fragment : Option String
  deriving DecidableEq

namespace Url

-- The number that is meant where an address gives none.
def schemePort (scheme : String) : Option Nat :=
  if scheme = "http" ∨ scheme = "ws" then some 80
  else if scheme = "https" ∨ scheme = "wss" then some 443
  else if scheme = "ftp" then some 21
  else none

def isKnown (scheme : String) : Bool := (schemePort scheme).isSome || scheme = "file"

def isSchemeChar (c : Char) : Bool := c.isAlphanum || c == '+' || c == '-' || c == '.'

-- The scheme in lower case, and the text behind its colon.
def schemeOf (cs : List Char) : Option (String × List Char) :=
  let scheme := cs.takeWhile isSchemeChar
  match scheme.head?, cs.drop scheme.length with
  | some c, ':' :: rest =>
      if c.isAlpha then some (String.ofList (scheme.map Char.toLower), rest) else none
  | _, _ => none

def userOf (cs : List Char) : Option User :=
  let (name, password) := Text.cut ':' cs
  let password := password.getD []
  if name = [] ∧ password = [] then none
  else some ⟨String.ofList (escape inUser name), String.ofList (escape inUser password)⟩

-- What stands in front of the last sign that ends a user, and all that follows that sign.
def splitUser (cs : List Char) : Option (List Char) × List Char :=
  let inside := cs.takeWhile (· ≠ '/')
  if inside.contains '@' then
    let host := (inside.reverse.takeWhile (· ≠ '@')).reverse
    let user := inside.take (inside.length - host.length - 1)
    (some user, cs.drop (user.length + 1))
  else (none, cs)

-- A colon between brackets does not end the host.
def hostText (inBrackets : Bool) : List Char → List Char
  | [] => []
  | c :: rest =>
      if c = '/' ∨ (c = ':' ∧ !inBrackets) then []
      else c :: hostText (c = '[' || (inBrackets && c ≠ ']')) rest

-- The number that the scheme stands for by itself is not kept.
def portOf (scheme : String) (cs : List Char) : Option (Option Nat × List Char) :=
  match cs with
  | ':' :: more => do
      let digits := more.takeWhile Char.isDigit
      let rest := more.drop digits.length
      let n ← Text.number 10 digits
      let isWhole := rest.head?.all fun c => c = '/' ∨ c = '\x5c'
      if 65535 < n ∨ !isWhole then none
      else some (if digits = [] ∨ some n = schemePort scheme then none else some n, rest)
  | _ => some (none, cs)

-- An authority has a host, except that one of an unknown scheme can be empty as a whole.
def authorityOf (scheme : String) (cs : List Char) : Option (Authority × List Char) := do
  let (userText, rest) := splitUser cs
  let user := userText.bind userOf
  let name := hostText false rest
  let rest := rest.drop name.length
  let isBare := userText = some [] ∨ user.isSome ∨ rest.head? = some ':'
  if name = [] ∧ isBare then none
  let host ← if isKnown scheme then Host.named? name else Host.unnamed? name
  let (portNumber, rest) ← portOf scheme rest
  some ({ user, host, portNumber }, rest)

def pathOf (path : List (List Char)) : Path :=
  .segments (path.map fun segment => String.ofList (escape inPath segment))

def behindSlash (cs : List Char) : List Char :=
  match cs with
  | '/' :: rest => rest
  | rest => rest

-- Any number of slashes, even none, leads to the authority.
def placeOfKnown (scheme : String) (cs : List Char) : Option (Option Authority × Path) := do
  let (authority, rest) ← authorityOf scheme (cs.dropWhile (· = '/'))
  some (some authority, pathOf (segments (behindSlash rest)))

def fileHost (name : List Char) : Option String := do
  if name = [] then return ""
  let host ← Host.named? name
  return if host = "localhost" then "" else host

-- A drive is on no other host.
def filePlace (host : String) (path : List (List Char)) : Option Authority × Path :=
  match drive? path with
  | some path => (some { host := "" }, pathOf path)
  | none => (some { host }, pathOf (dropEmpty path))

def placeOfFile (cs : List Char) : Option (Option Authority × Path) :=
  match cs with
  | '/' :: '/' :: more => do
      let name := more.takeWhile (· ≠ '/')
      if isDrive name then some (filePlace "" (segments more))
      else
        let host ← fileHost name
        some (filePlace host (segments (behindSlash (more.drop name.length))))
  | _ => some (filePlace "" (segments (behindSlash cs)))

def placeOfUnknown (scheme : String) (cs : List Char) : Option (Option Authority × Path) :=
  match cs with
  | '/' :: '/' :: more => do
      let (authority, rest) ← authorityOf scheme more
      let path := if rest = [] then [] else segments (behindSlash rest)
      some (some authority, pathOf path)
  | '/' :: more => some (none, pathOf (segments more))
  | _ => some (none, .text (String.ofList (escape (fun _ => false) cs)))

def placeOf (scheme : String) (cs : List Char) : Option (Option Authority × Path) :=
  let slashed := cs.map fun c => if c = '\x5c' then '/' else c
  if scheme = "file" then placeOfFile slashed
  else if isKnown scheme then placeOfKnown scheme slashed
  else placeOfUnknown scheme cs

def trimmed (cs : List Char) : List Char :=
  let isEdge (c : Char) : Bool := c.toNat ≤ 0x20
  ((cs.dropWhile isEdge).reverse.dropWhile isEdge).reverse.filter fun c =>
    c ≠ '\t' ∧ c ≠ '\n' ∧ c ≠ '\r'

def queryReserved (scheme : String) (c : Char) : Bool :=
  inQuery c || (isKnown scheme && c == '\x27')

def ofText (text : String) : Option Url := do
  let (scheme, rest) ← schemeOf (trimmed text.toList)
  let (rest, fragment) := Text.cut '#' rest
  let (rest, query) := Text.cut '?' rest
  let (authority, path) ← placeOf scheme rest
  some {
    scheme, authority, path
    query := query.map fun cs => String.ofList (escape (queryReserved scheme) cs)
    fragment := fragment.map fun cs => String.ofList (escape inFragment cs) }

def pathText : Path → String
  | .text text => text
  | .segments names => "".intercalate (names.map ("/" ++ ·))

-- What a request asks the server for.
def target (url : Url) : String :=
  pathText url.path ++ (url.query.map ("?" ++ ·)).getD ""

def host (url : Url) : String := (url.authority.map (·.host)).getD ""

def portNumber (url : Url) : Option Nat := url.authority.bind (·.portNumber)

def userText (user : User) : String :=
  user.name ++ (if user.password = "" then "" else ":" ++ user.password) ++ "@"

-- The host, and the number if it is not the one of the scheme.
def address (url : Url) : String :=
  url.host ++ (url.portNumber.map fun n => ":" ++ toString n).getD ""

-- Without an authority, a path that begins with an empty segment could be taken for one.
def front (url : Url) : String :=
  match url.authority, url.path with
  | some authority, _ => "//" ++ (authority.user.map userText).getD "" ++ url.address
  | none, .segments ("" :: _ :: _) => "/."
  | none, _ => ""

def render (url : Url) : String :=
  url.scheme ++ ":" ++ url.front ++ url.target ++ (url.fragment.map ("#" ++ ·)).getD ""

-- A user whose name can be read goes into the head of a request and not into its address.
def isReadable (user : User) : Bool :=
  (unescape? user.name.toList).isSome &&
    (user.name ≠ "" || (unescape? user.password.toList).isSome)

def withoutUser (url : Url) : Url :=
  { url with authority := url.authority.map fun authority =>
      { authority with user := authority.user.filter (!isReadable ·) } }

end Url

end LinkedKeys.Web

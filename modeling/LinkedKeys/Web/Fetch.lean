import LinkedKeys.Control.State
import LinkedKeys.Web.Status
import LinkedKeys.Web.Url

namespace LinkedKeys.Web

-- What becomes of one request. Only a refused one never reaches the server.
inductive Reply where
  | refused
  | closed
  | silent
  | response (status : Nat) (body : List UInt8) (complete : Bool)
  deriving DecidableEq, Inhabited

structure Request where
  method : String
  target : String
  agent : String
  deriving DecidableEq

def agentName : String := "keylink/0.3.0"

def Request.toGet (url : Url) : Request := ⟨"GET", url.target, agentName⟩

def Reply.isSeen : Reply → Bool
  | .refused => false
  | _ => true

def trimSlashes (cs : List Char) : List Char :=
  (cs.reverse.dropWhile (· = '/')).reverse

-- The name becomes the last segment as it is; nothing is escaped.
def keysUrl (host username : String) : String :=
  String.ofList (trimSlashes host.toList) ++ "/" ++ username ++ ".keys"

-- Two statuses stand for an answer without a body, whatever else was announced.
def isBodyless (status : Nat) : Bool := status = 204 ∨ status = 304

def isSuccess (status : Nat) : Bool := 200 ≤ status ∧ status < 300

def unsent (url : Url) : Control.Outcome :=
  .failed ("error sending request for url (" ++ url.render ++ ")")

-- Below 200 stands what is no final answer, with one exception.
def isFinal (status : Nat) : Bool := status = 101 ∨ (200 ≤ status ∧ status ≤ 999)

-- An answer that says the account is unknown needs no complete body, nor does one that fails.
def judge (text : String) (url : Url) : Reply → Control.Outcome
  | .refused => unsent url
  | .closed => unsent url
  | .silent => .timedOut
  | .response status body complete =>
      if !isFinal status then unsent url
      else if status = 404 then .notFound
      else if !isSuccess status then .failed (text ++ " returned status " ++ statusText status)
      else if isBodyless status then .fetched ""
      else if complete then .fetched (Text.ofBytesReplacing body)
      else .failed "error decoding response body"

-- Four characters can stand in a host but not in the host of a request.
def isRequestable (url : Url) : Bool :=
  (url.scheme = "http" || url.scheme = "https") &&
    !url.host.toList.any ['\x22', '\x60', '\x7b', '\x7d'].contains &&
    url.render.utf8ByteSize < 65535

-- Where the request goes, or why there is none.
def destination (text : String) : Except Control.Outcome Url :=
  match Url.ofText text with
  | none => .error (.failed "builder error")
  | some url =>
      let url := url.withoutUser
      if isRequestable url then .ok url
      else .error (.failed ("builder error for url (" ++ url.render ++ ")"))

end LinkedKeys.Web

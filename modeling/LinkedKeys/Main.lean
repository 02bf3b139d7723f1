import LinkedKeys.Files.Draft
import LinkedKeys.Program.Next
import LinkedKeys.Web.Wire
import Std.Async.DNS
import Std.Async.TCP
import Std.Async.Timer

namespace LinkedKeys.Machine

open Std.Async Std.Net

-- One source of errors counts its numbers below zero.
def ordinal (number : UInt32) : Nat :=
  number.toInt32.toInt.natAbs

def causeOfNumber (number : UInt32) (text : String) : Files.Cause :=
  match ordinal number with
  | 2 => .missing
  | 13 => .other "Permission denied (os error 13)"
  | 17 => .present
  | 20 => .notDirectory
  | 21 => .isDirectory
  | 36 => .nameTooLong
  | _ => .other text

def causeOf (e : IO.Error) : Files.Cause :=
  match e with
  | .noFileOrDirectory _ number _ => causeOfNumber number e.toString
  | .permissionDenied _ number _ => causeOfNumber number e.toString
  | .alreadyExists _ number _ => causeOfNumber number e.toString
  | .inappropriateType _ number _ => causeOfNumber number e.toString
  | .invalidArgument _ number _ => causeOfNumber number e.toString
  | _ => .other e.toString

def attempt {α : Type} (path : String) (action : IO α) : IO (Except Files.Cause α) := do
  if path.toList.contains (Char.ofNat 0) then return .error .nulInName
  try return .ok (← action) catch e => return .error (causeOf e)

def succeeds {α : Type} (action : IO α) : IO Bool := do
  try
    let _ ← action
    return true
  catch _ => return false

def carryOut {C : Type} {A : C → Type} {α : Type} (answer : (c : C) → IO (A c)) :
    Script C A α → IO α
  | .done result => return result
  | .ask call next => do carryOut answer (next (← answer call))

-- Only the user who runs the command may look into what it writes.
def answerDraft : (c : Files.Draft.Call) → IO c.Answer
  | .create path => attempt path do let _ ← IO.FS.Handle.mk path .writeNew
  | .fill path content => attempt path do
      IO.setAccessRights path { user := { read := true, write := true } }
      let file ← IO.FS.Handle.mk path .write
      file.write ⟨content.toArray⟩
      file.flush
  | .rename path target => attempt target (IO.FS.rename path target)
  | .discard path => attempt path (IO.FS.removeFile path)

def replace (path : String) (content : List UInt8) : IO (Except Files.Cause Unit) := do
  let numbers ← (List.replicate 8 ()).mapM fun _ => IO.rand 100000 999999
  carryOut answerDraft (Files.Draft.replace path content numbers)

def answerFiles : (c : Files.Call) → IO c.Answer
  | .read path => attempt path do return (← IO.FS.readBinFile path).toList
  | .replace path content => replace path content
  | .remove path => attempt path (IO.FS.removeFile path)
  | .makeDirectory path => attempt path (IO.FS.createDir path)
  | .isDirectory path => succeeds (IO.FS.realPath (path ++ "/."))
  | .isPresent path => succeeds (IO.FS.realPath path)

partial def readLine (input : IO.FS.Stream) (line : List UInt8) : IO (Option (List UInt8)) := do
  match (← input.read 1).toList with
  | [] => return if line = [] then none else some line.reverse
  | byte :: _ =>
      let line := byte :: line
      if byte = 10 then return some line.reverse else readLine input line

def addresses (url : Web.Url) : Async (List IPAddr) := do
  let host := String.ofList (url.host.toList.filter fun c => c ≠ '[' ∧ c ≠ ']')
  match IPv4Addr.ofString host, IPv6Addr.ofString host with
  | some ip, _ => return [.v4 ip]
  | none, some ip => return [.v6 ip]
  | none, none => return (← DNS.getAddrInfo host "http").toList

def place (ip : IPAddr) (portNumber : UInt16) : SocketAddress :=
  match ip with
  | .v4 ip => .v4 ⟨ip, portNumber⟩
  | .v6 ip => .v6 ⟨ip, portNumber⟩

-- What comes until the connection ends, whichever way it does.
partial def receive (socket : TCP.Socket.Client) (bytes : ByteArray) : Async ByteArray := do
  let more ← try socket.recv? 65536 catch _ => pure none
  match more with
  | none => return bytes
  | some more => receive socket (bytes ++ more)

def connect (portNumber : UInt16) : List IPAddr → Async (Option TCP.Socket.Client)
  | [] => return none
  | ip :: rest => do
      let socket ← TCP.Socket.Client.mk
      let connected ← try
          socket.connect (place ip portNumber)
          pure true
        catch _ => pure false
      if connected then return some socket else connect portNumber rest

def exchange (url : Web.Url) : Async Web.Reply := do
  let ips ← try addresses url catch _ => pure []
  match ← connect (url.portNumber.getD 80).toUInt16 ips with
  | none => return .refused
  | some socket =>
      try
        socket.send ⟨((Web.Request.toGet url).wire url.address).toArray⟩
        return .ofWire (← receive socket .empty).toList
      catch _ => return .closed

def silence (seconds : Nat) : Async Web.Reply := do
  sleep (Std.Time.Millisecond.Offset.ofInt (min seconds 1000000000 * 1000))
  return .silent

-- Requests go out unencrypted, so a host that asks for encryption counts as one that refuses them.
def request (url : Web.Url) (seconds : Nat) : IO Web.Reply := do
  if url.scheme ≠ "http" then return .refused
  (Async.race (exchange url) (silence seconds)).block

-- Nothing is kept of a client: each request has a connection of its own.
def client : IO (Except String Unit) := do
  try
    let _ ← TCP.Socket.Client.mk
    return .ok ()
  catch e => return .error e.toString

def answer : (c : Program.Call) → IO c.Answer
  | .files call => answerFiles call
  | .print text => do
      let output ← IO.getStdout
      output.putStr text
      output.flush
  | .complain text => do (← IO.getStderr).putStr text
  | .readLine => do readLine (← IO.getStdin) []
  | .client _ => client
  | .request url seconds => request url seconds

partial def follow : Program.Next → IO UInt32
  | .exit code => return code.toUInt32
  | .turn panel => do follow (← carryOut answer panel.next)

def environment : IO Environment := do
  let names := ["HOME", "XDG_CONFIG_HOME", "XDG_DATA_HOME", "KEYLINK_HOST", "KEYLINK_PARAMS_DIR",
    "CLICOLOR", "CLICOLOR_FORCE", "NO_COLOR"]
  let rows ← names.filterMapM fun name => do
    return (← IO.getEnv name).map fun value => (name, value)
  return { bindings := rows }

end LinkedKeys.Machine

open LinkedKeys in
def main (args : List String) : IO UInt32 := do
  let onTerminal ← (← IO.getStdout).isTty
  Machine.follow (← Machine.carryOut Machine.answer
    (Program.opening (← Machine.environment) onTerminal args))

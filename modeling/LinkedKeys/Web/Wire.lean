import LinkedKeys.Text.Blank
import LinkedKeys.Web.Fetch

namespace LinkedKeys.Web

-- Version 1.0 is asked for, so the body of the reply comes as one piece.
def Request.wire (r : Request) (address : String) : List UInt8 :=
  Text.toBytes (r.method ++ " " ++ r.target ++ " HTTP/1.0\r\n" ++ "Host: " ++ address ++ "\r\n" ++
    "User-Agent: " ++ r.agent ++ "\r\n" ++ "Accept: */*\r\n\r\n")

-- The head ends at the first empty line.
def splitHead : List UInt8 → Option (List UInt8 × List UInt8)
  | 13 :: 10 :: 13 :: 10 :: body => some ([], body)
  | b :: rest => (splitHead rest).map fun parts => (b :: parts.1, parts.2)
  | [] => none

def statusOf (line : List Char) : Option Nat :=
  match Text.fields line with
  | _ :: code :: _ => Text.number 10 code
  | _ => none

def isLengthName (name : List Char) : Bool :=
  name.map Char.toLower = "content-length".toList

def announcedLength (lines : List (List Char)) : Option Nat :=
  lines.findSome? fun line =>
    match Text.pieces ':' line with
    | [name, value] => if isLengthName name then Text.number 10 (Text.trim value) else none
    | _ => none

-- A body is complete when it is as long as the head announces. What announces nothing is complete
-- as it is.
def Reply.ofWire (bytes : List UInt8) : Reply :=
  match splitHead bytes with
  | none => .closed
  | some (head, body) =>
      match Text.lines (Text.ofBytesReplacing head).toList with
      | [] => .closed
      | first :: rest =>
          match statusOf first with
          | none => .closed
          | some status =>
              let length := (announcedLength rest).getD body.length
              .response status (body.take length) (length ≤ body.length)

end LinkedKeys.Web

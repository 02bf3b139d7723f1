import LinkedKeys.Domain.Name
import LinkedKeys.Web.Address
import LinkedKeys.Web.Escape

namespace LinkedKeys.Web.Host

-- `cs` stands behind the opening bracket.
def bracketed? (cs : List Char) : Option String :=
  match cs.reverse with
  | ']' :: inner => (groups? inner.reverse).map fun groups => "[" ++ groupsText groups ++ "]"
  | _ => none

def named? (cs : List Char) : Option String :=
  match cs with
  | '[' :: rest => bracketed? rest
  | _ => do
      let text ← unescape? cs
      let name ← Domain.ascii? text.toList
      if name = [] then none
      else if looksNumeric (nameParts name) then numericHost (nameParts name)
      else some (String.ofList name)

-- Characters that not even a host of an unknown scheme has.
def isBarred (c : Char) : Bool :=
  ['\x00', '\t', '\n', '\r', ' ', '#', '/', ':', '<', '>', '?', '@', '[', '\x5c', ']', '^',
    '|'].contains c

def unnamed? (cs : List Char) : Option String :=
  match cs with
  | '[' :: rest => bracketed? rest
  | _ => if cs.any isBarred then none else some (String.ofList (escape (fun _ => false) cs))

end LinkedKeys.Web.Host

namespace LinkedKeys.Report

inductive Json where
  | null
  | boolean (value : Bool)
  | text (text : String)
  | list (items : List Json)
  | object (members : List (String × Json))

namespace Json

def lowerHex (n : Nat) : Char :=
  Char.ofNat (if n < 10 then 48 + n else 87 + n)

-- Only quotes, backslashes and the 32 control characters are escaped.
def escaped (c : Char) : List Char :=
  if c = '\x22' then ['\x5c', '\x22']
  else if c = '\x5c' then ['\x5c', '\x5c']
  else if c = '\x08' then ['\x5c', 'b']
  else if c = '\x0c' then ['\x5c', 'f']
  else if c = '\n' then ['\x5c', 'n']
  else if c = '\r' then ['\x5c', 'r']
  else if c = '\t' then ['\x5c', 't']
  else if c.toNat < 0x20 then
    ['\x5c', 'u', '0', '0', lowerHex (c.toNat / 16), lowerHex (c.toNat % 16)]
  else [c]

def quoted (text : String) : List Char :=
  '\x22' :: text.toList.flatMap escaped ++ ['\x22']

def indent (depth : Nat) : List Char :=
  '\n' :: List.replicate (2 * depth) ' '

mutual

def write (depth : Nat) : Json → List Char
  | null => "null".toList
  | boolean true => "true".toList
  | boolean false => "false".toList
  | text t => quoted t
  | list [] => ['[', ']']
  | list (item :: rest) =>
      '[' :: indent (depth + 1) ++ write (depth + 1) item ++ writeItems depth rest ++
        indent depth ++ [']']
  | object [] => ['\x7b', '\x7d']
  | object ((name, value) :: rest) =>
      '\x7b' :: indent (depth + 1) ++ quoted name ++ ':' :: ' ' :: write (depth + 1) value ++
        writeMembers depth rest ++ indent depth ++ ['\x7d']

def writeItems (depth : Nat) : List Json → List Char
  | [] => []
  | item :: rest =>
      ',' :: indent (depth + 1) ++ write (depth + 1) item ++ writeItems depth rest

def writeMembers (depth : Nat) : List (String × Json) → List Char
  | [] => []
  | (name, value) :: rest =>
      ',' :: indent (depth + 1) ++ quoted name ++ ':' :: ' ' :: write (depth + 1) value ++
        writeMembers depth rest

end

def render (value : Json) : String := String.ofList (write 0 value)

end Json

end LinkedKeys.Report

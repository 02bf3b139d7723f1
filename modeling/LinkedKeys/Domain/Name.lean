import LinkedKeys.Domain.Composite
import LinkedKeys.Domain.Direction
import LinkedKeys.Domain.Joiner
import LinkedKeys.Domain.Punycode

namespace LinkedKeys.Domain

-- A label with its characters, and as it is written in ASCII.
structure Label where
  text : List Char
  written : List Char

def codeMark : List Char := ['x', 'n', '-', '-']

def isSound (text : List Char) : Bool :=
  !text.head?.any isMark && joinersJustified [] text

def isSettled (text : List Char) : Bool :=
  text.all (fun c => mapped c = some [c]) && composed text = text

-- What a label in ASCII stands for has to be in the form that it would be brought into.
def Label.ofCode? (written code : List Char) : Option Label := do
  let text ← Punycode.decode? code
  if isSettled text && isSound text then some ⟨text, written⟩ else none

def Label.ofText? (text : List Char) : Option Label :=
  if text.take 4 = codeMark then Label.ofCode? text (text.drop 4)
  else if text.all isAscii then some ⟨text, text⟩
  else if isSound text then (Punycode.encode? text).map fun code => ⟨text, codeMark ++ code⟩
  else none

def areClear (labels : List Label) : Bool :=
  !labels.any (·.text.any isTelling) || labels.all fun label => isClear label.text

-- Characters that no host has.
def isForbidden (c : Char) : Bool :=
  c.toNat ≤ 0x20 || c.toNat == 0x7f ||
    ['%', '#', '/', ':', '<', '>', '?', '@', '[', '\x5c', ']', '^', '|'].contains c

def ascii? (name : List Char) : Option (List Char) := do
  let text := composed (← name.mapM mapped).flatten
  let labels ← (Text.pieces '.' text).mapM Label.ofText?
  let written := List.intercalate ['.'] (labels.map (·.written))
  if areClear labels && !written.any isForbidden then some written else none

end LinkedKeys.Domain

import LinkedKeys.Domain.Mark
import LinkedKeys.Domain.Table.Joining

namespace LinkedKeys.Domain

def nonJoiner : Char := Char.ofNat 0x200c

def joiner : Char := Char.ofNat 0x200d

-- Marks, and one letter of their kind, do not come between the letters around them.
def isTransparent (c : Char) : Bool := isNonspacing c || c.toNat == 0x1e94b

def joinsForward (c : Char) : Bool :=
  Table.holds Table.joinedBothWays c || Table.holds Table.joinedForward c

def joinsBackward (c : Char) : Bool :=
  Table.holds Table.joinedBothWays c || Table.holds Table.joinedBackward c

def neighbour (cs : List Char) : Option Char := (cs.dropWhile isTransparent).head?

-- `before` has the nearest character first.
def isJustified (before : List Char) (c : Char) (after : List Char) : Bool :=
  before.head?.any isVirama ||
    (c == nonJoiner && (neighbour before).any joinsForward && (neighbour after).any joinsBackward)

def joinersJustified (before : List Char) : List Char → Bool
  | [] => true
  | c :: rest =>
      (!(c == nonJoiner || c == joiner) || isJustified before c rest) &&
        joinersJustified (c :: before) rest

end LinkedKeys.Domain

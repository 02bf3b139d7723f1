import LinkedKeys.Domain.Mapping
import LinkedKeys.Domain.Mark
import LinkedKeys.Domain.Table.Composites

namespace LinkedKeys.Domain

def isWithin (first last : Nat) (c : Char) : Bool := first ≤ c.toNat && c.toNat ≤ last

def isSyllable (c : Char) : Bool := isWithin 0xac00 0xd7a3 c

-- Every 28th syllable has no final consonant.
def finalOf (c : Char) : Nat := (c.toNat - 0xac00) % 28

def syllableHalves (c : Char) : List Char :=
  let i := c.toNat - 0xac00
  if finalOf c = 0 then [Char.ofNat (0x1100 + i / 588), Char.ofNat (0x1161 + i % 588 / 28)]
  else [Char.ofNat (c.toNat - finalOf c), Char.ofNat (0x11a7 + finalOf c)]

def halves (c : Char) : List Char :=
  if isAscii c then [c]
  else if isSyllable c then syllableHalves c
  else
    match Table.row? Table.composites c with
    | some row => row.value.map Char.ofNat
    | none => [c]

-- A half can have halves itself, but theirs have none.
def spread (cs : List Char) : List Char :=
  ((cs.flatMap halves).flatMap halves).flatMap halves

-- A mark moves behind the marks of lower classes that follow it.
def settle (c : Char) : List Char → List Char
  | [] => [c]
  | d :: rest =>
      if 0 < markClass d ∧ markClass d < markClass c then d :: settle c rest else c :: d :: rest

def ordered (cs : List Char) : List Char := cs.foldr settle []

def syllable? (a b : Char) : Option Char :=
  if isWithin 0x1100 0x1112 a && isWithin 0x1161 0x1175 b then
    some (Char.ofNat (0xac00 + (a.toNat - 0x1100) * 588 + (b.toNat - 0x1161) * 28))
  else if isSyllable a && finalOf a == 0 && isWithin 0x11a8 0x11c2 b then
    some (Char.ofNat (a.toNat + (b.toNat - 0x11a7)))
  else none

def whole? (a b : Char) : Option Char :=
  match syllable? a b with
  | some c => some c
  | none =>
      (Table.composites.find? fun row => row.value = [a.toNat, b.toNat]).map fun row =>
        Char.ofNat row.first

-- A mark reaches the character in front unless a kept mark of its own class or of a higher one
-- stands between them; what is no mark reaches it only from its side.
def reaches (kept : List Char) (c : Char) : Bool :=
  match kept.getLast? with
  | some d => markClass d < markClass c
  | none => true

-- The character that marks are added to, and the marks that stay behind it.
def join (base : Char) (kept : List Char) : List Char → List Char
  | [] => base :: kept
  | c :: rest =>
      match if reaches kept c then whole? base c else none with
      | some whole => join whole kept rest
      | none =>
          if markClass c = 0 then base :: kept ++ join c [] rest else join base (kept ++ [c]) rest

def composed (cs : List Char) : List Char :=
  if cs.all isAscii then cs
  else
    match ordered (spread cs) with
    | [] => []
    | c :: rest => join c [] rest

end LinkedKeys.Domain

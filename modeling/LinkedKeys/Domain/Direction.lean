import LinkedKeys.Domain.Mark
import LinkedKeys.Domain.Table.Directions

namespace LinkedKeys.Domain

inductive Direction where
  | leftToRight
  | rightToLeft
  | europeanNumber
  | arabicNumber
  | mark
  | neutral
  deriving DecidableEq

-- Marks that are read as letters are.
def isLetterlike (c : Char) : Bool := [0xcbf, 0xcc6, 0x11a07, 0x11a08, 0x11c3f].contains c.toNat

def Direction.ofAscii (c : Char) : Direction :=
  if c.isDigit then .europeanNumber else if c.isAlpha then .leftToRight else .neutral

def Direction.ofChar (c : Char) : Direction :=
  if c.toNat < 0x80 then .ofAscii c
  else if isNonspacing c && !isLetterlike c then .mark
  else if Table.holds Table.europeanNumbers c then .europeanNumber
  else if Table.holds Table.arabicNumbers c then .arabicNumber
  else if Table.holds Table.neutral c then .neutral
  else if Table.holds Table.rightToLeft c then .rightToLeft
  else .leftToRight

namespace Direction

def isLetter : Direction → Bool
  | .leftToRight => true
  | .rightToLeft => true
  | _ => false

-- What makes a name one that has text read to the left.
def isTelling : Direction → Bool
  | .rightToLeft => true
  | .arabicNumber => true
  | _ => false

def endsLeftToRight : Direction → Bool
  | .leftToRight => true
  | .europeanNumber => true
  | _ => false

def endsRightToLeft : Direction → Bool
  | .rightToLeft => true
  | .europeanNumber => true
  | .arabicNumber => true
  | _ => false

-- The marks behind a character go with it.
def last? (ds : List Direction) : Option Direction :=
  (ds.reverse.dropWhile (· = .mark)).head?

-- A single letter, with or without marks, ends its label by beginning it.
def isClear : List Direction → Bool
  | [] => true
  | first :: rest =>
      match first, last? rest with
      | .leftToRight, some last =>
          last.endsLeftToRight && !rest.any isTelling
      | .rightToLeft, some last =>
          last.endsRightToLeft && !rest.contains .leftToRight &&
            !(rest.contains .europeanNumber && rest.contains .arabicNumber)
      | first, none => first.isLetter
      | _, some _ => false

end Direction

-- Below the first code point given here nothing is read to the left.
def isTelling (c : Char) : Bool := 0x590 ≤ c.toNat && (Direction.ofChar c).isTelling

def isClear (label : List Char) : Bool := Direction.isClear (label.map Direction.ofChar)

end LinkedKeys.Domain

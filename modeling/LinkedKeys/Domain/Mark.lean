import LinkedKeys.Domain.Table.Marks

namespace LinkedKeys.Domain

def isNonspacing (c : Char) : Bool := Table.holds Table.nonspacingMarks c

def isMark (c : Char) : Bool := isNonspacing c || Table.holds Table.spacingMarks c

-- Marks of different classes can change places. Class zero never does.
def markClass (c : Char) : Nat :=
  match (Table.nonspacingMarks ++ Table.spacingMarks).find? (·.covers c) with
  | some row => row.value.headD 0
  | none => 0

-- The sign that takes the vowel away from the letter in front of it.
def isVirama (c : Char) : Bool := markClass c = 9

end LinkedKeys.Domain

import LinkedKeys.Domain.Table.Mapped
import LinkedKeys.Domain.Table.Refused

namespace LinkedKeys.Domain

def isAscii (c : Char) : Bool := c.toNat < 0x80

-- A row that moves its characters tells where its first one goes.
def Row.move (row : Row) (c : Char) : List Char :=
  row.value.map fun n => Char.ofNat (n + (c.toNat - row.first))

def Row.alternates (row : Row) (c : Char) : Bool :=
  row.covers c && (c.toNat - row.first) % 2 == 0

def replacement? (c : Char) : Option (List Char) :=
  match Table.row? Table.replaced c, Table.row? Table.moved c with
  | some row, _ => some (row.value.map Char.ofNat)
  | none, some row => some (row.move c)
  | none, none => (Table.alternating.find? (·.alternates c)).map (·.move c)

-- None where no name has the character.
def mapped (c : Char) : Option (List Char) :=
  if isAscii c then some [c.toLower]
  else if Table.holds Table.refused c then none
  else if Table.holds Table.dropped c then some []
  else some ((replacement? c).getD [c])

end LinkedKeys.Domain

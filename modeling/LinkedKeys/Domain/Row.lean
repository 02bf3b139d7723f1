import LinkedKeys.Text.Digits
import LinkedKeys.Text.Pieces

namespace LinkedKeys.Domain

structure Row where
  first : Nat
  last : Nat
  value : List Nat

def hexNumber (digits : List Char) : Nat :=
  digits.foldl (fun n c => n * 16 + (Text.hexDigit c).getD 0) 0

-- In hexadecimal, as `300-314=e6`, or `132=69.6a` for one code point, or `1f8b0-1f8b1` where to
-- be in the table is all there is to say.
def Row.ofWord (word : List Char) : Row :=
  let (range, value) := Text.cut '=' word
  let (first, last) := Text.cut '-' range
  { first := hexNumber first
    last := hexNumber (last.getD first)
    value := (value.map fun value => (Text.pieces '.' value).map hexNumber).getD [] }

def Row.covers (row : Row) (c : Char) : Bool := row.first ≤ c.toNat && c.toNat ≤ row.last

namespace Table

def rows (lines : List String) : List Row :=
  lines.flatMap fun line => (Text.pieces ' ' line.toList).map Row.ofWord

def holds (rows : List Row) (c : Char) : Bool := rows.any (·.covers c)

def row? (rows : List Row) (c : Char) : Option Row := rows.find? (·.covers c)

end Table

end LinkedKeys.Domain

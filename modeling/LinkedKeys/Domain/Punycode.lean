import LinkedKeys.Domain.Mapping

namespace LinkedKeys.Domain.Punycode

def digitOf (n : Nat) : Char :=
  if n < 26 then Char.ofNat (97 + n) else Char.ofNat (22 + n)

def digit? (c : Char) : Option Nat :=
  if 'a' ≤ c ∧ c ≤ 'z' then some (c.toNat - 97)
  else if 'A' ≤ c ∧ c ≤ 'Z' then some (c.toNat - 65)
  else if '0' ≤ c ∧ c ≤ '9' then some (c.toNat - 22)
  else none

-- The last digit of a number is the first that is less than its column's threshold.
def threshold (bias column : Nat) : Nat :=
  if column ≤ bias then 1 else if bias + 26 ≤ column then 26 else column - bias

theorem one_le_threshold (bias column : Nat) : 1 ≤ threshold bias column := by
  unfold threshold
  split
  · exact Nat.le_refl 1
  · split <;> omega

def skew (n column : Nat) : Nat :=
  if h : 455 < n then skew (n / 35) (column + 36) else column + 36 * n / (n + 38)
termination_by n
decreasing_by exact Nat.div_lt_self (by omega) (by omega)

-- Large numbers make it likely that the next one is large as well.
def adapt (steps places : Nat) (isFirst : Bool) : Nat :=
  let n := if isFirst then steps / 700 else steps / 2
  skew (n + n / places) 0

structure Reading where
  label : List Char
  code : Nat := 128
  bias : Nat := 72
  -- steps in all, and those before the number that is being read
  steps : Nat := 0
  start : Nat := 0
  weight : Nat := 1
  column : Nat := 36

-- Numbers are kept in 32 bits.
def fits (n : Nat) : Option Nat := if n < 4294967296 then some n else none

def char? (n : Nat) : Option Char := if n.isValidChar then some (Char.ofNat n) else none

-- A step goes to the next place in the label, and from the last place to the first one of the
-- next code point.
def Reading.insert (r : Reading) (steps : Nat) : Option Reading := do
  let places := r.label.length + 1
  let code := r.code + steps / places
  let place := steps % places
  let c ← char? code
  some { label := r.label.insertIdx place c
         code
         bias := adapt (steps - r.start) places (r.start == 0)
         steps := place + 1
         start := place + 1 }

def Reading.take (r : Reading) (c : Char) : Option Reading := do
  let digit ← digit? c
  let product ← fits (digit * r.weight)
  let steps ← fits (r.steps + product)
  let limit := threshold r.bias r.column
  if digit < limit then r.insert steps
  else
    let weight ← fits (r.weight * (36 - limit))
    some { r with steps, weight, column := r.column + 36 }

-- Between two numbers the column is the first one.
def Reading.isWhole (r : Reading) : Bool := r.column == 36

-- What stands in front of the last hyphen, and what stands behind it.
def split (cs : List Char) : List Char × List Char :=
  let behind := (cs.reverse.takeWhile (· ≠ '-')).reverse
  let front := cs.take (cs.length - behind.length - 1)
  if front = [] then ([], cs) else (front, behind)

-- Nothing is written this way unless it has a character outside ASCII.
def decode? (cs : List Char) : Option (List Char) := do
  let (plain, numbers) := split cs
  if numbers = [] ∨ 2000 < cs.length ∨ !plain.all isAscii then none
  let r ← numbers.foldlM Reading.take { label := plain }
  if r.isWhole then some r.label else none

def digits (bias column n : Nat) : List Char :=
  let limit := threshold bias column
  if h : n < limit then [digitOf n]
  else digitOf (limit + (n - limit) % (36 - limit)) ::
    digits bias (column + 36) ((n - limit) / (36 - limit))
termination_by n
decreasing_by
  have := one_le_threshold bias column
  exact Nat.lt_of_le_of_lt (Nat.div_le_self _ _) (by omega)

structure Writing where
  text : List Char
  done : Nat
  bias : Nat := 72
  steps : Nat := 0

-- One character of the label, in the turn of the code point `code`.
def Writing.take (plain code : Nat) (w : Writing) (c : Char) : Writing :=
  if c.toNat < code then { w with steps := w.steps + 1 }
  else if c.toNat = code then
    { text := w.text ++ digits w.bias 36 w.steps
      done := w.done + 1
      bias := adapt w.steps (w.done + 1) (w.done == plain) }
  else w

-- The turns of the code points in rising order; those between them are passed over at once.
def writeAll (label : List Char) (plain : Nat) : Nat → List Nat → Writing → Writing
  | _, [], w => w
  | code, next :: rest, w =>
      let w := { w with steps := w.steps + (next - code) * (w.done + 1) }
      let w := label.foldl (Writing.take plain next) w
      writeAll label plain (next + 1) rest { w with steps := w.steps + 1 }

def codes (label : List Char) : List Nat :=
  ((label.filter fun c => !isAscii c).map Char.toNat).eraseDups.mergeSort

def encode? (label : List Char) : Option (List Char) :=
  let plain := label.filter isAscii
  let front := if plain = [] then [] else plain ++ ['-']
  if 1000 < label.length then none
  else
    let start : Writing := { text := front, done := plain.length }
    some (writeAll label plain.length 128 (codes label) start).text

end LinkedKeys.Domain.Punycode

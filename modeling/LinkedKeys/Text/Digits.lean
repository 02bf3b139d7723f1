namespace LinkedKeys.Text

def hexDigit (c : Char) : Option Nat :=
  let n := c.toNat
  if 48 ≤ n ∧ n ≤ 57 then some (n - 48)
  else if 97 ≤ n ∧ n ≤ 102 then some (n - 87)
  else if 65 ≤ n ∧ n ≤ 70 then some (n - 55)
  else none

theorem hexDigit_lt {c : Char} {n : Nat} (read : hexDigit c = some n) : n < 16 := by
  simp only [hexDigit] at read
  split at read
  · cases read; omega
  · split at read
    · cases read; omega
    · split at read
      · cases read; omega
      · cases read

-- No digits at all are zero.
def number (base : Nat) (digits : List Char) : Option Nat :=
  digits.foldl (fun n c => do
    let size ← n
    let digit ← hexDigit c
    if digit < base then some (size * base + digit) else none) (some 0)

end LinkedKeys.Text

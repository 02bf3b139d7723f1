namespace LinkedKeys.Digest.Base64

def symbol (sextet : Nat) : Char :=
  if sextet < 26 then Char.ofNat (65 + sextet)
  else if sextet < 52 then Char.ofNat (97 + (sextet - 26))
  else if sextet < 62 then Char.ofNat (48 + (sextet - 52))
  else if sextet = 62 then '+'
  else '/'

def sextet (c : Char) : Option Nat :=
  let n := c.toNat
  if 65 ≤ n ∧ n ≤ 90 then some (n - 65)
  else if 97 ≤ n ∧ n ≤ 122 then some (n - 97 + 26)
  else if 48 ≤ n ∧ n ≤ 57 then some (n - 48 + 52)
  else if n = 43 then some 62
  else if n = 47 then some 63
  else none

theorem sextet_symbol : ∀ n < 64, sextet (symbol n) = some n := by decide

def encode : List UInt8 → List Char
  | [] => []
  | [a] => [symbol (a.toNat / 4), symbol (a.toNat % 4 * 16), '=', '=']
  | [a, b] =>
      [symbol (a.toNat / 4), symbol (a.toNat % 4 * 16 + b.toNat / 16),
        symbol (b.toNat % 16 * 4), '=']
  | a :: b :: c :: rest =>
      symbol (a.toNat / 4) :: symbol (a.toNat % 4 * 16 + b.toNat / 16) ::
        symbol (b.toNat % 16 * 4 + c.toNat / 64) :: symbol (c.toNat % 64) :: encode rest

def encodeUnpadded (bytes : List UInt8) : List Char :=
  (encode bytes).filter (· ≠ '=')

def decode : List Char → Option (List UInt8)
  | [] => some []
  | [p, q, '=', '='] => do
      let i ← sextet p
      let j ← sextet q
      if j % 16 = 0 then some [UInt8.ofNat (i * 4 + j / 16)] else none
  | [p, q, r, '='] => do
      let i ← sextet p
      let j ← sextet q
      let k ← sextet r
      if k % 4 = 0 then
        some [UInt8.ofNat (i * 4 + j / 16), UInt8.ofNat (j % 16 * 16 + k / 4)]
      else none
  | p :: q :: r :: s :: rest => do
      let i ← sextet p
      let j ← sextet q
      let k ← sextet r
      let l ← sextet s
      let tail ← decode rest
      some (UInt8.ofNat (i * 4 + j / 16) :: UInt8.ofNat (j % 16 * 16 + k / 4) ::
        UInt8.ofNat (k % 4 * 64 + l) :: tail)
  | _ => none

end LinkedKeys.Digest.Base64

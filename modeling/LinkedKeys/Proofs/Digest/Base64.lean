import LinkedKeys.Digest.Base64
import Mathlib.Algebra.Group.Nat.Defs
import Mathlib.Data.List.Basic

namespace LinkedKeys.Digest.Base64

-- The last bits of a number, the most significant first.
def bits : Nat → Nat → List Bool
  | 0, _ => []
  | width + 1, n => bits width (n / 2) ++ [decide (n % 2 = 1)]

@[simp] theorem bits_length (width n : Nat) : (bits width n).length = width := by
  induction width generalizing n with
  | zero => rfl
  | succ width ih => simp [bits, ih]

theorem bits_zero (width : Nat) : bits width 0 = List.replicate width false := by
  induction width with
  | zero => rfl
  | succ width ih => simp [bits, ih, List.replicate_succ']

theorem bits_append (width more m : Nat) {n : Nat} (fits : n < 2 ^ more) :
    bits width m ++ bits more n = bits (width + more) (m * 2 ^ more + n) := by
  induction more generalizing n with
  | zero => simp_all [bits]
  | succ more ih =>
      have half : n / 2 < 2 ^ more := by omega
      have double : m * 2 ^ (more + 1) = 2 * (m * 2 ^ more) := by
        rw [Nat.pow_succ, ← Nat.mul_assoc, Nat.mul_comm]
      have halves : (m * 2 ^ (more + 1) + n) / 2 = m * 2 ^ more + n / 2 := by omega
      have last : (m * 2 ^ (more + 1) + n) % 2 = n % 2 := by omega
      rw [← Nat.add_assoc, bits, bits, halves, last, ← ih half, List.append_assoc]

theorem bits_closed (width more m : Nat) :
    bits width m ++ List.replicate more false = bits (width + more) (m * 2 ^ more) := by
  rw [← bits_zero, bits_append width more m (Nat.two_pow_pos more), Nat.add_zero]

theorem bits_inj {width m n : Nat} (one : m < 2 ^ width) (two : n < 2 ^ width)
    (same : bits width m = bits width n) : m = n := by
  induction width generalizing m n with
  | zero => omega
  | succ width ih =>
      obtain ⟨front, last⟩ := List.append_inj' same rfl
      have halves := ih (by omega) (by omega) front
      have parity : m % 2 = 1 ↔ n % 2 = 1 := by simpa using last
      omega

def alphabet : List Char :=
  "ABCDEFGHIJKLMNOPQRSTUVWXYZabcdefghijklmnopqrstuvwxyz0123456789+/".toList

theorem alphabet_symbols : alphabet = (List.range 64).map symbol := by decide

theorem idxOf_symbol : ∀ n < 64, alphabet.idxOf (symbol n) = n := by decide

theorem symbol_among {n : Nat} (small : n < 64) : symbol n ∈ alphabet := by
  rw [alphabet_symbols]
  exact List.mem_map_of_mem (List.mem_range.mpr small)

theorem among_symbol {c : Char} (among : c ∈ alphabet) : ∃ n < 64, c = symbol n := by
  rw [alphabet_symbols] at among
  obtain ⟨n, small, rfl⟩ := List.mem_map.mp among
  exact ⟨n, List.mem_range.mp small, rfl⟩

theorem pad_apart : '=' ∉ alphabet := by decide

theorem symbol_not_pad {n : Nat} (small : n < 64) : symbol n ≠ '=' := by
  intro same
  exact pad_apart (same ▸ symbol_among small)

theorem sextet_some {c : Char} {n : Nat} (read : sextet c = some n) : n < 64 ∧ c = symbol n := by
  have self : ∀ m, m = c.toNat → Char.ofNat m = c := by
    rintro _ rfl
    exact Char.ofNat_toNat c
  simp only [sextet] at read
  split at read
  · cases read
    refine ⟨by omega, ?_⟩
    rw [symbol, if_pos (by omega), self _ (by omega)]
  · split at read
    · cases read
      refine ⟨by omega, ?_⟩
      rw [symbol, if_neg (by omega), if_pos (by omega), self _ (by omega)]
    · split at read
      · cases read
        refine ⟨by omega, ?_⟩
        rw [symbol, if_neg (by omega), if_neg (by omega), if_pos (by omega), self _ (by omega)]
      · split at read
        · cases read
          rename_i plus
          exact ⟨by decide, (self 43 plus.symm).symm⟩
        · split at read
          · cases read
            rename_i slash
            exact ⟨by decide, (self 47 slash.symm).symm⟩
          · cases read

-- The bits of the symbols, each by its place in the alphabet, and those of the bytes. No other
-- character is there but padding, and what the padding makes up for is zero.
structure Encodes (text : List Char) (raw : List UInt8) (body : List Char) (padding : Nat) : Prop where
  parts : text = body ++ List.replicate padding '='
  symbols : ∀ c ∈ body, c ∈ alphabet
  whole : 4 ∣ text.length
  short : padding ≤ 2
  bits : body.flatMap (fun c => bits 6 (alphabet.idxOf c)) =
    raw.flatMap (fun b => bits 8 b.toNat) ++ List.replicate (2 * padding) false

def IsEncoding (text : List Char) (raw : List UInt8) : Prop :=
  ∃ body padding, Encodes text raw body padding

section

variable {i j k l a b c : Nat}

-- Four symbols hold the bits of three bytes.
theorem group_bits (hi : i < 64) (hj : j < 64) (hk : k < 64) (hl : l < 64)
    (ha : a < 256) (hb : b < 256) (hc : c < 256) :
    bits 6 i ++ (bits 6 j ++ (bits 6 k ++ bits 6 l)) = bits 8 a ++ (bits 8 b ++ bits 8 c) ↔
      i = a / 4 ∧ j = a % 4 * 16 + b / 16 ∧ k = b % 16 * 4 + c / 64 ∧ l = c % 64 := by
  simp only [← List.append_assoc]
  rw [bits_append 6 6 i hj, bits_append 12 6 _ hk, bits_append 18 6 _ hl,
    bits_append 8 8 a hb, bits_append 16 8 _ hc]
  constructor
  · intro same
    have number := bits_inj (by omega) (by omega) same
    omega
  · rintro ⟨rfl, rfl, rfl, rfl⟩
    exact congrArg (bits 24) (by omega)

theorem pair_bits (hi : i < 64) (hj : j < 64) (ha : a < 256) :
    bits 6 i ++ bits 6 j = bits 8 a ++ List.replicate 4 false ↔ i = a / 4 ∧ j = a % 4 * 16 := by
  rw [bits_append 6 6 i hj, bits_closed 8 4]
  constructor
  · intro same
    have number := bits_inj (by omega) (by omega) same
    omega
  · rintro ⟨rfl, rfl⟩
    exact congrArg (bits 12) (by omega)

theorem triple_bits (hi : i < 64) (hj : j < 64) (hk : k < 64) (ha : a < 256) (hb : b < 256) :
    bits 6 i ++ (bits 6 j ++ bits 6 k) = bits 8 a ++ (bits 8 b ++ List.replicate 2 false) ↔
      i = a / 4 ∧ j = a % 4 * 16 + b / 16 ∧ k = b % 16 * 4 := by
  simp only [← List.append_assoc]
  rw [bits_append 6 6 i hj, bits_append 12 6 _ hk, bits_append 8 8 a hb, bits_closed 16 2]
  constructor
  · intro same
    have number := bits_inj (by omega) (by omega) same
    omega
  · rintro ⟨rfl, rfl, rfl⟩
    exact congrArg (bits 18) (by omega)

end

theorem encode_encodes (raw : List UInt8) : IsEncoding (encode raw) raw := by
  induction raw using encode.induct with
  | case1 => exact ⟨[], 0, rfl, by simp, by simp [encode], by simp, rfl⟩
  | case2 a =>
      have ha := a.toNat_lt
      have hi : a.toNat / 4 < 64 := by omega
      have hj : a.toNat % 4 * 16 < 64 := by omega
      refine ⟨[symbol _, symbol _], 2, rfl, ?_, by simp [encode], by simp, ?_⟩
      · simp [symbol_among, hi, hj]
      · simpa [idxOf_symbol, hi, hj] using (pair_bits hi hj ha).mpr ⟨rfl, rfl⟩
  | case3 a b =>
      have ha := a.toNat_lt
      have hb := b.toNat_lt
      have hi : a.toNat / 4 < 64 := by omega
      have hj : a.toNat % 4 * 16 + b.toNat / 16 < 64 := by omega
      have hk : b.toNat % 16 * 4 < 64 := by omega
      refine ⟨[symbol _, symbol _, symbol _], 1, rfl, ?_, by simp [encode], by simp, ?_⟩
      · simp [symbol_among, hi, hj, hk]
      · simpa [idxOf_symbol, hi, hj, hk] using (triple_bits hi hj hk ha hb).mpr ⟨rfl, rfl, rfl⟩
  | case4 a b c rest ih =>
      have ha := a.toNat_lt
      have hb := b.toNat_lt
      have hc := c.toNat_lt
      have hi : a.toNat / 4 < 64 := by omega
      have hj : a.toNat % 4 * 16 + b.toNat / 16 < 64 := by omega
      have hk : b.toNat % 16 * 4 + c.toNat / 64 < 64 := by omega
      have hl : c.toNat % 64 < 64 := by omega
      obtain ⟨body, padding, later⟩ := ih
      have group := (group_bits hi hj hk hl ha hb hc).mpr ⟨rfl, rfl, rfl, rfl⟩
      refine ⟨encode [a, b, c] ++ body, padding, ?_, ?_, ?_, later.short, ?_⟩
      · rw [encode, later.parts]
        rfl
      · simpa [encode, symbol_among, hi, hj, hk, hl] using later.symbols
      · have longer : (encode (a :: b :: c :: rest)).length = (encode rest).length + 4 := rfl
        exact longer ▸ Nat.dvd_add later.whole (Nat.dvd_refl 4)
      · simp only [encode, List.cons_append, List.nil_append, List.flatMap_cons, idxOf_symbol _ hi,
          idxOf_symbol _ hj, idxOf_symbol _ hk, idxOf_symbol _ hl, later.bits]
        simp only [← List.append_assoc] at group ⊢
        rw [group]

-- How many symbols there are.
theorem encodes_length {text body : List Char} {raw : List UInt8} {padding : Nat}
    (encodes : Encodes text raw body padding) : 6 * body.length = 8 * raw.length + 2 * padding := by
  have same := congrArg List.length encodes.bits
  simp only [List.length_append, List.length_flatMap, bits_length, List.map_const', List.sum_replicate_nat,
    List.length_replicate] at same
  omega

theorem encodes_four {text body : List Char} {raw : List UInt8} {padding : Nat}
    (encodes : Encodes text raw body padding) : 4 ∣ body.length + padding := by
  simpa [encodes.parts] using encodes.whole

theorem four_front {cs : List Char} (long : 4 ≤ cs.length) :
    ∃ p q r s more, cs = p :: q :: r :: s :: more := by
  match cs, long with
  | p :: q :: r :: s :: more, _ => exact ⟨p, q, r, s, more, rfl⟩

theorem encodes_none {text body : List Char} {padding : Nat} (encodes : Encodes text [] body padding) :
    text = encode [] := by
  have size := encodes_length encodes
  have four := encodes_four encodes
  have short := encodes.short
  simp only [List.length_nil] at size
  obtain ⟨rfl, none⟩ : padding = 0 ∧ body.length = 0 := by omega
  rw [encodes.parts, List.length_eq_zero_iff.mp none]
  rfl

theorem encodes_one {text body : List Char} {a : UInt8} {padding : Nat}
    (encodes : Encodes text [a] body padding) : text = encode [a] := by
  have size := encodes_length encodes
  have four := encodes_four encodes
  have short := encodes.short
  simp only [List.length_singleton] at size
  obtain ⟨rfl, two⟩ : padding = 2 ∧ body.length = 2 := by omega
  obtain ⟨p, q, rfl⟩ := List.length_eq_two.mp two
  have symbols := encodes.symbols
  simp only [List.mem_cons, List.not_mem_nil, or_false, forall_eq_or_imp, forall_eq] at symbols
  obtain ⟨⟨i, hi, rfl⟩, j, hj, rfl⟩ := symbols.imp among_symbol among_symbol
  have pair := encodes.bits
  simp only [List.flatMap_cons, List.flatMap_nil, List.append_nil, idxOf_symbol _ hi,
    idxOf_symbol _ hj] at pair
  obtain ⟨rfl, rfl⟩ := (pair_bits hi hj a.toNat_lt).mp pair
  exact encodes.parts

theorem encodes_two {text body : List Char} {a b : UInt8} {padding : Nat}
    (encodes : Encodes text [a, b] body padding) : text = encode [a, b] := by
  have size := encodes_length encodes
  have four := encodes_four encodes
  have short := encodes.short
  simp only [List.length_cons, List.length_nil] at size
  obtain ⟨rfl, three⟩ : padding = 1 ∧ body.length = 3 := by omega
  obtain ⟨p, q, r, rfl⟩ := List.length_eq_three.mp three
  have symbols := encodes.symbols
  simp only [List.mem_cons, List.not_mem_nil, or_false, forall_eq_or_imp, forall_eq] at symbols
  obtain ⟨first, second, third⟩ := symbols
  obtain ⟨i, hi, rfl⟩ := among_symbol first
  obtain ⟨j, hj, rfl⟩ := among_symbol second
  obtain ⟨k, hk, rfl⟩ := among_symbol third
  have triple := encodes.bits
  simp only [List.flatMap_cons, List.flatMap_nil, List.append_nil, idxOf_symbol _ hi,
    idxOf_symbol _ hj, idxOf_symbol _ hk, List.append_assoc] at triple
  obtain ⟨rfl, rfl, rfl⟩ := (triple_bits hi hj hk a.toNat_lt b.toNat_lt).mp triple
  exact encodes.parts

-- Three bytes make a group of their own, and the padding belongs to what is left.
theorem encodes_group {text body : List Char} {a b c : UInt8} {rest : List UInt8} {padding : Nat}
    (encodes : Encodes text (a :: b :: c :: rest) body padding) : ∃ more,
      text = encode [a, b, c] ++ (more ++ List.replicate padding '=') ∧
        Encodes (more ++ List.replicate padding '=') rest more padding := by
  have size := encodes_length encodes
  have four := encodes_four encodes
  have short := encodes.short
  simp only [List.length_cons] at size
  obtain ⟨p, q, r, s, more, rfl⟩ := four_front (by omega : 4 ≤ body.length)
  have symbols := encodes.symbols
  simp only [List.mem_cons, forall_eq_or_imp] at symbols
  obtain ⟨first, second, third, fourth, symbols⟩ := symbols
  obtain ⟨i, hi, rfl⟩ := among_symbol first
  obtain ⟨j, hj, rfl⟩ := among_symbol second
  obtain ⟨k, hk, rfl⟩ := among_symbol third
  obtain ⟨l, hl, rfl⟩ := among_symbol fourth
  have all : (bits 6 i ++ (bits 6 j ++ (bits 6 k ++ bits 6 l))) ++
        more.flatMap (fun c => bits 6 (alphabet.idxOf c)) =
      (bits 8 a.toNat ++ (bits 8 b.toNat ++ bits 8 c.toNat)) ++
        (rest.flatMap (fun b => bits 8 b.toNat) ++ List.replicate (2 * padding) false) := by
    simpa [idxOf_symbol, hi, hj, hk, hl] using encodes.bits
  obtain ⟨group, later⟩ := List.append_inj all (by simp)
  obtain ⟨rfl, rfl, rfl, rfl⟩ := (group_bits hi hj hk hl a.toNat_lt b.toNat_lt c.toNat_lt).mp group
  have whole : 4 ∣ more.length + padding := by
    simp only [List.length_cons] at four
    omega
  exact ⟨more, encodes.parts, rfl, symbols, by simpa using whole, short, later⟩

theorem encodes_encode {text body : List Char} {raw : List UInt8} {padding : Nat}
    (encodes : Encodes text raw body padding) : text = encode raw := by
  induction raw using encode.induct generalizing text body with
  | case1 => exact encodes_none encodes
  | case2 a => exact encodes_one encodes
  | case3 a b => exact encodes_two encodes
  | case4 a b c rest ih =>
      obtain ⟨more, same, later⟩ := encodes_group encodes
      rw [same, ih later]
      rfl

theorem isEncoding_iff {text : List Char} {raw : List UInt8} : IsEncoding text raw ↔ text = encode raw := by
  constructor
  · rintro ⟨body, padding, encodes⟩
    exact encodes_encode encodes
  · rintro rfl
    exact encode_encodes raw

theorem byte_ofNat (b : UInt8) {n : Nat} (same : n = b.toNat) : UInt8.ofNat n = b := by
  rw [same, UInt8.ofNat_toNat]

theorem byte_toNat {n : Nat} (small : n < 256) : (UInt8.ofNat n).toNat = n :=
  UInt8.toNat_ofNat_of_lt small

theorem decode_encode (raw : List UInt8) : decode (encode raw) = some raw := by
  induction raw using encode.induct with
  | case1 => rfl
  | case2 a =>
      have ha := a.toNat_lt
      have i := sextet_symbol (a.toNat / 4) (by omega)
      have j := sextet_symbol (a.toNat % 4 * 16) (by omega)
      rw [encode, decode]
      simp only [i, j, Option.bind_eq_bind, Option.bind_some]
      rw [if_pos (by omega), byte_ofNat a (by omega)]
  | case3 a b =>
      have ha := a.toNat_lt
      have hb := b.toNat_lt
      have i := sextet_symbol (a.toNat / 4) (by omega)
      have j := sextet_symbol (a.toNat % 4 * 16 + b.toNat / 16) (by omega)
      have k := sextet_symbol (b.toNat % 16 * 4) (by omega)
      rw [encode, decode.eq_3 _ _ _ (symbol_not_pad (by omega))]
      simp only [i, j, k, Option.bind_eq_bind, Option.bind_some]
      rw [if_pos (by omega), byte_ofNat a (by omega), byte_ofNat b (by omega)]
  | case4 a b c rest ih =>
      have ha := a.toNat_lt
      have hb := b.toNat_lt
      have hc := c.toNat_lt
      have i := sextet_symbol (a.toNat / 4) (by omega)
      have j := sextet_symbol (a.toNat % 4 * 16 + b.toNat / 16) (by omega)
      have k := sextet_symbol (b.toNat % 16 * 4 + c.toNat / 64) (by omega)
      have l := sextet_symbol (c.toNat % 64) (by omega)
      have last : symbol (c.toNat % 64) ≠ '=' := symbol_not_pad (by omega)
      rw [encode, decode.eq_4 _ _ _ _ _ (fun _ pad _ => last pad) fun pad _ => last pad]
      simp only [i, j, k, l, ih, Option.bind_eq_bind, Option.bind_some]
      rw [byte_ofNat a (by omega), byte_ofNat b (by omega), byte_ofNat c (by omega)]

theorem decode_some {text : List Char} {raw : List UInt8} (read : decode text = some raw) :
    text = encode raw := by
  induction text using decode.induct generalizing raw with
  | case1 =>
      cases read
      rfl
  | case2 p q =>
      simp only [decode, Option.bind_eq_bind, Option.bind_eq_some_iff, Option.ite_none_right_eq_some,
        Option.some.injEq] at read
      obtain ⟨i, first, j, second, spare, rfl⟩ := read
      obtain ⟨hi, rfl⟩ := sextet_some first
      obtain ⟨hj, rfl⟩ := sextet_some second
      rw [encode, byte_toNat (by omega)]
      have one : (i * 4 + j / 16) / 4 = i := by omega
      have two : (i * 4 + j / 16) % 4 * 16 = j := by omega
      rw [one, two]
  | case3 p q r unpadded =>
      rw [decode.eq_3 p q r unpadded] at read
      simp only [Option.bind_eq_bind, Option.bind_eq_some_iff, Option.ite_none_right_eq_some,
        Option.some.injEq] at read
      obtain ⟨i, first, j, second, k, third, spare, rfl⟩ := read
      obtain ⟨hi, rfl⟩ := sextet_some first
      obtain ⟨hj, rfl⟩ := sextet_some second
      obtain ⟨hk, rfl⟩ := sextet_some third
      rw [encode, byte_toNat (by omega), byte_toNat (by omega)]
      have one : (i * 4 + j / 16) / 4 = i := by omega
      have two : (i * 4 + j / 16) % 4 * 16 + (j % 16 * 16 + k / 4) / 16 = j := by omega
      have three : (j % 16 * 16 + k / 4) % 16 * 4 = k := by omega
      rw [one, two, three]
  | case4 p q r s rest pair last ih =>
      rw [decode.eq_4 p q r s rest pair last] at read
      simp only [Option.bind_eq_bind, Option.bind_eq_some_iff, Option.some.injEq] at read
      obtain ⟨i, first, j, second, k, third, l, fourth, tail, later, rfl⟩ := read
      obtain ⟨hi, rfl⟩ := sextet_some first
      obtain ⟨hj, rfl⟩ := sextet_some second
      obtain ⟨hk, rfl⟩ := sextet_some third
      obtain ⟨hl, rfl⟩ := sextet_some fourth
      rw [encode, ih later, byte_toNat (by omega), byte_toNat (by omega), byte_toNat (by omega)]
      have one : (i * 4 + j / 16) / 4 = i := by omega
      have two : (i * 4 + j / 16) % 4 * 16 + (j % 16 * 16 + k / 4) / 16 = j := by omega
      have three : (j % 16 * 16 + k / 4) % 16 * 4 + (k % 4 * 64 + l) / 64 = k := by omega
      have four : (k % 4 * 64 + l) % 64 = l := by omega
      rw [one, two, three, four]
  | case5 text empty pair triple group =>
      rw [decode.eq_5 text empty pair triple group] at read
      cases read

theorem decode_iff {text : List Char} {raw : List UInt8} :
    decode text = some raw ↔ IsEncoding text raw := by
  rw [isEncoding_iff]
  constructor
  · exact decode_some
  · rintro rfl
    exact decode_encode raw

-- A text stands for one list of bytes at most.
theorem isEncoding_unique {text : List Char} {raw other : List UInt8} (one : IsEncoding text raw)
    (two : IsEncoding text other) : other = raw := by
  have same := (decode_iff.mpr two).symm.trans (decode_iff.mpr one)
  exact Option.some.inj same

theorem encodeUnpadded_encodes (raw : List UInt8) :
    ∃ padding, Encodes (encode raw) raw (encodeUnpadded raw) padding := by
  obtain ⟨body, padding, encodes⟩ := encode_encodes raw
  have kept : body.filter (· ≠ '=') = body := by
    rw [List.filter_eq_self]
    intro c among
    have apart : c ≠ '=' := fun pad => pad_apart (pad ▸ encodes.symbols c among)
    simpa using apart
  have unpadded : encodeUnpadded raw = body := by
    rw [encodeUnpadded, encodes.parts, List.filter_append, kept]
    simp
  exact ⟨padding, unpadded ▸ encodes⟩

end LinkedKeys.Digest.Base64

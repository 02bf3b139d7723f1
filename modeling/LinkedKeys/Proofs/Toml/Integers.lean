import LinkedKeys.Proofs.Text.Lines
import LinkedKeys.Toml.Scalar
import Mathlib.Data.List.TakeWhile

namespace LinkedKeys.Toml

open Scalar (isDigit least greatest)

inductive Spaced (kind : Char → Bool) : List Char → List Char → Prop where
  | single {c : Char} (digit : kind c = true) : Spaced kind [c] [c]
  | next {c : Char} {digits written : List Char} (digit : kind c = true)
      (rest : Spaced kind digits written) : Spaced kind (c :: digits) (c :: written)
  | apart {c : Char} {digits written : List Char} (digit : kind c = true)
      (rest : Spaced kind digits written) : Spaced kind (c :: digits) (c :: '_' :: written)

inductive Sign : Int → List Char → Prop where
  | none : Sign 1 []
  | plus : Sign 1 ['+']
  | minus : Sign (-1) ['-']

-- The letters of the bases, and the digits that each of them has.
inductive Based : Nat → (Char → Bool) → Char → Prop where
  | hexadecimal : Based 16 (fun c => (Text.hexDigit c).isSome) 'x'
  | octal : Based 8 (fun c => isDigit c && c.toNat ≤ 55) 'o'
  | binary : Based 2 (fun c => isDigit c && c.toNat ≤ 49) 'b'

inductive Integer : Int → List Char → Prop where
  | decimal {factor : Int} {sign digits written : List Char} (signed : Sign factor sign)
      (spaced : Spaced isDigit digits written) (unpadded : written.head? = some '0' → written = ['0'])
      (low : least ≤ factor * Scalar.value 10 digits) (high : factor * Scalar.value 10 digits ≤ greatest) :
      Integer (factor * Scalar.value 10 digits) (sign ++ written)
  | based {base : Nat} {kind : Char → Bool} {letter : Char} {digits written : List Char}
      (based : Based base kind letter) (spaced : Spaced kind digits written)
      (high : (Scalar.value base digits : Int) ≤ greatest) :
      Integer (Scalar.value base digits) ('0' :: letter :: written)

variable {kind : Char → Bool} {cs digits written rest : List Char} {n : Int}

theorem spaced_head (spaced : Spaced kind digits written) :
    ∃ c later, kind c = true ∧ written = c :: later := by
  cases spaced with
  | single digit => exact ⟨_, _, digit, rfl⟩
  | next digit => exact ⟨_, _, digit, rfl⟩
  | apart digit => exact ⟨_, _, digit, rfl⟩

theorem spaced_iff (unmarked : kind '_' = false) :
    Scalar.spaced kind cs = some digits ↔ Spaced kind digits cs := by
  constructor
  · intro reads
    fun_induction Scalar.spaced kind cs generalizing digits with
    | case1 => cases reads
    | case2 c digit =>
        cases reads
        exact .single digit
    | case3 => cases reads
    | case4 => cases reads
    | case5 c rest digit ih =>
        obtain ⟨later, read, rfl⟩ := Option.map_eq_some_iff.mp reads
        exact .apart (by simpa using digit) (ih read)
    | case6 c d rest digit mark ih =>
        obtain ⟨later, read, rfl⟩ := Option.map_eq_some_iff.mp reads
        exact .next (by simpa using digit) (ih read)
  · intro spaced
    induction spaced with
    | single digit => rw [Scalar.spaced, if_pos digit]
    | next digit later ih =>
        obtain ⟨d, more, among, rfl⟩ := spaced_head later
        have unlike : d ≠ '_' := by
          rintro rfl
          cases unmarked.symm.trans among
        rw [Scalar.spaced, if_neg (by simp [digit]), if_neg unlike, ih]
        rfl
    | apart digit later ih =>
        rw [Scalar.spaced, if_neg (by simp [digit]), if_pos rfl, ih]
        rfl

theorem whole_iff : Scalar.whole cs = some digits ↔
    Spaced isDigit digits cs ∧ (cs.head? = some '0' → cs = ['0']) := by
  have padded : (cs.head? = some '0' ∧ 1 < cs.length) ↔ ¬(cs.head? = some '0' → cs = ['0']) := by
    rcases cs with _ | ⟨c, _ | ⟨d, cs⟩⟩ <;> simp
  rw [Scalar.whole, ← spaced_iff rfl]
  constructor
  · intro reads
    obtain ⟨found, spaced, kept⟩ := Option.bind_eq_some_iff.mp reads
    obtain ⟨unpadded, same⟩ := Option.ite_none_left_eq_some.mp kept
    cases same
    exact ⟨spaced, not_not.mp (mt padded.mpr unpadded)⟩
  · rintro ⟨spaced, unpadded⟩
    refine Option.bind_eq_some_iff.mpr ⟨digits, spaced, if_neg ?_⟩
    exact fun bad => padded.mp bad unpadded

theorem inRange_iff {m : Int} : Scalar.inRange m = some n ↔ n = m ∧ least ≤ m ∧ m ≤ greatest := by
  rw [Scalar.inRange, Option.ite_none_right_eq_some, Option.some.injEq]
  exact ⟨fun ⟨fits, same⟩ => ⟨same.symm, fits⟩, fun ⟨same, fits⟩ => ⟨fits, same.symm⟩⟩

theorem inBase_iff {base : Nat} (unmarked : kind '_' = false) :
    Scalar.inBase base kind cs = some n ↔ ∃ digits, Spaced kind digits cs ∧
      n = Scalar.value base digits ∧ (Scalar.value base digits : Int) ≤ greatest := by
  have positive : ∀ size : Nat, least ≤ (size : Int) := by
    intro size
    rw [least]
    omega
  simp only [Scalar.inBase, Option.bind_eq_bind, Option.bind_eq_some_iff, spaced_iff unmarked,
    inRange_iff]
  simp [positive]

def signOf : Option Bool → Int
  | some true => -1
  | _ => 1

theorem signed_some {body : List Char} {sign : Option Bool}
    (reads : Scalar.signed cs = (sign, body)) :
    ∃ front, Sign (signOf sign) front ∧ cs = front ++ body := by
  rw [Scalar.signed.eq_def] at reads
  split at reads
  · cases reads
    exact ⟨_, .plus, rfl⟩
  · cases reads
    exact ⟨_, .minus, rfl⟩
  · cases reads
    exact ⟨_, .none, rfl⟩

theorem signed_read {factor : Int} {sign body : List Char} (signed : Sign factor sign)
    (spaced : Spaced isDigit digits body) :
    ∃ mark, Scalar.signed (sign ++ body) = (mark, body) ∧ signOf mark = factor := by
  obtain ⟨c, later, digit, rfl⟩ := spaced_head spaced
  cases signed with
  | none =>
      refine ⟨Option.none, ?_, rfl⟩
      rw [List.nil_append, Scalar.signed.eq_def]
      split
      · rename_i same
        cases same
        exact absurd digit (by decide)
      · rename_i same
        cases same
        exact absurd digit (by decide)
      · rfl
  | plus => exact ⟨_, rfl, rfl⟩
  | minus => exact ⟨_, rfl, rfl⟩

theorem sized (sign : Option Bool) (size : Nat) :
    (if sign = some true then -(size : Int) else size) = signOf sign * size := by
  rcases sign with _ | _ | _ <;> simp [signOf]

-- A number that is padded with no zero is not taken for one with the letter of a base.
theorem decimal_letter {factor : Int} {sign later : List Char} {letter : Char}
    (signed : Sign factor sign) (unpadded : written.head? = some '0' → written = ['0']) :
    sign ++ written ≠ '0' :: letter :: later := by
  intro same
  cases signed with
  | none =>
      have zero := unpadded (by rw [List.nil_append] at same; rw [same]; rfl)
      rw [zero] at same
      cases same
  | plus => cases same
  | minus => cases same

theorem integer_iff : Scalar.integer cs = some n ↔ Integer n cs := by
  constructor
  · intro reads
    rw [Scalar.integer.eq_def] at reads
    split at reads
    · obtain ⟨digits, spaced, rfl, high⟩ := (inBase_iff rfl).mp reads
      exact .based .hexadecimal spaced high
    · obtain ⟨digits, spaced, rfl, high⟩ := (inBase_iff rfl).mp reads
      exact .based .octal spaced high
    · obtain ⟨digits, spaced, rfl, high⟩ := (inBase_iff rfl).mp reads
      exact .based .binary spaced high
    · cases parts : Scalar.signed cs with
      | mk sign body =>
          obtain ⟨front, signed, rfl⟩ := signed_some parts
          rw [parts] at reads
          obtain ⟨digits, read, fits⟩ := Option.bind_eq_some_iff.mp reads
          obtain ⟨spaced, unpadded⟩ := whole_iff.mp read
          dsimp only at fits
          rw [sized] at fits
          obtain ⟨rfl, low, high⟩ := inRange_iff.mp fits
          exact .decimal signed spaced unpadded low high
  · intro spelled
    cases spelled with
    | based base spaced high =>
        cases base with
        | hexadecimal =>
            rw [Scalar.integer]
            exact (inBase_iff rfl).mpr ⟨_, spaced, rfl, high⟩
        | octal =>
            rw [Scalar.integer]
            exact (inBase_iff rfl).mpr ⟨_, spaced, rfl, high⟩
        | binary =>
            rw [Scalar.integer]
            exact (inBase_iff rfl).mpr ⟨_, spaced, rfl, high⟩
    | decimal signed spaced unpadded low high =>
        rw [Scalar.integer.eq_def]
        split
        · exact absurd ‹_› (decimal_letter signed unpadded)
        · exact absurd ‹_› (decimal_letter signed unpadded)
        · exact absurd ‹_› (decimal_letter signed unpadded)
        · obtain ⟨mark, parts, rfl⟩ := signed_read signed spaced
          rw [parts]
          refine Option.bind_eq_some_iff.mpr ⟨_, whole_iff.mpr ⟨spaced, unpadded⟩, ?_⟩
          dsimp only
          rw [sized]
          exact inRange_iff.mpr ⟨rfl, low, high⟩

theorem cut_append (cs : List Char) : (Scalar.cut cs).1 ++ (Scalar.cut cs).2 = cs := by
  rw [Scalar.cut]
  dsimp only
  split
  · rename_i day c more _ behind
    split
    · rw [List.append_assoc, List.cons_append, Text.takeWhile_append_drop, ← behind, Text.takeWhile_append_drop]
    · rw [Text.takeWhile_append_drop]
  · exact Text.takeWhile_append_drop _ cs

theorem scalar_integer (reads : Scalar.read cs = some (.integer n, rest)) :
    ∃ written, Integer n written ∧ cs = written ++ rest := by
  obtain ⟨given, read, same⟩ := Option.map_eq_some_iff.mp reads
  cases same
  refine ⟨(Scalar.cut cs).1, ?_, (cut_append cs).symm⟩
  rw [Scalar.ofText] at read
  split at read
  · cases read
  split at read
  · cases read
  split at read
  · rename_i found
    cases read
    exact integer_iff.mp found
  split at read
  · cases read
  · obtain ⟨_, _, same⟩ := Option.map_eq_some_iff.mp read
    cases same

theorem spaced_chars (spaced : Spaced kind digits written) :
    ∀ c ∈ written, kind c = true ∨ c = '_' := by
  induction spaced with
  | single digit =>
      intro c among
      rw [List.mem_singleton.mp among]
      exact .inl digit
  | next digit later ih => exact List.forall_mem_cons.mpr ⟨.inl digit, ih⟩
  | apart digit later ih =>
      exact List.forall_mem_cons.mpr ⟨.inl digit, List.forall_mem_cons.mpr ⟨.inr rfl, ih⟩⟩

theorem hexDigit_alphanum {c : Char} (digit : (Text.hexDigit c).isSome = true) :
    c.isAlphanum = true := by
  have each : ∀ n < 103, (Text.hexDigit (Char.ofNat n)).isSome = true →
      (Char.ofNat n).isAlphanum = true := by decide
  have small : c.toNat < 103 := by
    simp only [Text.hexDigit] at digit
    split at digit
    · omega
    split at digit
    · omega
    split at digit
    · omega
    · cases digit
  rw [← Char.ofNat_toNat c] at digit ⊢
  exact each c.toNat small digit

theorem isDigit_hexDigit {c : Char} (digit : isDigit c = true) : (Text.hexDigit c).isSome = true := by
  have range : 48 ≤ c.toNat ∧ c.toNat ≤ 57 := by simpa [isDigit] using digit
  simp only [Text.hexDigit]
  rw [if_pos range]
  rfl

theorem based_hexDigit {base : Nat} {letter c : Char} (based : Based base kind letter)
    (digit : kind c = true) : (Text.hexDigit c).isSome = true := by
  cases based with
  | hexadecimal => exact digit
  | octal | binary => exact isDigit_hexDigit (Bool.and_eq_true_iff.mp digit).1

theorem spaced_scalar (sort : ∀ c, kind c = true → (Text.hexDigit c).isSome = true)
    (spaced : Spaced kind digits written) :
    ∀ c ∈ written, Scalar.isScalarChar c = true ∧ c ≠ '-' := by
  intro c among
  rcases spaced_chars spaced c among with digit | rfl
  · constructor
    · simp [Scalar.isScalarChar, hexDigit_alphanum (sort c digit)]
    · rintro rfl
      cases sort _ digit
  · decide

theorem integer_chars (spelled : Integer n written) :
    (∀ c ∈ written, Scalar.isScalarChar c = true) ∧ '-' ∉ written.tail := by
  cases spelled with
  | @decimal factor sign digits written signed spaced =>
      have chars := spaced_scalar (fun _ => isDigit_hexDigit) spaced
      have undashed : '-' ∉ written := fun among => (chars _ among).2 rfl
      cases signed with
      | none => exact ⟨fun c among => (chars c among).1, fun among => undashed (List.mem_of_mem_tail among)⟩
      | plus | minus =>
          exact ⟨List.forall_mem_cons.mpr ⟨by decide, fun c among => (chars c among).1⟩, undashed⟩
  | @based base kind letter digits written based spaced =>
      have chars := spaced_scalar (fun _ => based_hexDigit based) spaced
      have sort : Scalar.isScalarChar letter = true ∧ letter ≠ '-' := by
        cases based <;> decide
      refine ⟨List.forall_mem_cons.mpr ⟨by decide, List.forall_mem_cons.mpr ⟨sort.1, ?_⟩⟩, ?_⟩
      · exact fun c among => (chars c among).1
      · rintro (_ | ⟨_, among⟩)
        · exact sort.2 rfl
        · exact (chars _ among).2 rfl

-- A date has a dash behind its year.
theorem date_dashed {day : Date} (reads : Scalar.date cs = some (day, rest)) : '-' ∈ cs.tail := by
  obtain ⟨⟨year, behind⟩, four, dashed⟩ := Option.bind_eq_some_iff.mp reads
  obtain ⟨later, expected, -⟩ := Option.bind_eq_some_iff.mp dashed
  have same : cs.tail.drop 3 = behind := by
    simp only [Scalar.counted, Option.ite_none_right_eq_some, Option.some.injEq] at four
    rw [← List.drop_one, List.drop_drop]
    exact congrArg Prod.snd four.2
  apply List.mem_of_mem_drop (i := 3)
  rw [same]
  cases behind with
  | nil => cases expected
  | cons d behind =>
      obtain ⟨mark, -⟩ := Option.ite_none_right_eq_some.mp expected
      rw [← mark]
      exact List.mem_cons_self

theorem integer_scalar (spelled : Integer n written)
    (ends : ∀ c, rest.head? = some c → Scalar.isScalarChar c = false) :
    Scalar.read (written ++ rest) = some (.integer n, rest) := by
  obtain ⟨chars, undashed⟩ := integer_chars spelled
  have front := (Text.span_front chars ends).1
  have parts : Scalar.cut (written ++ rest) = (written, rest) := by
    rw [Scalar.cut, front]
    dsimp only
    rw [List.drop_left]
    split
    · rename_i dated
      exact absurd (date_dashed dated) undashed
    · rfl
  have read := integer_iff.mpr spelled
  have yes : written ≠ ['t', 'r', 'u', 'e'] := by
    rintro rfl
    cases read
  have no : written ≠ ['f', 'a', 'l', 's', 'e'] := by
    rintro rfl
    cases read
  rw [Scalar.read, parts, Scalar.ofText, if_neg yes, if_neg no, read]
  rfl

end LinkedKeys.Toml

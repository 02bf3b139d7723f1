import LinkedKeys.Proofs.Control.Courses
import LinkedKeys.Proofs.Text.Lines

namespace LinkedKeys.Control

-- A name is cleaned of blanks on both sides before it is looked at.
def cleaned (text : String) : String := String.ofList (Text.trim text.toList)

-- A letter or digit of English, a dot, an underscore or a hyphen.
def IsNameChar (c : Char) : Prop :=
  'A' ≤ c ∧ c ≤ 'Z' ∨ 'a' ≤ c ∧ c ≤ 'z' ∨ '0' ≤ c ∧ c ≤ '9' ∨ c = '.' ∨ c = '_' ∨ c = '-'

-- Made of such characters, with neither a dot nor a hyphen in front.
structure IsName (name : String) : Prop where
  named : name ≠ ""
  chars : ∀ c ∈ name.toList, IsNameChar c
  dot : name.toList.head? ≠ some '.'
  hyphen : name.toList.head? ≠ some '-'

-- Letters and digits by their ranges.
theorem alphanum_ranges (c : Char) : c.isAlphanum =
    ((decide (c.val ≥ 'A'.val ∧ c.val ≤ 'Z'.val) ||
        (decide (c.val ≥ 'a'.val) && decide (c.val ≤ 'z'.val))) ||
      (decide (c.val ≥ '0'.val) && decide (c.val ≤ '9'.val))) := rfl

theorem later_iff (c : Char) : Username.isLater c = true ↔ IsNameChar c := by
  simp only [Username.isLater, Username.isFirst, alphanum_ranges, Bool.or_eq_true, Bool.and_eq_true,
    decide_eq_true_eq, beq_iff_eq, IsNameChar, Char.le_def, ge_iff_le]
  tauto

theorem first_iff (c : Char) : Username.isFirst c = true ↔ IsNameChar c ∧ c ≠ '.' ∧ c ≠ '-' := by
  rw [← later_iff]
  constructor
  · intro first
    refine ⟨by simp [Username.isLater, first], ?_, ?_⟩
    · rintro rfl
      exact absurd first (by decide)
    · rintro rfl
      exact absurd first (by decide)
  · rintro ⟨later, dot, hyphen⟩
    simpa [Username.isLater, dot, hyphen] using later

theorem valid_iff (name : String) : Username.isValid name = true ↔ IsName name := by
  unfold Username.isValid
  cases cut : name.toList with
  | nil =>
      have bare : name = "" := by simpa using cut
      exact ⟨nofun, fun is => absurd bare is.named⟩
  | cons c cs =>
      simp only [Bool.and_eq_true, List.all_eq_true, first_iff, later_iff]
      constructor
      · rintro ⟨⟨first, dot, hyphen⟩, later⟩
        refine ⟨?_, ?_, ?_, ?_⟩
        · rintro rfl
          cases cut
        · simpa [cut, first] using later
        · simpa [cut] using dot
        · simpa [cut] using hyphen
      · intro is
        have chars := is.chars
        have dot := is.dot
        have hyphen := is.hyphen
        simp only [cut, List.mem_cons, forall_eq_or_imp, List.head?_cons, ne_eq, Option.some.injEq]
          at chars dot hyphen
        exact ⟨⟨chars.1, dot, hyphen⟩, chars.2⟩

theorem nameChar_code {c : Char} (is : IsNameChar c) : 45 ≤ c.toNat ∧ c.toNat ≤ 122 := by
  simp only [IsNameChar, Char.le_def, UInt32.le_iff_toNat_le] at is
  change 65 ≤ c.toNat ∧ c.toNat ≤ 90 ∨ 97 ≤ c.toNat ∧ c.toNat ≤ 122 ∨ 48 ≤ c.toNat ∧ c.toNat ≤ 57 ∨ _
    at is
  rcases is with upper | lower | digit | rfl | rfl | rfl
  · omega
  · omega
  · omega
  all_goals decide

-- All blanks have smaller codes or greater ones.
theorem nameChar_plain {c : Char} (is : IsNameChar c) : Text.isBlank c = false := by
  have code := nameChar_code is
  simp only [Text.isBlank, Bool.or_eq_false_iff, Bool.and_eq_false_iff, decide_eq_false_iff_not,
    beq_eq_false_iff_ne]
  omega

-- A name that may be used is taken as it is.
theorem cleaned_valid {name : String} (valid : Username.isValid name = true) : cleaned name = name := by
  have is := (valid_iff name).mp valid
  rw [cleaned, Text.trim_plain fun c there => nameChar_plain (is.chars c there), String.ofList_toList]

theorem submit_unlinked (text : String) : submit .unlinked text =
    if cleaned text = "" then ⟨.unlinked, .ok []⟩
    else if Username.isValid (cleaned text) then
      ⟨.loading (cleaned text), .ok [.render, .fetch (cleaned text)]⟩
    else ⟨.unlinked, .ok [.alert (.invalidUsername (cleaned text)), .render]⟩ := by
  simp only [submit, ne_eq, not_true_eq_false, false_or]
  rfl

end LinkedKeys.Control

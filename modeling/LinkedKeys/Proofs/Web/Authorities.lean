import LinkedKeys.Web.Url
import Mathlib.Data.List.TakeWhile

namespace LinkedKeys.Web.Url

variable {cs tail : List Char} {scheme : String}

-- Nothing that separates one part of an address from the next.
structure Unparted (cs : List Char) : Prop where
  slash : '/' ∉ cs
  backslash : '\x5c' ∉ cs

theorem Unparted.drop (unparted : Unparted cs) (n : Nat) : Unparted (cs.drop n) :=
  ⟨fun there => unparted.slash (List.mem_of_mem_drop there),
    fun there => unparted.backslash (List.mem_of_mem_drop there)⟩

theorem takeWhile_slash {p : Char → Bool} (stops : p '/' = false) :
    (cs ++ '/' :: tail).takeWhile p = cs.takeWhile p := by
  induction cs with
  | nil => exact List.takeWhile_cons_of_neg (by simp [stops])
  | cons c cs ih => simp only [List.cons_append, List.takeWhile_cons, ih]

theorem takeWhile_unparted (unparted : Unparted cs) : cs.takeWhile (· ≠ '/') = cs := by
  rw [List.takeWhile_eq_self_iff]
  intro c there
  have other : c ≠ '/' := fun same => unparted.slash (same ▸ there)
  simpa using other

theorem splitUser_slash (tail : List Char) (unparted : Unparted cs) :
    splitUser (cs ++ '/' :: tail) = ((splitUser cs).1, (splitUser cs).2 ++ '/' :: tail) ∧
      Unparted (splitUser cs).2 := by
  have whole := takeWhile_unparted unparted
  have longer : (cs ++ '/' :: tail).takeWhile (· ≠ '/') = cs := (takeWhile_slash (by simp)).trans whole
  simp only [splitUser, whole, longer]
  split
  · rename_i named
    have some : cs ≠ [] := by
      rintro rfl
      cases named
    have bound : (cs.take (cs.length - (cs.reverse.takeWhile (· ≠ '@')).reverse.length - 1)).length + 1 ≤
        cs.length := by
      have positive := List.length_pos_iff.mpr some
      rw [List.length_take]
      omega
    refine ⟨?_, unparted.drop _⟩
    rw [List.drop_append_of_le_length bound]
  · exact ⟨rfl, unparted⟩

theorem hostText_slash (inBrackets : Bool) :
    hostText inBrackets (cs ++ '/' :: tail) = hostText inBrackets cs := by
  induction cs generalizing inBrackets with
  | nil => simp [hostText]
  | cons c cs ih =>
      simp only [List.cons_append, hostText, ih]

-- A host ends where its text does, or at a colon.
theorem hostText_behind (unparted : Unparted cs) (inBrackets : Bool) :
    (hostText inBrackets cs).length ≤ cs.length ∧
      (cs.drop (hostText inBrackets cs).length = [] ∨
        ∃ more, cs.drop (hostText inBrackets cs).length = ':' :: more) := by
  induction cs generalizing inBrackets with
  | nil => simp [hostText]
  | cons c cs ih =>
      rw [hostText]
      split
      · rename_i ends
        refine ⟨Nat.zero_le _, .inr ⟨cs, ?_⟩⟩
        rcases ends with slash | ⟨colon, _⟩
        · exact absurd (slash ▸ List.mem_cons_self) unparted.slash
        · rw [colon]
          rfl
      · have bound := ih (unparted.drop 1) (c = '[' || (inBrackets && c ≠ ']'))
        exact ⟨Nat.succ_le_succ bound.1, bound.2⟩

theorem whole_slash (cs tail : List Char) :
    (cs ++ '/' :: tail).head?.all (fun c => c = '/' ∨ c = '\x5c') =
      cs.head?.all (fun c => c = '/' ∨ c = '\x5c') := by
  cases cs <;> simp

theorem whole_unparted (unparted : Unparted cs)
    (whole : cs.head?.all (fun c => c = '/' ∨ c = '\x5c') = true) : cs = [] := by
  cases cs with
  | nil => rfl
  | cons c cs =>
      simp only [List.head?_cons, Option.all_some, decide_eq_true_eq] at whole
      rcases whole with rfl | rfl
      · exact absurd List.mem_cons_self unparted.slash
      · exact absurd List.mem_cons_self unparted.backslash

theorem portOf_slash {more : List Char} (unparted : Unparted more) :
    portOf scheme (':' :: more ++ '/' :: tail) =
      (portOf scheme (':' :: more)).map fun found => (found.1, '/' :: tail) := by
  have digits : (more ++ '/' :: tail).takeWhile Char.isDigit = more.takeWhile Char.isDigit :=
    takeWhile_slash (by decide)
  have bound : (more.takeWhile Char.isDigit).length ≤ more.length := (List.takeWhile_prefix _).length_le
  have left := unparted.drop (more.takeWhile Char.isDigit).length
  simp only [portOf, List.cons_append, digits, List.drop_append_of_le_length bound, whole_slash]
  cases Text.number 10 (more.takeWhile Char.isDigit) with
  | none => rfl
  | some n =>
      generalize more.drop (more.takeWhile Char.isDigit).length = rest at left
      simp only [Option.bind_eq_bind, Option.bind_some]
      split
      · rfl
      · rename_i fine
        have whole := (not_or.mp fine).2
        rw [whole_unparted left (by simpa using whole)]
        rfl

theorem colon_slash (cs tail : List Char) :
    (cs ++ '/' :: tail).head? = some ':' ↔ cs.head? = some ':' := by
  cases cs <;> simp

theorem authorityOf_slash (unparted : Unparted cs) : authorityOf scheme (cs ++ '/' :: tail) =
    (authorityOf scheme cs).map fun found => (found.1, '/' :: tail) := by
  obtain ⟨parted, left⟩ := splitUser_slash tail unparted
  obtain ⟨bound, behind⟩ := hostText_behind left false
  have leftover := left.drop (hostText false (splitUser cs).2).length
  simp only [authorityOf, parted, hostText_slash, List.drop_append_of_le_length bound, colon_slash]
  generalize (splitUser cs).2.drop (hostText false (splitUser cs).2).length = port at behind leftover
  have read : portOf scheme (port ++ '/' :: tail) =
      (portOf scheme port).map fun found => (found.1, '/' :: tail) := by
    rcases behind with rfl | ⟨more, rfl⟩
    · rfl
    · exact portOf_slash (leftover.drop 1)
  rw [read]
  generalize portOf scheme port = number
  split
  · rfl
  · split
    · cases Host.named? (hostText false (splitUser cs).2) <;> cases number <;> rfl
    · cases Host.unnamed? (hostText false (splitUser cs).2) <;> cases number <;> rfl

end LinkedKeys.Web.Url

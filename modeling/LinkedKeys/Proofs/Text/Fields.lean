import LinkedKeys.Proofs.Text.Lines
import Mathlib.Data.List.DropRight

namespace LinkedKeys.Text

theorem pieces_splitOn (mark : Char) (cs : List Char) : pieces mark cs = cs.splitOn mark := by
  rw [List.splitOn_eq_splitOnP]
  induction cs with
  | nil => rfl
  | cons c cs ih =>
      rw [pieces, List.splitOnP_cons_eq_if_modifyHead]
      by_cases here : c = mark
      · simp [here, ih]
      · obtain ⟨piece, rest, cut⟩ := pieces_some mark cs
        simp [here, ← ih, cut]

theorem fields_blank {c : Char} (blank : isBlank c = true) (cs : List Char) :
    fields (c :: cs) = fields cs := by
  rw [fields.eq_def]
  exact if_pos blank

theorem fields_splitOnP (cs : List Char) : fields cs = (cs.splitOnP isBlank).filter (· ≠ []) := by
  induction cs with
  | nil => rfl
  | cons c cs ih =>
      rw [List.splitOnP_cons_eq_if_modifyHead]
      cases blank : isBlank c with
      | true => simp [fields_blank blank, ih]
      | false =>
          cases cs with
          | nil =>
              rw [fields.eq_def]
              simp [blank]
          | cons d ds =>
              rw [fields.eq_def]
              rw [List.splitOnP_cons_eq_if_modifyHead] at ih ⊢
              cases next : isBlank d with
              | true => simp [blank, next, ih]
              | false =>
                  obtain ⟨word, more, cut⟩ := List.exists_cons_of_ne_nil (List.splitOnP_ne_nil isBlank ds)
                  have later : fields (d :: ds) = (d :: word) :: more.filter (· ≠ []) := by
                    rw [ih, next, cut]
                    rfl
                  simp only [blank, next, later, cut]
                  rfl

theorem fields_append {c : Char} (blank : isBlank c = true) (front behind : List Char) :
    fields (front ++ c :: behind) = fields front ++ fields behind := by
  rw [fields_splitOnP, List.splitOnP_append_cons front behind blank, List.filter_append,
    ← fields_splitOnP, ← fields_splitOnP]

theorem fields_blanks {cs : List Char} (blank : ∀ c ∈ cs, isBlank c = true) : fields cs = [] := by
  induction cs with
  | nil => rfl
  | cons c cs ih =>
      rw [fields_blank (blank c List.mem_cons_self)]
      exact ih fun d later => blank d (List.mem_cons_of_mem c later)

theorem fields_word {word : List Char} (full : word ≠ []) (plain : ∀ c ∈ word, isBlank c = false) :
    fields word = [word] := by
  rw [fields_splitOnP, List.splitOnP_eq_singleton plain]
  simp [full]

-- The first field begins as the text does.
theorem fields_first {c : Char} (plain : isBlank c = false) (cs : List Char) :
    ∃ word more, fields (c :: cs) = (c :: word) :: more := by
  rw [fields_splitOnP, List.splitOnP_cons_eq_if_modifyHead]
  obtain ⟨word, more, cut⟩ := List.exists_cons_of_ne_nil (List.splitOnP_ne_nil isBlank cs)
  simp [plain, cut]

theorem fields_dropWhile (cs : List Char) : fields (cs.dropWhile isBlank) = fields cs := by
  induction cs with
  | nil => rfl
  | cons c cs ih =>
      cases blank : isBlank c with
      | true => rw [List.dropWhile_cons_of_pos blank, ih, fields_blank blank]
      | false => rw [List.dropWhile_cons_of_neg (by simp [blank])]

theorem fields_closed {behind : List Char} (blank : ∀ c ∈ behind, isBlank c = true) (front : List Char) :
    fields (front ++ behind) = fields front := by
  cases behind with
  | nil => rw [List.append_nil]
  | cons c behind =>
      rw [fields_append (blank c List.mem_cons_self)]
      rw [fields_blanks fun d later => blank d (List.mem_cons_of_mem c later), List.append_nil]

theorem dropTrailing_closed (p : Char → Bool) (cs : List Char) :
    dropTrailing p cs ++ (cs.reverse.takeWhile p).reverse = cs := by
  rw [dropTrailing, ← List.reverse_append, List.takeWhile_append_dropWhile, List.reverse_reverse]

-- What is taken off at the end is blank.
theorem fields_dropTrailing (cs : List Char) : fields (dropTrailing isBlank cs) = fields cs := by
  have blank : ∀ c ∈ (cs.reverse.takeWhile isBlank).reverse, isBlank c = true := by
    intro c taken
    exact List.mem_takeWhile_imp (List.mem_reverse.mp taken)
  rw [← fields_closed blank, dropTrailing_closed]

theorem fields_trim (cs : List Char) : fields (trim cs) = fields cs := by
  rw [trim, fields_dropTrailing, fields_dropWhile]

-- No stretch between blanks has a blank in it.
theorem splitOnP_plain {p : Char → Bool} {cs piece : List Char} (among : piece ∈ cs.splitOnP p) :
    ∀ c ∈ piece, p c = false := by
  induction cs generalizing piece with
  | nil =>
      rw [List.splitOnP_nil, List.mem_singleton] at among
      simp [among]
  | cons d ds ih =>
      rw [List.splitOnP_cons_eq_if_modifyHead] at among
      cases cut : p d with
      | true =>
          rw [cut, if_pos rfl] at among
          rcases List.mem_cons.mp among with rfl | later
          · simp
          · exact ih later
      | false =>
          obtain ⟨first, rest, pieces⟩ := List.exists_cons_of_ne_nil (List.splitOnP_ne_nil p ds)
          rw [pieces] at ih
          rw [cut, pieces, if_neg Bool.false_ne_true, List.modifyHead_cons] at among
          rcases List.mem_cons.mp among with rfl | later
          · intro c inside
            rcases List.mem_cons.mp inside with rfl | inside
            · exact cut
            · exact ih List.mem_cons_self c inside
          · exact ih (List.mem_cons_of_mem first later)

theorem fields_plain {cs field : List Char} (among : field ∈ fields cs) :
    field ≠ [] ∧ ∀ c ∈ field, isBlank c = false := by
  rw [fields_splitOnP] at among
  obtain ⟨piece, full⟩ := List.mem_filter.mp among
  exact ⟨by simpa using full, splitOnP_plain piece⟩

theorem trim_first {cs rest : List Char} {c : Char} (trimmed : trim cs = c :: rest) :
    isBlank c = false := by
  have begins : ((cs.dropWhile isBlank).head?) = some c := by
    rw [← dropTrailing_closed isBlank (cs.dropWhile isBlank), ← trim, trimmed]
    rfl
  have first := List.head?_dropWhile_not isBlank cs
  rw [begins] at first
  simpa using first

theorem trim_trim (cs : List Char) : trim (trim cs) = trim cs := by
  cases trimmed : trim cs with
  | nil => rfl
  | cons c rest =>
      rw [← trimmed]
      conv_lhs => rw [trim, trimmed, List.dropWhile_cons_of_neg (by simp [trim_first trimmed]), ← trimmed]
      rw [trim, dropTrailing, dropTrailing, List.reverse_reverse, List.dropWhile_idempotent]

end LinkedKeys.Text

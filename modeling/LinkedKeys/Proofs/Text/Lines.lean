import LinkedKeys.Text.Blank
import LinkedKeys.Text.Pieces
import Mathlib.Data.List.Basic

namespace LinkedKeys.Text

-- Characters of one kind, as far as they go.
theorem span_front {kind : Char → Bool} {front rest : List Char} (chars : ∀ c ∈ front, kind c = true)
    (ends : ∀ c, rest.head? = some c → kind c = false) :
    (front ++ rest).takeWhile kind = front ∧ (front ++ rest).dropWhile kind = rest := by
  rw [List.takeWhile_append_of_pos chars, List.dropWhile_append_of_pos chars]
  cases rest with
  | nil => exact ⟨List.append_nil front, rfl⟩
  | cons c rest =>
      have stops : ¬kind c = true := by rw [ends c rfl]; decide
      rw [List.takeWhile_cons_of_neg stops, List.dropWhile_cons_of_neg stops]
      exact ⟨List.append_nil front, rfl⟩

theorem drop_takeWhile (kind : Char → Bool) (cs : List Char) :
    cs.drop (cs.takeWhile kind).length = cs.dropWhile kind := by
  have parts := List.takeWhile_append_dropWhile (p := kind) (l := cs)
  exact (congrArg (List.drop _) parts.symm).trans List.drop_left

theorem takeWhile_append_drop (kind : Char → Bool) (cs : List Char) :
    cs.takeWhile kind ++ cs.drop (cs.takeWhile kind).length = cs := by
  rw [drop_takeWhile, List.takeWhile_append_dropWhile]

theorem pieces_some (mark : Char) (cs : List Char) : ∃ piece rest, pieces mark cs = piece :: rest := by
  apply List.exists_cons_of_ne_nil
  intro none
  have size := pieces_length mark cs
  rw [none] at size
  cases size

theorem pieces_append (mark : Char) (front behind : List Char) :
    pieces mark (front ++ mark :: behind) = pieces mark front ++ pieces mark behind := by
  induction front with
  | nil => simp [pieces]
  | cons c cs ih =>
      obtain ⟨piece, rest, cut⟩ := pieces_some mark cs
      by_cases here : c = mark
      · simp [pieces, here, ih]
      · simp [pieces, here, ih, cut]

theorem pieces_whole {mark : Char} {cs : List Char} (absent : mark ∉ cs) : pieces mark cs = [cs] := by
  induction cs with
  | nil => rfl
  | cons c cs ih =>
      obtain ⟨other, later⟩ := not_or.mp (mt List.mem_cons.mpr absent)
      simp [pieces, Ne.symm other, ih later]

-- What stands between line feeds against the lines that are read. A line loses the carriage return
-- in front of its line feed, and nothing behind the last line feed is no line.
inductive Lined : List (List Char) → List (List Char) → Prop where
  | nothing : Lined [[]] []
  | last {line : List Char} (full : line ≠ []) : Lined [line] [line]
  | plain (line : List Char) {pieces lines : List (List Char)} (rest : Lined pieces lines) :
      Lined (line :: pieces) (line :: lines)
  | returned (line : List Char) {pieces lines : List (List Char)} (rest : Lined pieces lines) :
      Lined ((line ++ ['\r']) :: pieces) (line :: lines)

-- A character in front belongs to the first line, or makes one.
theorem lined_cons (c : Char) {piece : List Char} {pieces lines : List (List Char)} :
    Lined (piece :: pieces) lines → Lined ((c :: piece) :: pieces)
      (match lines with
        | [] => [[c]]
        | line :: rest => (c :: line) :: rest) := by
  intro lined
  cases lined with
  | nothing => exact .last (List.cons_ne_nil c [])
  | last full => exact .last (List.cons_ne_nil c piece)
  | plain _ rest => exact .plain (c :: piece) rest
  | returned line rest => exact .returned (c :: line) rest

-- An empty piece that is not the last is an empty line.
theorem lined_empty {piece : List Char} {pieces lines : List (List Char)}
    (lined : Lined ([] :: piece :: pieces) ([] :: lines)) : Lined (piece :: pieces) lines := by
  generalize whole : [] :: piece :: pieces = front at lined
  cases lined with
  | last full => cases whole
  | plain line rest =>
      cases whole
      exact rest
  | returned line rest =>
      have bare := (List.cons.inj whole).1
      simp at bare

theorem lines_lined (cs : List Char) : Lined (pieces '\n' cs) (lines cs) := by
  induction cs with
  | nil => exact .nothing
  | cons c cs ih =>
      by_cases feed : c = '\n'
      · simp only [pieces, lines, feed, if_true]
        exact .plain [] ih
      · obtain ⟨piece, rest, cut⟩ := pieces_some '\n' cs
        have front : pieces '\n' (c :: cs) = (c :: piece) :: rest := by
          simp only [pieces, feed, if_false, cut]
        rw [cut] at ih
        rw [front]
        cases cs with
        | nil =>
            cases cut
            simp only [lines, feed, if_false]
            exact .last (List.cons_ne_nil c [])
        | cons d ds =>
            by_cases closed : c = '\r' ∧ d = '\n'
            · obtain ⟨rfl, rfl⟩ := closed
              simp only [pieces, if_true] at cut
              cases cut
              have same : lines ('\r' :: '\n' :: ds) = [] :: lines ds := rfl
              obtain ⟨piece, more, next⟩ := pieces_some '\n' ds
              rw [same, next]
              rw [next] at ih
              exact .returned [] (lined_empty ih)
            · rw [lines.eq_def]
              simp only [feed, if_false, closed]
              exact lined_cons c ih

-- A row without line ends is read back as one line.
theorem lines_row {row : List Char} (level : '\n' ∉ row ∧ '\r' ∉ row) (rest : List Char) :
    lines (row ++ '\n' :: rest) = row :: lines rest := by
  induction row with
  | nil => rfl
  | cons c row ih =>
      obtain ⟨feed, noFeed⟩ := not_or.mp (mt List.mem_cons.mpr level.1)
      obtain ⟨back, noReturn⟩ := not_or.mp (mt List.mem_cons.mpr level.2)
      have later := ih ⟨noFeed, noReturn⟩
      obtain ⟨d, ds, follows⟩ := List.exists_cons_of_ne_nil (List.append_ne_nil_of_right_ne_nil row
        (List.cons_ne_nil '\n' rest))
      rw [follows] at later
      rw [List.cons_append, follows, lines.eq_def]
      simp [Ne.symm feed, Ne.symm back, later]

theorem lines_rows {rows : List (List Char)} (level : ∀ row ∈ rows, '\n' ∉ row ∧ '\r' ∉ row) :
    lines (rows.flatMap (· ++ ['\n'])) = rows := by
  induction rows with
  | nil => rfl
  | cons row rows ih =>
      rw [List.flatMap_cons, List.append_assoc, List.singleton_append,
        lines_row (level row List.mem_cons_self),
        ih fun next later => level next (List.mem_cons_of_mem row later)]

theorem trim_blank {c : Char} (blank : isBlank c = true) (cs : List Char) :
    trim (cs ++ [c]) = trim cs := by
  unfold trim
  rw [List.dropWhile_append]
  split
  · rename_i bare
    rw [List.isEmpty_iff.mp bare, List.dropWhile_cons_of_pos blank]
    rfl
  · rw [dropTrailing, List.reverse_append]
    change (List.dropWhile isBlank (c :: _)).reverse = _
    rw [List.dropWhile_cons_of_pos blank]
    rfl

theorem dropWhile_plain {p : Char → Bool} {cs : List Char} (plain : ∀ c ∈ cs, p c = false) :
    cs.dropWhile p = cs := by
  have first : ∀ c, cs.head? = some c → p c = false := fun c first =>
    plain c (List.mem_of_head? first)
  have none : ∀ c ∈ ([] : List Char), p c = true := nofun
  exact (span_front none first).2

theorem trim_plain {cs : List Char} (plain : ∀ c ∈ cs, isBlank c = false) : trim cs = cs := by
  unfold trim dropTrailing
  rw [dropWhile_plain plain, dropWhile_plain (fun c last => plain c (List.mem_reverse.mp last)),
    List.reverse_reverse]

end LinkedKeys.Text

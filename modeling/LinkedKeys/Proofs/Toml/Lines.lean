import LinkedKeys.Proofs.Toml.Values

namespace LinkedKeys.Toml

open Statement (isSpace isBare skipSpace)
open Quoted (isPlain)

variable {rest cs written : List Char} {statement : Statement} {statements : List Statement}

-- A statement, without what may stand around it on its line.
inductive Line : Statement → List Char → Prop where
  | header {path : List String} {names : List Char} (named : Dotted path names) :
      Line (.header path) ('[' :: (names ++ [']']))
  | assign {path : List String} {key : String} {value : Value} {names gap written : List Char}
      (named : Dotted (path ++ [key]) names) (blanks : Blanks gap) (spelled : Written value written) :
      Line (.assign path key value) (names ++ '=' :: (gap ++ written))

inductive Ending : List Char → Prop where
  | blank {gap : List Char} (blanks : Blanks gap) : Ending gap
  | comment {gap text : List Char} (blanks : Blanks gap) (plain : ∀ c ∈ text, isPlain c = true) :
      Ending (gap ++ '#' :: text)

-- The end of a line and the lines behind it, if it is not the last one.
inductive Ended : List Char → List Char → Prop where
  | last {ending : List Char} (ends : Ending ending) : Ended [] ending
  | line {ending rest : List Char} (ends : Ending ending) : Ended rest (ending ++ '\n' :: rest)

inductive Lines : List Statement → List Char → Prop where
  | nil : Lines [] []
  | blank {statements : List Statement} {rest cs : List Char} (ended : Ended rest cs)
      (later : Lines statements rest) : Lines statements cs
  | line {statement : Statement} {statements : List Statement} {gap written rest cs : List Char}
      (before : Blanks gap) (spelled : Line statement written) (ended : Ended rest cs)
      (later : Lines statements rest) : Lines (statement :: statements) (gap ++ (written ++ cs))

-- What stands behind the blanks and the comment of a line.
def behindComment (cs : List Char) : List Char :=
  if (skipSpace cs).head? = some '#' then ((skipSpace cs).drop 1).dropWhile isPlain else skipSpace cs

def lineTail : List Char → Option (List Char)
  | [] => some []
  | '\n' :: rest => some rest
  | _ => none

theorem lineEnd_tail (cs : List Char) : Statement.lineEnd cs = lineTail (behindComment cs) := rfl

theorem ending_behind {ending tail : List Char} (ends : Ending ending)
    (stops : ∀ c, tail.head? = some c → c = '\n') : behindComment (ending ++ tail) = tail := by
  have unblank : ∀ c, tail.head? = some c → isSpace c = false := by
    intro c first
    rw [stops c first]
    decide
  cases ends with
  | blank blanks =>
      rw [behindComment, skip_blanks blanks unblank, if_neg]
      exact fun mark => absurd (stops _ mark) (by decide)
  | @comment gap text blanks plain =>
      have control : ∀ c, tail.head? = some c → isPlain c = false := by
        intro c first
        rw [stops c first]
        decide
      rw [behindComment, List.append_assoc, List.cons_append,
        skip_blanks blanks (by rintro c ⟨⟩; decide)]
      exact (if_pos rfl).trans (Text.span_front plain control).2

theorem behind_ending (cs : List Char) : ∃ ending, Ending ending ∧ cs = ending ++ behindComment cs := by
  obtain ⟨gap, blanks, parts⟩ := skip_parts cs
  rw [behindComment]
  split
  · rename_i mark
    obtain ⟨text, comment⟩ := List.head?_eq_some_iff.mp mark
    have plain : ∀ c ∈ text.takeWhile isPlain, isPlain c = true := fun c among =>
      List.mem_takeWhile_imp among
    refine ⟨_, .comment blanks plain, ?_⟩
    rw [comment, List.drop_one, List.tail_cons, List.append_assoc, List.cons_append,
      List.takeWhile_append_dropWhile, ← comment, ← parts]
  · exact ⟨gap, .blank blanks, parts⟩

theorem lineEnd_iff : Statement.lineEnd cs = some rest ↔ Ended rest cs := by
  rw [lineEnd_tail]
  constructor
  · intro reads
    obtain ⟨ending, ends, parts⟩ := behind_ending cs
    rw [parts]
    rw [lineTail.eq_def] at reads
    split at reads
    · rename_i nothing
      cases reads
      rw [nothing, List.append_nil]
      exact .last ends
    · rename_i line
      cases reads
      rw [line]
      exact .line ends
    · cases reads
  · rintro (ends | ends)
    · have nothing : behindComment (cs ++ []) = [] := ending_behind ends nofun
      rw [List.append_nil] at nothing
      exact congrArg lineTail nothing
    · exact congrArg lineTail (ending_behind ends (by rintro c ⟨⟩; rfl))

theorem ended_blank {gap : List Char} (blanks : Blanks gap) (ended : Ended rest cs) :
    Ended rest (gap ++ cs) := by
  have ends : ∀ ending, Ending ending → Ending (gap ++ ending) := by
    intro ending ends
    cases ends with
    | blank more => exact .blank (List.forall_mem_append.mpr ⟨blanks, more⟩)
    | comment more plain =>
        rw [← List.append_assoc]
        exact .comment (List.forall_mem_append.mpr ⟨blanks, more⟩) plain
  cases ended with
  | last ending => exact .last (ends _ ending)
  | line ending =>
      rw [← List.append_assoc]
      exact .line (ends _ ending)

theorem ended_length (ended : Ended rest cs) : rest.length ≤ cs.length := by
  cases ended with
  | last => exact Nat.zero_le _
  | line =>
      rw [List.length_append, List.length_cons]
      omega

theorem ended_unvalued (ended : Ended rest cs) : Unvalued cs := by
  have ends : ∀ ending tail, Ending ending → Unvalued tail → Unvalued (ending ++ tail) := by
    intro ending tail ends unvalued
    cases ends with
    | blank blanks => exact blank_unvalued blanks unvalued
    | comment blanks plain =>
        rw [List.append_assoc]
        exact blank_unvalued blanks (by rintro c ⟨⟩; decide)
  cases ended with
  | last ending =>
      rw [← List.append_nil cs]
      exact ends _ _ ending nofun
  | line ending => exact ends _ _ ending (by rintro c ⟨⟩; decide)

-- Fewer names than a dotted key may have.
def Statement.Shallow : Statement → Prop
  | .header path | .item path => path.length < deepest
  | .assign path key _ => (path ++ [key]).length < deepest

theorem written_unblank {given : Value} (spelled : Written given written) (behind : List Char) :
    ∀ c, (written ++ behind).head? = some c → isSpace c = false := by
  cases spelled with
  | leaf spelled => exact leaf_unblank spelled behind
  | empty | inline =>
      rintro c ⟨⟩
      decide

theorem dotted_first {names : List String} {c : Char} (named : Dotted names written)
    (other : isSpace c = false) (unnamed : isBare c = false ∧ c ≠ Quoted.quote ∧ c ≠ Quoted.apostrophe)
    (behind : List Char) : (written ++ behind).head? ≠ some c := by
  intro first
  obtain ⟨d, later, shown, sort⟩ := dotted_head named behind
  obtain ⟨more, parts⟩ := List.head?_eq_some_iff.mp first
  rw [parts, skipSpace, List.dropWhile_cons_of_neg (by rw [other]; decide)] at shown
  cases shown
  rcases sort with bare | mark | mark
  · cases bare.symm.trans unnamed.1
  · exact unnamed.2.1 mark
  · exact unnamed.2.2 mark

theorem header_read {path : List String} {names : List Char} (named : Dotted path names)
    (few : path.length < deepest) (ended : Ended rest cs) :
    Statement.closeHeader [']'] .header (names ++ ']' :: cs) = some (.header path, rest) := by
  have unnamed : Unnamed (']' :: cs) := by
    rintro c ⟨⟩
    decide
  refine Option.bind_eq_some_iff.mpr ⟨_, names_read named (Nat.le_pred_of_lt few) unnamed, ?_⟩
  exact (if_pos rfl).trans (Option.bind_eq_some_iff.mpr ⟨rest, lineEnd_iff.mpr ended, rfl⟩)

theorem assignment_read {path : List String} {key : String} {given : Value} {names gap : List Char}
    (named : Dotted (path ++ [key]) names) (few : (path ++ [key]).length < deepest)
    (blanks : Blanks gap) (spelled : Written given written) (ended : Ended rest cs) :
    Statement.assignment (names ++ '=' :: (gap ++ (written ++ cs))) =
      some (.assign path key given, rest) := by
  refine Option.bind_eq_some_iff.mpr ⟨_, dotted_read named few _, ?_⟩
  refine Option.bind_eq_some_iff.mpr ⟨_, splitLast_snoc path key, ?_⟩
  refine Option.bind_eq_some_iff.mpr ⟨(given, cs), ?_, ?_⟩
  · rw [skip_blanks blanks (written_unblank spelled cs)]
    exact written_read spelled (ended_unvalued ended)
  · exact Option.bind_eq_some_iff.mpr ⟨rest, lineEnd_iff.mpr ended, rfl⟩

theorem next_read (spelled : Line statement written) (shallow : statement.Shallow)
    (ended : Ended rest cs) : Statement.next (written ++ cs) = some (statement, rest) := by
  cases spelled with
  | @header path names named =>
      have text : '[' :: (names ++ [']']) ++ cs = '[' :: (names ++ ']' :: cs) := by simp
      have single := dotted_first named (by decide : isSpace '[' = false) (by decide) (']' :: cs)
      rw [text, Statement.next.eq_def]
      split
      · rename_i double
        rw [(List.cons.inj double).2] at single
        exact absurd rfl single
      · rename_i same
        cases same
        exact header_read named shallow ended
      · rename_i other
        exact absurd rfl (other _)
  | @assign path key value names gap written named blanks spelled =>
      have text : names ++ '=' :: (gap ++ written) ++ cs = names ++ '=' :: (gap ++ (written ++ cs)) := by
        simp
      have bare := dotted_first named (by decide : isSpace '[' = false) (by decide)
        ('=' :: (gap ++ (written ++ cs)))
      rw [text, Statement.next.eq_def]
      split
      · rename_i bracket
        rw [bracket] at bare
        exact absurd rfl bare
      · rename_i bracket
        rw [bracket] at bare
        exact absurd rfl bare
      · exact assignment_read named shallow blanks spelled ended

-- The blanks in front of a dotted key count to the line as well.
theorem dotted_trim {names : List String} (named : Dotted names written) :
    ∃ gap front, Blanks gap ∧ written = gap ++ front ∧ Dotted names front ∧
      ∀ behind, ∃ c later, front ++ behind = c :: later ∧
        (isBare c = true ∨ c = Quoted.quote ∨ c = Quoted.apostrophe) := by
  have nothing : Blanks [] := nofun
  cases named with
  | @last name gap written behind before spelled after =>
      obtain ⟨c, later, rfl, sort⟩ := name_head spelled
      exact ⟨gap, _, before, rfl, .last nothing spelled after,
        fun behind => ⟨c, _, rfl, sort⟩⟩
  | @dot name names gap written behind cs before spelled after later =>
      obtain ⟨c, _, rfl, sort⟩ := name_head spelled
      exact ⟨gap, _, before, rfl, .dot nothing spelled after later,
        fun behind => ⟨c, _, rfl, sort⟩⟩

theorem line_trim (spelled : Line statement written) : ∃ gap front, Blanks gap ∧
    written = gap ++ front ∧ Line statement front ∧ ∀ behind, ∃ c later,
      front ++ behind = c :: later ∧ isSpace c = false ∧ c ≠ '\n' ∧ c ≠ '#' := by
  cases spelled with
  | header named =>
      exact ⟨[], _, nofun, rfl, .header named, fun _ => ⟨_, _, rfl, by decide, by decide, by decide⟩⟩
  | assign named blanks spelled =>
      obtain ⟨gap, front, before, rfl, trimmed, heads⟩ := dotted_trim named
      refine ⟨gap, _, before, List.append_assoc _ _ _, .assign trimmed blanks spelled, ?_⟩
      intro behind
      rw [List.append_assoc]
      obtain ⟨c, later, shown, sort⟩ := heads _
      refine ⟨c, later, shown, ?_⟩
      rcases sort with bare | rfl | rfl
      · refine ⟨bare_unblank bare, ?_, ?_⟩
        · rintro rfl
          cases bare
        · rintro rfl
          cases bare
      · decide
      · decide

-- No line is left out: what the first line leaves is what the others are read from.
theorem lines_next {c : Char} {later : List Char} {n : Nat} (shown : skipSpace cs = c :: later)
    (line : c ≠ '\n') (comment : c ≠ '#') :
    Statement.lines (n + 1) cs = (Statement.next (c :: later)).bind fun r =>
      (Statement.lines n r.2).bind fun others => some (r.1 :: others) := by
  rw [Statement.lines, shown]
  split
  · rename_i nothing
    cases nothing
  · rename_i same
    cases same
    exact absurd rfl line
  · rename_i same
    cases same
    exact absurd rfl comment
  · rfl

theorem lines_blank {gap : List Char} {n : Nat} (blanks : Blanks gap) :
    Statement.lines (n + 1) gap = some [] ∧
      ∀ rest, Statement.lines (n + 1) (gap ++ '\n' :: rest) = Statement.lines n rest := by
  have nothing : skipSpace (gap ++ []) = [] := skip_blanks blanks nofun
  rw [List.append_nil] at nothing
  constructor
  · rw [Statement.lines, nothing]
  · intro rest
    rw [Statement.lines, skip_blanks blanks (by rintro c ⟨⟩; decide)]
    rfl

theorem lines_comment {gap : List Char} {n : Nat} (blanks : Blanks gap) {text : List Char}
    (ended : Ended rest ('#' :: text)) :
    Statement.lines (n + 1) (gap ++ '#' :: text) = Statement.lines n rest := by
  rw [Statement.lines, skip_blanks blanks (by rintro c ⟨⟩; decide)]
  exact congrArg (fun found => Option.bind found (Statement.lines n)) (lineEnd_iff.mpr ended)

-- A line without a statement takes one step and leaves the others as they are.
theorem lines_ended {n : Nat} (ended : Ended rest cs)
    (later : ∀ m, rest.length < m → Statement.lines m rest = some statements)
    (enough : cs.length < n + 1) : Statement.lines (n + 1) cs = some statements := by
  have nothing : Blanks [] := nofun
  cases ended with
  | last ends =>
      cases ends with
      | blank blanks =>
          have none := later (n + 1) (Nat.succ_pos n)
          rw [(lines_blank nothing).1] at none
          rw [(lines_blank blanks).1, none]
      | comment blanks plain =>
          have some : 0 < n := by
            rw [List.length_append, List.length_cons] at enough
            omega
          rw [lines_comment blanks (.last (.comment nothing plain))]
          exact later n some
  | line ends =>
      have fewer : rest.length < n := by
        rw [List.length_append, List.length_cons] at enough
        omega
      cases ends with
      | blank blanks =>
          rw [(lines_blank blanks).2]
          exact later n fewer
      | @comment gap text blanks plain =>
          have ended : Ended rest ('#' :: (text ++ '\n' :: rest)) := .line (.comment nothing plain)
          rw [List.append_assoc, List.cons_append, lines_comment blanks ended]
          exact later n fewer

theorem lines_read {n : Nat} (spelled : Lines statements cs)
    (shallow : ∀ statement ∈ statements, statement.Shallow) (enough : cs.length < n) :
    Statement.lines n cs = some statements := by
  induction spelled generalizing n with
  | nil =>
      have nothing : Blanks [] := nofun
      obtain ⟨n, rfl⟩ := Nat.exists_eq_succ_of_ne_zero (Nat.ne_zero_of_lt enough)
      exact (lines_blank nothing).1
  | @blank statements rest cs ended later ih =>
      obtain ⟨n, rfl⟩ := Nat.exists_eq_succ_of_ne_zero (Nat.ne_zero_of_lt enough)
      exact lines_ended ended (fun m fewer => ih shallow fewer) enough
  | @line statement statements gap written rest cs before spelled ended later ih =>
      obtain ⟨n, rfl⟩ := Nat.exists_eq_succ_of_ne_zero (Nat.ne_zero_of_lt enough)
      obtain ⟨top, others⟩ := List.forall_mem_cons.mp shallow
      obtain ⟨more, front, blanks, rfl, trimmed, heads⟩ := line_trim spelled
      obtain ⟨c, behind, shown, unblank, line, comment⟩ := heads cs
      have skipped : skipSpace (gap ++ (more ++ front ++ cs)) = c :: behind := by
        rw [List.append_assoc, ← List.append_assoc, shown]
        exact skip_blanks (List.forall_mem_append.mpr ⟨before, blanks⟩) (by rintro d ⟨⟩; exact unblank)
      have fewer : rest.length < n := by
        have size := ended_length ended
        obtain ⟨_, _, some, -⟩ := heads []
        have counted := congrArg List.length some
        simp only [List.length_append, List.length_cons, List.length_nil] at counted enough
        omega
      rw [lines_next skipped line comment, ← shown, next_read trimmed top ended, Option.bind_some,
        ih others fewer]
      rfl

-- A statement that can be one of a document of settings.
def Statement.IsPlain : Statement → Prop
  | .header _ => True
  | .item _ => False
  | .assign _ _ value => value.IsSetting

theorem closeHeader_inverse {close : List Char} {make : List String → Statement}
    (reads : Statement.closeHeader close make cs = some (statement, rest)) :
    ∃ path names tail, statement = make path ∧ Dotted path names ∧ cs = names ++ (close ++ tail) ∧
      Ended rest tail := by
  obtain ⟨⟨path, behind⟩, named, closed⟩ := Option.bind_eq_some_iff.mp reads
  obtain ⟨names, spelled, rfl⟩ := names_inverse named
  obtain ⟨marked, ended⟩ := Option.ite_none_right_eq_some.mp closed
  obtain ⟨found, ends, made⟩ := Option.bind_eq_some_iff.mp ended
  cases made
  have parts : close ++ behind.drop close.length = behind := by
    have whole := List.take_append_drop close.length behind
    rwa [marked] at whole
  exact ⟨path, names, _, rfl, spelled, by rw [parts], lineEnd_iff.mp ends⟩

theorem assignment_inverse (reads : Statement.assignment cs = some (statement, rest))
    (plain : statement.IsPlain) :
    ∃ written tail, Line statement written ∧ cs = written ++ tail ∧ Ended rest tail := by
  obtain ⟨⟨names, behind⟩, named, parted⟩ := Option.bind_eq_some_iff.mp reads
  obtain ⟨⟨path, key⟩, split, marked⟩ := Option.bind_eq_some_iff.mp parted
  have whole : names = path ++ [key] := splitLast_some split
  dsimp only at marked
  split at marked
  · rename_i more
    obtain ⟨⟨given, tail⟩, value, ended⟩ := Option.bind_eq_some_iff.mp marked
    obtain ⟨found, ends, made⟩ := Option.bind_eq_some_iff.mp ended
    cases made
    obtain ⟨spelled, dotted, rfl⟩ := names_inverse named
    obtain ⟨written, setting, inside⟩ := written_inverse plain value
    obtain ⟨gap, blanks, parts⟩ := skip_parts more
    rw [whole] at dotted
    refine ⟨_, tail, .assign dotted blanks setting, ?_, lineEnd_iff.mp ends⟩
    rw [parts, inside]
    simp
  · cases marked

theorem next_inverse (reads : Statement.next cs = some (statement, rest))
    (plain : statement.IsPlain) :
    ∃ written tail, Line statement written ∧ cs = written ++ tail ∧ Ended rest tail := by
  rw [Statement.next.eq_def] at reads
  split at reads
  · obtain ⟨path, names, tail, rfl, -⟩ := closeHeader_inverse reads
    exact plain.elim
  · obtain ⟨path, names, tail, rfl, named, rfl, ended⟩ := closeHeader_inverse reads
    exact ⟨_, tail, .header named, by simp, ended⟩
  · exact assignment_inverse reads plain

theorem lines_inverse {n : Nat} (reads : Statement.lines n cs = some statements)
    (plain : ∀ statement ∈ statements, statement.IsPlain) : Lines statements cs := by
  induction n generalizing cs statements with
  | zero => cases reads
  | succ n ih =>
      obtain ⟨gap, blanks, parts⟩ := skip_parts cs
      rw [parts]
      rw [Statement.lines] at reads
      split at reads
      · rename_i nothing
        cases reads
        rw [nothing, List.append_nil]
        exact .blank (.last (.blank blanks)) .nil
      · rename_i line
        rw [line]
        exact .blank (.line (.blank blanks)) (ih reads plain)
      · rename_i comment
        obtain ⟨found, ends, later⟩ := Option.bind_eq_some_iff.mp reads
        rw [comment]
        exact .blank (ended_blank blanks (lineEnd_iff.mp ends)) (ih later plain)
      · obtain ⟨⟨first, behind⟩, read, later⟩ := Option.bind_eq_some_iff.mp reads
        obtain ⟨others, readMore, made⟩ := Option.bind_eq_some_iff.mp later
        cases made
        obtain ⟨top, more⟩ := List.forall_mem_cons.mp plain
        obtain ⟨written, tail, spelled, same, ended⟩ := next_inverse read top
        rw [same]
        exact .line blanks spelled ended (ih readMore more)

theorem lines_items (spelled : Lines statements cs) (path : List String) :
    .item path ∉ statements := by
  induction spelled with
  | nil => nofun
  | blank ended later ih => exact ih
  | line before spelled ended later ih =>
      rintro (_ | ⟨_, among⟩)
      · cases spelled
      · exact ih among

-- A carriage return in front of a line feed does not count, and neither does a byte order mark in
-- front of everything.
def plainText (text : String) : List Char :=
  let cs := Statement.joinLineEnds text.toList
  if cs.head? = some Statement.byteOrderMark then cs.drop 1 else cs

def Document (statements : List Statement) (text : String) : Prop := Lines statements (plainText text)

theorem document_read {text : String} (written : Document statements text)
    (shallow : ∀ statement ∈ statements, statement.Shallow) :
    Statement.ofText text = some statements :=
  lines_read written shallow (Nat.lt_succ_self _)

theorem document_inverse {text : String} (reads : Statement.ofText text = some statements)
    (plain : ∀ statement ∈ statements, statement.IsPlain) : Document statements text :=
  lines_inverse reads plain

end LinkedKeys.Toml

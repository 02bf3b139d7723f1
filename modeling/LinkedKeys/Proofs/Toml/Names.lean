import LinkedKeys.Proofs.Toml.Integers
import LinkedKeys.Proofs.Toml.Quotations

namespace LinkedKeys.Toml

open Statement (isSpace isBare skipSpace)

variable {rest cs written : List Char} {name : String} {names : List String}

theorem skip_blanks {gap : List Char} (blanks : Blanks gap)
    (ends : ∀ c, rest.head? = some c → isSpace c = false) : skipSpace (gap ++ rest) = rest :=
  (Text.span_front blanks ends).2

theorem skip_parts (cs : List Char) : ∃ gap, Blanks gap ∧ cs = gap ++ skipSpace cs :=
  ⟨cs.takeWhile isSpace, fun _ among => List.mem_takeWhile_imp among,
    List.takeWhile_append_dropWhile.symm⟩

inductive Name : String → List Char → Prop where
  | bare {c : Char} {cs : List Char} (chars : ∀ d ∈ c :: cs, isBare d = true) :
      Name (String.ofList (c :: cs)) (c :: cs)
  | quoted {text written : List Char} (spelled : OneLine text written) :
      Name (String.ofList text) written

-- Names with dots between them, and blanks anywhere around each.
inductive Dotted : List String → List Char → Prop where
  | last {name : String} {gap written behind : List Char} (before : Blanks gap)
      (spelled : Name name written) (after : Blanks behind) :
      Dotted [name] (gap ++ (written ++ behind))
  | dot {name : String} {names : List String} {gap written behind cs : List Char}
      (before : Blanks gap) (spelled : Name name written) (after : Blanks behind)
      (later : Dotted names cs) : Dotted (name :: names) (gap ++ (written ++ (behind ++ '.' :: cs)))

-- What may stand behind a name without being taken for a part of it.
def Unnamed (rest : List Char) : Prop :=
  ∀ c, rest.head? = some c → isSpace c = false ∧ isBare c = false ∧ c ≠ '.'

theorem oneLine_head {text : List Char} (spelled : OneLine text written) :
    ∃ later, written = Quoted.quote :: later ∨ written = Quoted.apostrophe :: later := by
  cases spelled with
  | basic => exact ⟨_, .inl rfl⟩
  | literal => exact ⟨_, .inr rfl⟩

theorem name_head (spelled : Name name written) : ∃ c later, written = c :: later ∧
    (isBare c = true ∨ c = Quoted.quote ∨ c = Quoted.apostrophe) := by
  cases spelled with
  | bare chars => exact ⟨_, _, rfl, .inl (chars _ List.mem_cons_self)⟩
  | quoted spelled =>
      obtain ⟨later, rfl | rfl⟩ := oneLine_head spelled
      · exact ⟨_, _, rfl, .inr (.inl rfl)⟩
      · exact ⟨_, _, rfl, .inr (.inr rfl)⟩

theorem bare_unblank {c : Char} (bare : isBare c = true) : isSpace c = false := by
  cases blank : isSpace c with
  | false => rfl
  | true =>
      rcases isSpace_iff.mp blank with rfl | rfl
      · cases bare
      · cases bare

theorem name_unblank (spelled : Name name written) (behind : List Char) :
    ∀ c, (written ++ behind).head? = some c → isSpace c = false := by
  obtain ⟨first, later, rfl, sort⟩ := name_head spelled
  rintro c ⟨⟩
  rcases sort with bare | rfl | rfl
  · exact bare_unblank bare
  · decide
  · decide

theorem name_read (spelled : Name name written)
    (ends : ∀ c, rest.head? = some c → isBare c = false) :
    Statement.name (written ++ rest) = some (name, rest) := by
  cases spelled with
  | @bare c cs chars =>
      rw [Statement.name, (Text.span_front chars ends).1, if_pos (List.cons_ne_nil c cs), List.drop_left]
  | quoted spelled =>
      have reads : Quoted.onOneLine (written ++ rest) = some (_, rest) :=
        oneLine_iff.mpr ⟨written, spelled, rfl⟩
      have nothing : (written ++ rest).takeWhile isBare = [] := by
        obtain ⟨later, rfl | rfl⟩ := oneLine_head spelled
        · exact List.takeWhile_cons_of_neg (by decide)
        · exact List.takeWhile_cons_of_neg (by decide)
      rw [Statement.name, nothing, if_neg (not_not.mpr rfl), reads, Option.map_some]

theorem name_inverse (reads : Statement.name cs = some (name, rest)) :
    ∃ written, Name name written ∧ cs = written ++ rest := by
  rw [Statement.name] at reads
  split at reads
  · rename_i bare
    cases reads
    obtain ⟨c, later, front⟩ := List.exists_cons_of_ne_nil bare
    have chars : ∀ d ∈ cs.takeWhile isBare, isBare d = true := fun d among =>
      List.mem_takeWhile_imp among
    refine ⟨cs.takeWhile isBare, ?_, (Text.takeWhile_append_drop isBare cs).symm⟩
    rw [front] at chars ⊢
    exact .bare chars
  · obtain ⟨⟨text, behind⟩, read, same⟩ := Option.map_eq_some_iff.mp reads
    cases same
    obtain ⟨written, spelled, rfl⟩ := oneLine_iff.mp read
    exact ⟨written, .quoted spelled, rfl⟩

theorem unbare_behind {behind : List Char} (blanks : Blanks behind)
    (ends : ∀ c, rest.head? = some c → isBare c = false) :
    ∀ c, (behind ++ rest).head? = some c → isBare c = false := by
  cases behind with
  | nil => exact ends
  | cons d behind =>
      rintro c ⟨⟩
      rcases isSpace_iff.mp (blanks _ List.mem_cons_self) with rfl | rfl <;> decide

-- One name with the blanks around it.
theorem first_read {gap behind : List Char} (before : Blanks gap) (spelled : Name name written)
    (after : Blanks behind)
    (ends : ∀ c, rest.head? = some c → isSpace c = false ∧ isBare c = false) :
    Statement.name (skipSpace (gap ++ (written ++ (behind ++ rest)))) = some (name, behind ++ rest) ∧
      skipSpace (behind ++ rest) = rest := by
  rw [skip_blanks before (name_unblank spelled _)]
  exact ⟨name_read spelled (unbare_behind after fun c first => (ends c first).2),
    skip_blanks after fun c first => (ends c first).1⟩

theorem names_read {n : Nat} (spelled : Dotted names written) (few : names.length ≤ n)
    (ends : Unnamed rest) : Statement.dottedNames n (written ++ rest) = some (names, rest) := by
  induction spelled generalizing n with
  | last before spelled after =>
      obtain ⟨n, rfl⟩ := Nat.exists_eq_succ_of_ne_zero (Nat.ne_zero_of_lt few)
      obtain ⟨first, back⟩ := first_read before spelled after
        fun c front => ⟨(ends c front).1, (ends c front).2.1⟩
      rw [List.append_assoc, List.append_assoc, Statement.dottedNames, first]
      refine Option.bind_eq_some_iff.mpr ⟨_, rfl, ?_⟩
      dsimp only
      rw [back]
      split
      · exact absurd rfl (ends _ rfl).2.2
      · rfl
  | @dot name names gap written behind cs before spelled after later ih =>
      obtain ⟨n, rfl⟩ := Nat.exists_eq_succ_of_ne_zero (Nat.ne_zero_of_lt few)
      have unnamed : ∀ c, ('.' :: (cs ++ rest)).head? = some c → isSpace c = false ∧ isBare c = false := by
        rintro c ⟨⟩
        decide
      obtain ⟨first, back⟩ := first_read before spelled after unnamed
      have dotted : gap ++ (written ++ (behind ++ '.' :: cs)) ++ rest =
          gap ++ (written ++ (behind ++ '.' :: (cs ++ rest))) := by simp
      rw [dotted, Statement.dottedNames, first]
      refine Option.bind_eq_some_iff.mpr ⟨_, rfl, ?_⟩
      dsimp only
      rw [back]
      exact Option.bind_eq_some_iff.mpr ⟨_, ih (Nat.le_of_succ_le_succ few), rfl⟩

-- Behind the blanks in front of it, a dotted key begins with a name.
theorem dotted_head (spelled : Dotted names written) (behind : List Char) :
    ∃ c later, skipSpace (written ++ behind) = c :: later ∧
      (isBare c = true ∨ c = Quoted.quote ∨ c = Quoted.apostrophe) := by
  have front : ∃ name gap front more, Blanks gap ∧ Name name front ∧
      written = gap ++ (front ++ more) := by
    cases spelled with
    | last before spelled after => exact ⟨_, _, _, _, before, spelled, rfl⟩
    | dot before spelled after later => exact ⟨_, _, _, _, before, spelled, rfl⟩
  obtain ⟨name, gap, front, more, before, named, rfl⟩ := front
  obtain ⟨c, later, rfl, sort⟩ := name_head named
  refine ⟨c, later ++ (more ++ behind), ?_, sort⟩
  rw [List.append_assoc, List.append_assoc, skip_blanks before (name_unblank named _)]
  rfl

theorem names_inverse {n : Nat} (reads : Statement.dottedNames n cs = some (names, rest)) :
    ∃ written, Dotted names written ∧ cs = written ++ rest := by
  induction n generalizing cs names with
  | zero => cases reads
  | succ n ih =>
      obtain ⟨⟨first, behind⟩, read, later⟩ := Option.bind_eq_some_iff.mp reads
      obtain ⟨gap, before, parts⟩ := skip_parts cs
      obtain ⟨written, spelled, named⟩ := name_inverse read
      obtain ⟨after, blanks, behindParts⟩ := skip_parts behind
      rw [parts, named, behindParts]
      dsimp only at later
      split at later
      · rename_i more dot
        obtain ⟨⟨others, end_⟩, readMore, made⟩ := Option.bind_eq_some_iff.mp later
        cases made
        obtain ⟨cs', spelledMore, rfl⟩ := ih readMore
        refine ⟨_, .dot before spelled blanks spelledMore, ?_⟩
        rw [dot]
        simp
      · cases later
        refine ⟨_, .last before spelled blanks, ?_⟩
        simp

end LinkedKeys.Toml

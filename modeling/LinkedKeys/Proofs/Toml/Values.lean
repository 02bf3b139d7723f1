import LinkedKeys.Proofs.Toml.Names
import LinkedKeys.Proofs.Toml.QuotedLines
import LinkedKeys.Proofs.Toml.Statements

namespace LinkedKeys.Toml

open Statement (isSpace skipSpace)
open Quoted (quote apostrophe)

variable {rest cs written : List Char} {n depth : Nat} {given : Value} {rows : Rows}

inductive Leaf : Value → List Char → Prop where
  | text {text written : List Char} (spelled : Quotation text written) :
      Leaf (.text (String.ofList text)) written
  | integer {n : Int} {written : List Char} (spelled : Integer n written) : Leaf (.integer n) written

-- The pairs of an inline table, with commas between them and none behind the last.
inductive Pairs : Rows → List Char → Prop where
  | last {key : String} {value : Value} {names gap written behind : List Char}
      (named : Dotted [key] names) (before : Blanks gap) (spelled : Leaf value written)
      (after : Blanks behind) : Pairs [(key, value)] (names ++ '=' :: (gap ++ (written ++ behind)))
  | comma {key : String} {value : Value} {names gap written behind cs : List Char} {rows : Rows}
      (named : Dotted [key] names) (before : Blanks gap) (spelled : Leaf value written)
      (after : Blanks behind) (later : Pairs rows cs) :
      Pairs ((key, value) :: rows) (names ++ '=' :: (gap ++ (written ++ (behind ++ ',' :: cs))))

inductive Written : Value → List Char → Prop where
  | leaf {value : Value} {written : List Char} (spelled : Leaf value written) : Written value written
  | empty {gap : List Char} (blanks : Blanks gap) : Written (.table []) ('\x7b' :: (gap ++ ['\x7d']))
  | inline {rows : Rows} {cs : List Char} (spelled : Pairs rows cs)
      (distinct : (rows.map Prod.fst).Nodup) : Written (.table rows) ('\x7b' :: (cs ++ ['\x7d']))

-- What may stand behind a value without being taken for a part of it.
def Unvalued (rest : List Char) : Prop :=
  ∀ c, rest.head? = some c → c ≠ quote ∧ c ≠ apostrophe ∧ Scalar.isScalarChar c = false

theorem quotation_head {text : List Char} (spelled : Quotation text written) :
    ∃ later, written = quote :: later ∨ written = apostrophe :: later := by
  cases spelled with
  | oneLine spelled => exact oneLine_head spelled
  | basicLines => exact ⟨_, .inl rfl⟩
  | literalLines => exact ⟨_, .inr rfl⟩

theorem integer_head {n : Int} (spelled : Integer n written) :
    ∃ c later, written = c :: later ∧ Scalar.isScalarChar c = true := by
  have chars := (integer_chars spelled).1
  cases written with
  | cons c later => exact ⟨c, later, rfl, chars c List.mem_cons_self⟩
  | nil =>
      have reads := integer_iff.mpr spelled
      cases reads

theorem leaf_read (spelled : Leaf given written) (ends : Unvalued rest) (n depth : Nat) :
    Statement.value (n + 1) depth (written ++ rest) = some (given, rest) := by
  cases spelled with
  | text spelled =>
      have apart : ∀ mark ∈ [quote, apostrophe], rest.head? ≠ some mark := by
        intro mark among first
        rcases List.mem_pair.mp among with rfl | rfl
        · exact (ends _ first).1 rfl
        · exact (ends _ first).2.1 rfl
      have reads := read_quotation spelled apart
      obtain ⟨later, rfl | rfl⟩ := quotation_head spelled
      · rw [List.cons_append, Statement.value.eq_def]
        dsimp only
        rw [if_pos (.inl rfl), ← List.cons_append, reads]
        rfl
      · rw [List.cons_append, Statement.value.eq_def]
        dsimp only
        rw [if_pos (.inr rfl), ← List.cons_append, reads]
        rfl
  | integer spelled =>
      have reads := integer_scalar spelled fun c first => (ends c first).2.2
      obtain ⟨c, later, rfl, sort⟩ := integer_head spelled
      have other : ∀ d, Scalar.isScalarChar d = false → c ≠ d := by
        rintro d unlike rfl
        cases sort.symm.trans unlike
      rw [List.cons_append, Statement.value.eq_def]
      dsimp only
      rw [if_neg (not_or.mpr ⟨other _ (by decide), other _ (by decide)⟩), if_neg (other _ (by decide)),
        if_neg (other _ (by decide))]
      exact reads

theorem leaf_unblank (spelled : Leaf given written) (behind : List Char) :
    ∀ c, (written ++ behind).head? = some c → isSpace c = false := by
  cases spelled with
  | text spelled =>
      obtain ⟨later, rfl | rfl⟩ := quotation_head spelled
      · rintro c ⟨⟩
        decide
      · rintro c ⟨⟩
        decide
  | integer spelled =>
      obtain ⟨d, later, rfl, sort⟩ := integer_head spelled
      rintro c ⟨⟩
      cases blank : isSpace d with
      | false => rfl
      | true =>
          rcases isSpace_iff.mp blank with rfl | rfl
          · cases sort
          · cases sort

theorem blank_unvalued {behind : List Char} (blanks : Blanks behind) (ends : Unvalued rest) :
    Unvalued (behind ++ rest) := by
  cases behind with
  | nil => exact ends
  | cons d behind =>
      rintro c ⟨⟩
      rcases isSpace_iff.mp (blanks _ List.mem_cons_self) with rfl | rfl <;> decide

theorem leaf_behind {gap behind : List Char} (before : Blanks gap) (spelled : Leaf given written)
    (after : Blanks behind) (ends : Unvalued rest) (n depth : Nat) :
    Statement.value (n + 1) depth (skipSpace (gap ++ (written ++ (behind ++ rest)))) =
      some (given, behind ++ rest) := by
  rw [skip_blanks before (leaf_unblank spelled _)]
  exact leaf_read spelled (blank_unvalued after ends) n depth

theorem dotted_read {names : List String} (spelled : Dotted names written)
    (few : names.length < deepest) (rest : List Char) :
    Statement.dotted (written ++ '=' :: rest) = some (names, '=' :: rest) := by
  apply names_read spelled (Nat.le_pred_of_lt few)
  rintro c ⟨⟩
  decide

theorem freezeRows_append (rows : Node.Rows) (key : String) (value : Value) :
    Node.freezeRows (rows ++ [(key, .value value)]) = Node.freezeRows rows ++ [(key, value)] := by
  rw [Node.freezeRows_map, Node.freezeRows_map, List.map_append]
  rfl

theorem assign_fresh {before : Node.Rows} {key : String} (fresh : before.lookup key = none)
    (value : Value) : Node.assign key value [] before = some (before ++ [(key, .value value)]) := by
  rw [Node.assign, fresh]

-- One pair, and the brace or the comma behind it.
theorem pair_read {before : Node.Rows} {key : String} {names gap behind others : List Char} {mark : Char}
    (named : Dotted [key] names) (front : Blanks gap) (spelled : Leaf given written)
    (after : Blanks behind) (fresh : before.lookup key = none)
    (ends : (mark = '\x7d' ∧ others = rest ∧ rows = Node.freezeRows before ++ [(key, given)]) ∨
      (mark = ',' ∧ Statement.pairs (n + 1) depth (before ++ [(key, .value given)]) others =
        some (rows, rest))) :
    Statement.pairs (n + 2) depth before
      (names ++ '=' :: (gap ++ (written ++ (behind ++ mark :: others)))) = some (rows, rest) := by
  have single : 1 < deepest := by decide
  have marks : mark = '\x7d' ∨ mark = ',' := ends.imp And.left And.left
  have unvalued : Unvalued (mark :: others) := by
    rintro c ⟨⟩
    rcases marks with rfl | rfl <;> decide
  have unblank : ∀ c, (mark :: others).head? = some c → isSpace c = false := by
    rintro c ⟨⟩
    rcases marks with rfl | rfl <;> decide
  have closes : skipSpace (behind ++ mark :: others) = mark :: others := skip_blanks after unblank
  refine pairs_iff.mpr ⟨[], key, _, given, _, _, dotted_read named single _,
    leaf_behind front spelled after unvalued n depth, assign_fresh fresh given, ?_⟩
  rw [closes, freezeRows_append]
  rcases ends with ⟨rfl, rfl, rfl⟩ | ⟨rfl, later⟩
  · exact .inl ⟨rfl, rfl⟩
  · exact .inr ⟨others, rfl, later⟩

theorem pairs_read (spelled : Pairs rows cs) (distinct : (rows.map Prod.fst).Nodup)
    (enough : rows.length < n) (depth : Nat) {before : Node.Rows}
    (fresh : ∀ row ∈ rows, before.lookup row.1 = none) (rest : List Char) :
    Statement.pairs n depth before (cs ++ '\x7d' :: rest) =
      some (Node.freezeRows before ++ rows, rest) := by
  induction spelled generalizing n before with
  | @last key value names gap written behind named front spelled after =>
      obtain ⟨n, rfl⟩ : ∃ m, n = m + 2 := Nat.exists_eq_add_of_le' enough
      have text : names ++ '=' :: (gap ++ (written ++ behind)) ++ '\x7d' :: rest =
          names ++ '=' :: (gap ++ (written ++ (behind ++ '\x7d' :: rest))) := by simp
      rw [text]
      exact pair_read named front spelled after (fresh (key, value) List.mem_cons_self)
        (.inl ⟨rfl, rfl, rfl⟩)
  | @comma key value names gap written behind cs rows named front spelled after later ih =>
      obtain ⟨n, rfl⟩ : ∃ m, n = m + 2 :=
        Nat.exists_eq_add_of_le' (Nat.le_trans (by simp) (Nat.succ_le_of_lt enough))
      obtain ⟨new, distinct⟩ := List.nodup_cons.mp distinct
      have fresher : ∀ row ∈ rows, (before ++ [(key, Node.value value)]).lookup row.1 = none := by
        intro row among
        have other : row.1 ≠ key := fun same => new (List.mem_map.mpr ⟨row, among, same⟩)
        rw [List.lookup_append, fresh row (List.mem_cons_of_mem _ among), List.lookup_cons,
          beq_false_of_ne other]
        rfl
      have text : names ++ '=' :: (gap ++ (written ++ (behind ++ ',' :: cs))) ++ '\x7d' :: rest =
          names ++ '=' :: (gap ++ (written ++ (behind ++ ',' :: (cs ++ '\x7d' :: rest)))) := by simp
      rw [text]
      refine pair_read named front spelled after (fresh (key, value) List.mem_cons_self)
        (.inr ⟨rfl, (ih distinct (Nat.lt_of_succ_lt_succ enough) fresher).trans ?_⟩)
      rw [freezeRows_append, List.append_assoc]
      rfl

theorem pairs_length (spelled : Pairs rows cs) : rows.length ≤ cs.length := by
  induction spelled with
  | @last key value names gap written behind =>
      rw [List.length_singleton, List.length_append, List.length_cons]
      exact Nat.le_trans (Nat.le_add_left 1 _) (Nat.le_add_left _ _)
  | @comma key value names gap written behind cs rows named front spelled after later ih =>
      have inside : cs.length + 1 ≤ (gap ++ (written ++ (behind ++ ',' :: cs))).length := by
        simp only [List.length_append, List.length_cons]
        omega
      rw [List.length_cons, List.length_append, List.length_cons]
      calc rows.length + 1
        _ ≤ cs.length + 1 := Nat.succ_le_succ ih
        _ ≤ names.length + ((gap ++ (written ++ (behind ++ ',' :: cs))).length + 1) := by omega

theorem pairs_head (spelled : Pairs rows cs) (behind : List Char) :
    (skipSpace (cs ++ behind)).head? ≠ some '\x7d' := by
  have front : ∃ names written more, Dotted names written ∧ cs = written ++ more := by
    cases spelled with
    | last named => exact ⟨_, _, _, named, rfl⟩
    | comma named => exact ⟨_, _, _, named, rfl⟩
  obtain ⟨names, written, more, named, rfl⟩ := front
  obtain ⟨c, later, first, sort⟩ := dotted_head named (more ++ behind)
  rw [List.append_assoc, first]
  rintro ⟨⟩
  revert sort
  decide

theorem inline_read (n depth : Nat) (cs : List Char) :
    Statement.value (n + 1) (depth + 1) ('\x7b' :: cs) =
      if (skipSpace cs).head? = some '\x7d' then some (.table [], (skipSpace cs).drop 1)
      else (Statement.pairs n depth [] cs).map fun r => (.table r.1, r.2) := by
  rw [Statement.value.eq_def]
  dsimp only
  rw [if_neg (by decide), if_neg (by decide), if_pos rfl]

theorem written_read (spelled : Written given written) (ends : Unvalued rest) :
    Statement.valueOf (written ++ rest) = some (given, rest) := by
  have deep : deepest - 1 = 78 + 1 := rfl
  rw [Statement.valueOf, deep]
  cases spelled with
  | leaf spelled => exact leaf_read spelled ends _ _
  | @empty gap blanks =>
      have text : '\x7b' :: (gap ++ ['\x7d']) ++ rest = '\x7b' :: (gap ++ '\x7d' :: rest) := by simp
      have inside : skipSpace (gap ++ '\x7d' :: rest) = '\x7d' :: rest :=
        skip_blanks blanks (by rintro c ⟨⟩; decide)
      rw [text, inline_read, inside]
      exact if_pos rfl
  | @inline rows cs spelled distinct =>
      have text : '\x7b' :: (cs ++ ['\x7d']) ++ rest = '\x7b' :: (cs ++ '\x7d' :: rest) := by simp
      have enough : rows.length < 2 * ('\x7b' :: (cs ++ '\x7d' :: rest)).length + 1 := by
        have few := pairs_length spelled
        simp only [List.length_cons, List.length_append]
        omega
      rw [text, inline_read, if_neg (pairs_head spelled _),
        pairs_read spelled distinct enough 78 (fun _ _ => rfl)]
      rfl

def Value.IsLeaf : Value → Prop
  | .text _ | .integer _ => True
  | _ => False

def Value.IsScalar : Value → Prop
  | .text _ | .list _ | .table _ => False
  | _ => True

-- The kinds of values by what they begin with.
inductive Begins (cs rest : List Char) : Value → Prop where
  | text {text : List Char} (read : Quoted.read cs = some (text, rest)) :
      Begins cs rest (.text (String.ofList text))
  | list (items : List Value) : Begins cs rest (.list items)
  | empty {gap : List Char} (blanks : Blanks gap) (same : cs = '\x7b' :: (gap ++ '\x7d' :: rest)) :
      Begins cs rest (.table [])
  | inline {n depth : Nat} {inside : List Char} {rows : Rows} (same : cs = '\x7b' :: inside)
      (read : Statement.pairs n depth [] inside = some (rows, rest)) : Begins cs rest (.table rows)
  | scalar {value : Value} (plain : value.IsScalar) (read : Scalar.read cs = some (value, rest)) :
      Begins cs rest value

theorem scalar_plain (reads : Scalar.read cs = some (given, rest)) : given.IsScalar := by
  obtain ⟨found, scalar, same⟩ := Option.map_eq_some_iff.mp reads
  cases same
  rw [Scalar.ofText] at scalar
  split at scalar
  · cases scalar
    trivial
  split at scalar
  · cases scalar
    trivial
  split at scalar
  · cases scalar
    trivial
  split at scalar
  · cases scalar
    trivial
  · obtain ⟨moment, -, same⟩ := Option.map_eq_some_iff.mp scalar
    cases same
    trivial

theorem value_begins (reads : Statement.value n depth cs = some (given, rest)) :
    Begins cs rest given := by
  rw [Statement.value.eq_def] at reads
  split at reads
  · cases reads
  split at reads
  · cases reads
  split at reads
  · obtain ⟨⟨text, behind⟩, read, made⟩ := Option.map_eq_some_iff.mp reads
    cases made
    exact .text read
  split at reads
  · split at reads
    · cases reads
    · obtain ⟨⟨items, behind⟩, -, made⟩ := Option.map_eq_some_iff.mp reads
      cases made
      exact .list items
  split at reads
  · rename_i brace
    split at reads
    · cases reads
    split at reads
    · rename_i closes
      cases reads
      obtain ⟨later, found⟩ := List.head?_eq_some_iff.mp closes
      obtain ⟨gap, blanks, parts⟩ := skip_parts _
      rw [found] at parts ⊢
      exact .empty blanks (by rw [brace, parts]; rfl)
    · obtain ⟨⟨rows, behind⟩, read, made⟩ := Option.map_eq_some_iff.mp reads
      cases made
      exact .inline (by rw [brace]) read
  · exact .scalar (scalar_plain reads) reads

theorem leaf_inverse (leaf : given.IsLeaf) (reads : Statement.value n depth cs = some (given, rest)) :
    ∃ written, Leaf given written ∧ cs = written ++ rest := by
  cases value_begins reads with
  | text read =>
      obtain ⟨written, spelled, rfl⟩ := quotation_read read
      exact ⟨written, .text spelled, rfl⟩
  | scalar plain read =>
      cases given with
      | integer n =>
          obtain ⟨written, spelled, rfl⟩ := scalar_integer read
          exact ⟨written, .integer spelled, rfl⟩
      | text => exact plain.elim
      | _ => exact leaf.elim
  | _ => exact leaf.elim

-- A table that holds texts and integers under single names.
def Flat (rows : Rows) : Prop := ∀ path place, rows.at? path = some place →
  path = [] ∨ ∃ key leaf, path = [key] ∧ place = .value leaf ∧ leaf.IsLeaf

theorem pairs_grow {before : Node.Rows} (reads : Statement.pairs n depth before cs = some (rows, rest))
    (path : List String) (place : Place) (there : (Node.freezeRows before).at? path = some place) :
    rows.at? path = some place := by
  induction n generalizing before cs with
  | zero => cases reads
  | succ n ih =>
      obtain ⟨front, key, inside, given, behind, after, -, -, assigns, ends⟩ := pairs_iff.mp reads
      have grown := (Node.assign_adds assigns path place).mpr (.inl there)
      rcases ends with ⟨-, rfl⟩ | ⟨others, -, later⟩
      · exact grown
      · exact ih later grown

-- In a flat table no pair has more than one name.
theorem pair_flat {before after : Node.Rows} {front : List String} {key : String} (flat : Flat rows)
    (grows : ∀ path place, (Node.freezeRows after).at? path = some place → rows.at? path = some place)
    (assigns : Node.assign key given front before = some after) :
    front = [] ∧ given.IsLeaf ∧ before.lookup key = none ∧
      after = before ++ [(key, .value given)] := by
  obtain ⟨place, here⟩ := Value.at?_root given
  have said : (Value.alone (front ++ [key]) given).at? (front ++ [key]) = some place := by
    have whole := Value.alone_append (front ++ [key]) [] given
    rw [List.append_nil] at whole
    rw [whole, here]
  have there := grows _ _ ((Node.assign_adds assigns _ _).mpr (.inr said))
  rcases flat _ _ there with nothing | ⟨name, leaf, single, rfl, sort⟩
  · simp at nothing
  · have none : front = [] := by
      have size := congrArg List.length single
      simpa using size
    subst none
    obtain ⟨fresh, made⟩ := Node.assign_here assigns
    rw [Value.at?_here here] at sort
    exact ⟨rfl, sort, fresh, made.trans (Node.put_absent fresh)⟩

theorem pair_inverse {key : String} {more behind : List Char} (leaf : given.IsLeaf)
    (named : Statement.dotted cs = some ([key], '=' :: more))
    (reads : Statement.value n depth (skipSpace more) = some (given, behind)) :
    ∃ names gap written after, Dotted [key] names ∧ Blanks gap ∧ Leaf given written ∧ Blanks after ∧
      cs = names ++ '=' :: (gap ++ (written ++ (after ++ skipSpace behind))) := by
  obtain ⟨names, dotted, rfl⟩ := names_inverse named
  obtain ⟨written, spelled, inside⟩ := leaf_inverse leaf reads
  obtain ⟨gap, before, parts⟩ := skip_parts more
  obtain ⟨after, blanks, ending⟩ := skip_parts behind
  refine ⟨names, gap, written, after, dotted, before, spelled, blanks, ?_⟩
  rw [← ending, ← inside, ← parts]

theorem pairs_inverse {before : Node.Rows} (flat : Flat rows)
    (reads : Statement.pairs n depth before cs = some (rows, rest)) : ∃ more written,
      Pairs more written ∧ cs = written ++ '\x7d' :: rest ∧ rows = Node.freezeRows before ++ more ∧
        (∀ row ∈ more, before.lookup row.1 = none) ∧ (more.map Prod.fst).Nodup := by
  induction n generalizing before cs with
  | zero => cases reads
  | succ n ih =>
      obtain ⟨front, key, inside, given, behind, after, named, value, assigns, ends⟩ :=
        pairs_iff.mp reads
      have grows : ∀ path place, (Node.freezeRows after).at? path = some place →
          rows.at? path = some place := by
        rcases ends with ⟨-, rfl⟩ | ⟨others, -, later⟩
        · exact fun _ _ there => there
        · exact pairs_grow later
      obtain ⟨rfl, leaf, fresh, rfl⟩ := pair_flat flat grows assigns
      obtain ⟨names, gap, written, after, dotted, blanks, spelled, unread, rfl⟩ :=
        pair_inverse leaf named value
      rcases ends with ⟨closes, rfl⟩ | ⟨others, parts, later⟩
      · refine ⟨[(key, given)], _, .last dotted blanks spelled unread, ?_, freezeRows_append _ _ _, ?_,
          List.pairwise_singleton _ key⟩
        · rw [closes]
          simp
        · intro row among
          rw [List.mem_singleton.mp among]
          exact fresh
      · obtain ⟨more, written, pairs, rfl, rfl, fresher, distinct⟩ := ih later
        refine ⟨(key, given) :: more, _, .comma dotted blanks spelled unread pairs, ?_, ?_, ?_, ?_⟩
        · rw [parts]
          simp
        · rw [freezeRows_append, List.append_assoc]
          rfl
        · refine List.forall_mem_cons.mpr ⟨fresh, fun row among => ?_⟩
          have nowhere := fresher row among
          rw [List.lookup_append, Option.or_eq_none_iff] at nowhere
          exact nowhere.1
        · refine List.nodup_cons.mpr ⟨fun among => ?_, distinct⟩
          obtain ⟨row, there, rfl⟩ := List.mem_map.mp among
          have nowhere := fresher row there
          rw [List.lookup_append, fresh, List.lookup_cons, beq_self_eq_true] at nowhere
          cases nowhere

def Value.IsSetting (given : Value) : Prop :=
  given.IsLeaf ∨ ∃ rows, given = .table rows ∧ Flat rows

theorem written_inverse (setting : given.IsSetting)
    (reads : Statement.value n depth cs = some (given, rest)) :
    ∃ written, Written given written ∧ cs = written ++ rest := by
  rcases setting with leaf | ⟨rows, rfl, flat⟩
  · obtain ⟨written, spelled, rfl⟩ := leaf_inverse leaf reads
    exact ⟨written, .leaf spelled, rfl⟩
  · cases value_begins reads with
    | empty blanks same => exact ⟨_, .empty blanks, by rw [same]; simp⟩
    | inline same read =>
        obtain ⟨more, written, spelled, rfl, rfl, -, distinct⟩ := pairs_inverse flat read
        exact ⟨_, .inline spelled distinct, by rw [same]; simp⟩
    | scalar plain => exact plain.elim

end LinkedKeys.Toml

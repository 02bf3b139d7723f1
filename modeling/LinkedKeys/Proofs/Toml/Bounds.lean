import LinkedKeys.Proofs.Toml.Statements

namespace LinkedKeys.Toml

open Scalar (least greatest)

inductive Value.Bounded : Value → Prop where
  | text (text : String) : Bounded (.text text)
  | integer {n : Int} (low : least ≤ n) (high : n ≤ greatest) : Bounded (.integer n)
  | float (real : Real) : Bounded (.float real)
  | boolean (value : Bool) : Bounded (.boolean value)
  | moment (moment : Moment) : Bounded (.moment moment)
  | list {items : List Value} (each : ∀ item ∈ items, Bounded item) : Bounded (.list items)
  | table {rows : Rows} (each : ∀ row ∈ rows, Bounded row.2) : Bounded (.table rows)

def Node.Bounded (rows : Node.Rows) : Prop := Node.MadeRows Value.Bounded True rows

theorem Node.freeze_bounded {node : Node} (made : Node.Made Value.Bounded True node) :
    node.freeze.Bounded := by
  induction made with
  | value sort => exact sort
  | table each ih =>
      rw [freeze, freezeRows_map]
      refine .table fun row among => ?_
      obtain ⟨old, there, rfl⟩ := List.mem_map.mp among
      exact ih old there
  | items may each ih =>
      rw [freeze, freezeItems_map]
      refine .list fun item among => ?_
      obtain ⟨rows, there, rfl⟩ := List.mem_map.mp among
      rw [freezeRows_map]
      refine .table fun row among => ?_
      obtain ⟨old, inside, rfl⟩ := List.mem_map.mp among
      exact ih rows there old inside

theorem Node.freezeRows_bounded {rows : Node.Rows} (bounded : Node.Bounded rows) :
    (Value.table (freezeRows rows)).Bounded :=
  freeze_bounded (.table bounded : Node.Made Value.Bounded True (.table .header rows))

theorem Value.at?_bounded {path : List String} {whole given : Value} (bounded : whole.Bounded)
    (there : whole.at? path = some (.value given)) : given.Bounded := by
  induction path generalizing whole with
  | nil =>
      rw [at?_here there]
      exact bounded
  | cons name path ih =>
      cases bounded with
      | table each =>
          obtain ⟨inner, found, later⟩ := Option.bind_eq_some_iff.mp there
          exact ih (each _ (mem_of_lookup found)) later
      | _ => cases there

theorem inRange_bounds {n m : Int} (fits : Scalar.inRange n = some m) : least ≤ m ∧ m ≤ greatest := by
  rw [Scalar.inRange, Option.ite_none_right_eq_some] at fits
  obtain ⟨bounds, same⟩ := fits
  cases same
  exact bounds

theorem integer_bounds {cs : List Char} {n : Int} (reads : Scalar.integer cs = some n) :
    least ≤ n ∧ n ≤ greatest := by
  rw [Scalar.integer.eq_def] at reads
  split at reads
  · obtain ⟨digits, -, fits⟩ := Option.bind_eq_some_iff.mp reads
    exact inRange_bounds fits
  · obtain ⟨digits, -, fits⟩ := Option.bind_eq_some_iff.mp reads
    exact inRange_bounds fits
  · obtain ⟨digits, -, fits⟩ := Option.bind_eq_some_iff.mp reads
    exact inRange_bounds fits
  · obtain ⟨digits, -, fits⟩ := Option.bind_eq_some_iff.mp reads
    exact inRange_bounds fits

theorem scalar_bounded {cs rest : List Char} {given : Value}
    (reads : Scalar.read cs = some (given, rest)) : given.Bounded := by
  obtain ⟨found, scalar, same⟩ := Option.map_eq_some_iff.mp reads
  cases same
  rw [Scalar.ofText] at scalar
  split at scalar
  · cases scalar
    exact .boolean true
  split at scalar
  · cases scalar
    exact .boolean false
  split at scalar
  · rename_i n read
    cases scalar
    obtain ⟨low, high⟩ := integer_bounds read
    exact .integer low high
  split at scalar
  · cases scalar
    exact .float _
  · obtain ⟨moment, -, same⟩ := Option.map_eq_some_iff.mp scalar
    cases same
    exact .moment moment

-- What is read in so many steps.
structure BoundedReads (n : Nat) : Prop where
  value : ∀ depth cs given rest, Statement.value n depth cs = some (given, rest) → given.Bounded
  items : ∀ depth cs items rest, Statement.items n depth cs = some (items, rest) →
    ∀ item ∈ items, item.Bounded
  pairs : ∀ depth rows cs table rest, Node.Bounded rows →
    Statement.pairs n depth rows cs = some (table, rest) → (Value.table table).Bounded

variable {n depth : Nat} {cs rest : List Char}

theorem value_bounded (below : BoundedReads n) {given : Value}
    (reads : Statement.value (n + 1) depth cs = some (given, rest)) : given.Bounded := by
  rw [Statement.value.eq_def] at reads
  simp only at reads
  split at reads
  · cases reads
  split at reads
  · obtain ⟨text, -, made⟩ := Option.map_eq_some_iff.mp reads
    cases made
    exact .text _
  split at reads
  · cases depth with
    | zero => cases reads
    | succ depth =>
        obtain ⟨⟨items, behind⟩, read, made⟩ := Option.map_eq_some_iff.mp reads
        cases made
        exact .list (below.items depth _ items behind read)
  split at reads
  · cases depth with
    | zero => cases reads
    | succ depth =>
        simp only at reads
        split at reads
        · cases reads
          exact .table fun row among => by cases among
        · obtain ⟨⟨table, behind⟩, read, made⟩ := Option.map_eq_some_iff.mp reads
          cases made
          exact below.pairs depth [] _ table behind Node.made_nil read
  · exact scalar_bounded reads

theorem items_bounded (below : BoundedReads n) {items : List Value}
    (reads : Statement.items (n + 1) depth cs = some (items, rest)) : ∀ item ∈ items, item.Bounded := by
  rw [Statement.items.eq_def] at reads
  simp only at reads
  split at reads
  · cases reads
    exact nofun
  obtain ⟨⟨first, behind⟩, read, later⟩ := Option.bind_eq_some_iff.mp reads
  have bounded := below.value depth _ first behind read
  simp only at later
  split at later
  · cases later
    exact List.forall_mem_singleton.mpr bounded
  · obtain ⟨⟨others, ending⟩, readMore, made⟩ := Option.bind_eq_some_iff.mp later
    cases made
    exact List.forall_mem_cons.mpr ⟨bounded, below.items depth _ others _ readMore⟩
  · cases later

theorem pairs_bounded (below : BoundedReads n) {rows : Node.Rows} {table : Rows}
    (bounded : Node.Bounded rows)
    (reads : Statement.pairs (n + 1) depth rows cs = some (table, rest)) :
    (Value.table table).Bounded := by
  obtain ⟨path, key, inside, given, behind, more, -, read, assigns, ends⟩ := pairs_iff.mp reads
  have sort := below.value depth _ given behind read
  have grown : Node.Bounded more := Node.assign_made sort bounded assigns
  rcases ends with ⟨-, rfl⟩ | ⟨others, -, later⟩
  · exact Node.freezeRows_bounded grown
  · exact below.pairs depth more _ table rest grown later

theorem reads_bounded (n : Nat) : BoundedReads n := by
  induction n with
  | zero => exact ⟨nofun, nofun, nofun⟩
  | succ n ih =>
      exact ⟨fun _ _ _ _ => value_bounded ih, fun _ _ _ _ => items_bounded ih,
        fun _ _ _ _ _ => pairs_bounded ih⟩

def Statement.Bounded : Statement → Prop
  | .assign _ _ given => given.Bounded
  | _ => True

theorem closeHeader_bounded {close cs rest : List Char} {make : List String → Statement}
    {statement : Statement} (header : ∀ path, (make path).Bounded)
    (reads : Statement.closeHeader close make cs = some (statement, rest)) : statement.Bounded := by
  obtain ⟨⟨path, behind⟩, -, closed⟩ := Option.bind_eq_some_iff.mp reads
  simp only at closed
  split at closed
  · obtain ⟨behind, -, made⟩ := Option.bind_eq_some_iff.mp closed
    cases made
    exact header path
  · cases closed

theorem next_bounded {cs rest : List Char} {statement : Statement}
    (reads : Statement.next cs = some (statement, rest)) : statement.Bounded := by
  rw [Statement.next.eq_def] at reads
  split at reads
  · have header : ∀ path, (Statement.item path).Bounded := fun _ => trivial
    exact closeHeader_bounded header reads
  · have header : ∀ path, (Statement.header path).Bounded := fun _ => trivial
    exact closeHeader_bounded header reads
  · obtain ⟨⟨names, behind⟩, -, named⟩ := Option.bind_eq_some_iff.mp reads
    obtain ⟨⟨path, key⟩, -, marked⟩ := Option.bind_eq_some_iff.mp named
    simp only at marked
    split at marked
    · obtain ⟨⟨given, behind⟩, read, ended⟩ := Option.bind_eq_some_iff.mp marked
      obtain ⟨behind, -, made⟩ := Option.bind_eq_some_iff.mp ended
      cases made
      exact (reads_bounded _).value _ _ given _ read
    · cases marked

theorem lines_bounded {n : Nat} {cs : List Char} {statements : List Statement}
    (reads : Statement.lines n cs = some statements) : ∀ statement ∈ statements, statement.Bounded := by
  induction n generalizing cs statements with
  | zero => cases reads
  | succ n ih =>
      rw [Statement.lines.eq_def] at reads
      simp only at reads
      split at reads
      · cases reads
        intro statement among
        cases among
      · exact ih reads
      · obtain ⟨behind, -, later⟩ := Option.bind_eq_some_iff.mp reads
        exact ih later
      · obtain ⟨⟨first, behind⟩, read, later⟩ := Option.bind_eq_some_iff.mp reads
        obtain ⟨others, readMore, made⟩ := Option.bind_eq_some_iff.mp later
        cases made
        intro statement among
        rcases List.mem_cons.mp among with rfl | more
        · exact next_bounded read
        · exact ih readMore statement more

theorem parse_bounded {text : String} {rows : Rows} (reads : parse text = some rows) :
    (Value.table rows).Bounded := by
  obtain ⟨statements, lines, made⟩ := Option.bind_eq_some_iff.mp reads
  obtain ⟨draft, runs, frozen⟩ := Option.bind_eq_some_iff.mp made
  cases frozen
  apply Node.freezeRows_bounded
  apply statements_made _ _ runs Node.made_nil
  · intro path key given among
    exact lines_bounded lines _ among
  · intro _ _
    trivial

end LinkedKeys.Toml

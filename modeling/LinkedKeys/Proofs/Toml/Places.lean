import LinkedKeys.Toml.Document
import Mathlib.Data.List.Basic

namespace LinkedKeys.Toml

-- What is at the end of a path.
inductive Place where
  | table
  | value (given : Value)

def Value.at? : List String → Value → Option Place
  | [], .table _ => some .table
  | [], given => some (.value given)
  | name :: path, .table rows => (rows.lookup name).bind (at? path)
  | _ :: _, _ => none

-- The places of a whole document.
def Rows.at? (rows : Rows) (path : List String) : Option Place := (Value.table rows).at? path

theorem Rows.at?_cons (rows : Rows) (name : String) (path : List String) :
    Rows.at? rows (name :: path) = (rows.lookup name).bind (Value.at? path) := rfl

theorem Rows.at?_empty {path : List String} {place : Place} (there : Rows.at? [] path = some place) :
    path = [] ∧ place = .table := by
  cases path with
  | nil =>
      cases there
      exact ⟨rfl, rfl⟩
  | cons name path => cases there

-- The table that holds nothing but a value, at the end of a path.
def Value.alone : List String → Value → Value
  | [], given => given
  | name :: path, given => .table [(name, alone path given)]

theorem Value.alone_nil {path : List String} (nonempty : path ≠ []) (given : Value) :
    (alone path given).at? [] = some .table := by
  cases path with
  | nil => exact absurd rfl nonempty
  | cons name path => rfl

theorem Value.alone_append (path more : List String) (given : Value) :
    (alone path given).at? (path ++ more) = given.at? more := by
  induction path with
  | nil => rfl
  | cons name path ih =>
      rw [List.cons_append, alone, at?, List.lookup_cons, beq_self_eq_true]
      exact ih

theorem Value.at?_root (value : Value) : ∃ place, value.at? [] = some place := by
  cases value <;> exact ⟨_, rfl⟩

theorem Value.at?_here {whole given : Value} (there : whole.at? [] = some (.value given)) :
    given = whole := by
  cases whole <;> cases there <;> rfl

theorem Value.single_self (name : String) (part : Value) (path : List String) :
    (Value.table [(name, part)]).at? (name :: path) = part.at? path := by
  rw [at?, List.lookup_cons, beq_self_eq_true]
  rfl

theorem Value.single_other {name key : String} (other : key ≠ name) (part : Value)
    (path : List String) : (Value.table [(name, part)]).at? (key :: path) = none := by
  rw [at?, List.lookup_cons, beq_false_of_ne other]
  rfl

theorem mem_of_lookup {α : Type} {key : String} {found : α} {rows : List (String × α)}
    (there : rows.lookup key = some found) : (key, found) ∈ rows := by
  obtain ⟨front, behind, rfl, -⟩ := List.lookup_eq_some_iff.mp there
  exact List.mem_append_right front List.mem_cons_self

namespace Node

variable {rows rows' inner inner' : Rows} {node : Node} {name key : String} {path : List String}
  {value : Value}

theorem replace_other (other : key ≠ name) (node : Node) (rows : Rows) :
    (replace name node rows).lookup key = rows.lookup key := by
  induction rows with
  | nil => rfl
  | cons row rows ih =>
      rw [replace] at ih
      rw [replace, List.map_cons, List.lookup_cons, List.lookup_cons, ih]
      by_cases here : row.1 = name
      · rw [if_pos here, here, beq_false_of_ne other]
      · rw [if_neg here]

theorem replace_self (there : (rows.lookup name).isSome) (node : Node) :
    (replace name node rows).lookup name = some node := by
  induction rows with
  | nil => cases there
  | cons row rows ih =>
      rw [replace] at ih
      rw [replace, List.map_cons, List.lookup_cons]
      by_cases here : row.1 = name
      · rw [if_pos here, beq_self_eq_true]
      · rw [List.lookup_cons, beq_false_of_ne (Ne.symm here)] at there
        rw [if_neg here, beq_false_of_ne (Ne.symm here)]
        exact ih there

theorem put_other (other : key ≠ name) (node : Node) (rows : Rows) :
    (put name node rows).lookup key = rows.lookup key := by
  rw [put]
  split
  · exact replace_other other node rows
  · rw [List.lookup_append, List.lookup_cons, beq_false_of_ne other]
    exact Option.or_none

theorem put_self (name : String) (node : Node) (rows : Rows) :
    (put name node rows).lookup name = some node := by
  rw [put]
  split
  · rename_i there
    exact replace_self there node
  · rename_i absent
    rw [Option.not_isSome_iff_eq_none] at absent
    rw [List.lookup_append, absent, List.lookup_cons, beq_self_eq_true]
    rfl

theorem put_absent (absent : rows.lookup name = none) : put name node rows = rows ++ [(name, node)] := by
  rw [put, absent]
  rfl

theorem put_present {held : Node} (there : rows.lookup name = some held) :
    put name node rows = replace name node rows := by
  rw [put, there]
  rfl

theorem put_each {P : Node → Prop} (each : ∀ row ∈ rows, P row.2) (holds : P node) :
    ∀ row ∈ put name node rows, P row.2 := by
  intro row among
  rw [put] at among
  split at among
  · obtain ⟨old, there, made⟩ := List.mem_map.mp among
    split at made
    · rw [← made]
      exact holds
    · rw [← made]
      exact each old there
  · rcases List.mem_append.mp among with old | new
    · exact each row old
    · rw [List.mem_singleton.mp new]
      exact holds

theorem freezeRows_map (rows : Rows) :
    freezeRows rows = rows.map fun row => (row.1, row.2.freeze) := by
  induction rows with
  | nil => rfl
  | cons row rows ih => rw [freezeRows, List.map_cons, ih]

theorem freezeItems_map (tables : List Rows) :
    freezeItems tables = tables.map fun rows => .table (freezeRows rows) := by
  induction tables with
  | nil => rfl
  | cons rows tables ih => rw [freezeItems, List.map_cons, ih]

theorem lookup_freezeRows (rows : Rows) (key : String) :
    (freezeRows rows).lookup key = (rows.lookup key).map freeze := by
  induction rows with
  | nil => rfl
  | cons row rows ih =>
      obtain ⟨first, held⟩ := row
      rw [freezeRows, List.lookup_cons, List.lookup_cons, ih]
      split <;> rfl

-- All values of a table under construction are of one kind, and lists of tables are among them or not.
inductive Made (kind : Value → Prop) (listed : Prop) : Node → Prop where
  | value {given : Value} (sort : kind given) : Made kind listed (.value given)
  | table {origin : Origin} {rows : Rows} (each : ∀ row ∈ rows, Made kind listed row.2) :
      Made kind listed (.table origin rows)
  | items {tables : List Rows} (may : listed)
      (each : ∀ rows ∈ tables, ∀ row ∈ rows, Made kind listed row.2) : Made kind listed (.items tables)

def MadeRows (kind : Value → Prop) (listed : Prop) (rows : Rows) : Prop :=
  ∀ row ∈ rows, Made kind listed row.2

variable {kind : Value → Prop} {listed : Prop}

theorem made_nil : MadeRows kind listed [] := by
  intro row among
  cases among

theorem made_lookup (made : MadeRows kind listed rows) (there : rows.lookup name = some node) :
    Made kind listed node :=
  made (name, node) (mem_of_lookup there)

theorem assign_cases {name : String} (assigns : assign key value (name :: path) rows = some rows') :
    ∃ old inner, assign key value path old = some inner ∧ rows' = put name (.table .dotted inner) rows ∧
      ((rows.lookup name = none ∧ old = []) ∨ rows.lookup name = some (.table .dotted old)) := by
  rw [assign] at assigns
  split at assigns
  · rename_i absent
    obtain ⟨inner, assigned, made⟩ := Option.bind_eq_some_iff.mp assigns
    refine ⟨[], inner, assigned, ?_, .inl ⟨absent, rfl⟩⟩
    rw [put_absent absent]
    exact (Option.some.inj made).symm
  · rename_i old there
    obtain ⟨inner, assigned, made⟩ := Option.bind_eq_some_iff.mp assigns
    refine ⟨old, inner, assigned, ?_, .inr there⟩
    rw [put_present there]
    exact (Option.some.inj made).symm
  · cases assigns

theorem assign_here (assigns : assign key value [] rows = some rows') :
    rows.lookup key = none ∧ rows' = put key (.value value) rows := by
  rw [assign] at assigns
  split at assigns
  · rename_i absent
    exact ⟨absent, by rw [put_absent absent]; exact (Option.some.inj assigns).symm⟩
  · cases assigns

theorem assign_made (sort : kind value) (made : MadeRows kind listed rows)
    (assigns : assign key value path rows = some rows') : MadeRows kind listed rows' := by
  induction path generalizing rows rows' with
  | nil =>
      obtain ⟨-, rfl⟩ := assign_here assigns
      exact put_each made (.value sort)
  | cons name path ih =>
      obtain ⟨old, inner, assigned, rfl, front⟩ := assign_cases assigns
      have before : MadeRows kind listed old := by
        rcases front with ⟨-, rfl⟩ | there
        · exact made_nil
        · cases made_lookup made there with
          | table each => exact each
      exact put_each made (.table (ih before assigned))

-- Where a path goes by a name: into a table that it implies, or into what is there.
inductive Leads (rows : Rows) (name : String) : Rows → (Rows → Node) → Prop where
  | new (absent : rows.lookup name = none) : Leads rows name [] (.table .implied)
  | into {node : Node} {inner : Rows} {rebuild : Rows → Node} (there : rows.lookup name = some node)
      (opens : node.inside = some (inner, rebuild)) : Leads rows name inner rebuild

theorem along_cases {change : Option Node → Option Node}
    (leads : along change key (name :: path) rows = some rows') : ∃ old new rebuild,
      Leads rows name old rebuild ∧ along change key path old = some new ∧
        rows' = put name (rebuild new) rows := by
  rw [along] at leads
  split at leads
  · rename_i absent
    obtain ⟨new, led, made⟩ := Option.bind_eq_some_iff.mp leads
    exact ⟨_, new, _, .new absent, led, (Option.some.inj made).symm⟩
  · rename_i node there
    obtain ⟨⟨old, rebuild⟩, opens, rest⟩ := Option.bind_eq_some_iff.mp leads
    obtain ⟨new, led, made⟩ := Option.bind_eq_some_iff.mp rest
    exact ⟨old, new, rebuild, .into there opens, led, (Option.some.inj made).symm⟩

theorem within_cases {change : Rows → Option Rows}
    (leads : within change (name :: path) rows = some rows') : ∃ old new rebuild,
      Leads rows name old rebuild ∧ within change path old = some new ∧
        rows' = put name (rebuild new) rows := by
  obtain ⟨node, there, rest⟩ := Option.bind_eq_some_iff.mp leads
  obtain ⟨⟨old, rebuild⟩, opens, rest⟩ := Option.bind_eq_some_iff.mp rest
  obtain ⟨new, led, made⟩ := Option.bind_eq_some_iff.mp rest
  exact ⟨old, new, rebuild, .into there opens, led, (Option.some.inj made).symm⟩

theorem inside_made {rebuild : Rows → Node} (made : Made kind listed node)
    (leads : node.inside = some (inner, rebuild)) :
    MadeRows kind listed inner ∧
      ∀ rows, MadeRows kind listed rows → Made kind listed (rebuild rows) := by
  cases made with
  | value => cases leads
  | table each =>
      cases leads
      exact ⟨each, fun rows => .table⟩
  | @items tables may each =>
      obtain ⟨last, found, made⟩ := Option.map_eq_some_iff.mp leads
      cases made
      refine ⟨each _ (List.mem_of_getLast? found), fun rows after => .items may ?_⟩
      intro table among
      rcases List.mem_append.mp among with front | new
      · exact each table (List.dropLast_subset tables front)
      · rw [List.mem_singleton.mp new]
        exact after

theorem leads_made {rebuild : Rows → Node} (made : MadeRows kind listed rows)
    (leads : Leads rows name inner rebuild) : MadeRows kind listed inner ∧
      ∀ new, MadeRows kind listed new → MadeRows kind listed (put name (rebuild new) rows) := by
  cases leads with
  | new => exact ⟨made_nil, fun new grown => put_each made (.table grown)⟩
  | into there opens =>
      obtain ⟨before, after⟩ := inside_made (made_lookup made there) opens
      exact ⟨before, fun new grown => put_each made (after new grown)⟩

theorem along_made {change : Option Node → Option Node}
    (keeps : ∀ old new, (∀ node, old = some node → Made kind listed node) → change old = some new →
      Made kind listed new)
    (made : MadeRows kind listed rows) (leads : along change key path rows = some rows') :
    MadeRows kind listed rows' := by
  induction path generalizing rows rows' with
  | nil =>
      obtain ⟨new, changed, rfl⟩ := Option.map_eq_some_iff.mp leads
      exact put_each made (keeps _ new (fun node there => made_lookup made there) changed)
  | cons name path ih =>
      obtain ⟨old, new, rebuild, into, led, rfl⟩ := along_cases leads
      obtain ⟨before, after⟩ := leads_made made into
      exact after new (ih before led)

theorem within_made {change : Rows → Option Rows}
    (keeps : ∀ old new, MadeRows kind listed old → change old = some new → MadeRows kind listed new)
    (made : MadeRows kind listed rows) (leads : within change path rows = some rows') :
    MadeRows kind listed rows' := by
  induction path generalizing rows rows' with
  | nil => exact keeps rows rows' made leads
  | cons name path ih =>
      obtain ⟨old, new, rebuild, into, led, rfl⟩ := within_cases leads
      obtain ⟨before, after⟩ := leads_made made into
      exact after new (ih before led)

theorem openTable_made (old : Option Node) (new : Node)
    (made : ∀ node, old = some node → Made kind listed node) (opens : openTable old = some new) :
    Made kind listed new := by
  rw [openTable.eq_def] at opens
  split at opens
  · cases opens
    exact .table made_nil
  · cases opens
    cases made _ rfl with
    | table each => exact .table each
  · cases opens

theorem openItem_made (may : listed) (old : Option Node) (new : Node)
    (made : ∀ node, old = some node → Made kind listed node) (opens : openItem old = some new) :
    Made kind listed new := by
  rw [openItem.eq_def] at opens
  split at opens
  · cases opens
    refine .items may fun rows among => ?_
    rw [List.mem_singleton.mp among]
    exact made_nil
  · cases opens
    cases made _ rfl with
    | items _ each =>
        refine .items may fun rows among => ?_
        rcases List.mem_append.mp among with old | new
        · exact each rows old
        · rw [List.mem_singleton.mp new]
          exact made_nil
  · cases opens

theorem at?_put_self (name : String) (node : Node) (rows : Rows) (path : List String) :
    Toml.Rows.at? (freezeRows (put name node rows)) (name :: path) = node.freeze.at? path := by
  rw [Toml.Rows.at?_cons, lookup_freezeRows, put_self]
  rfl

theorem at?_put_other (other : key ≠ name) (node : Node) (rows : Rows) (path : List String) :
    Toml.Rows.at? (freezeRows (put name node rows)) (key :: path) =
      Toml.Rows.at? (freezeRows rows) (key :: path) := by
  rw [Toml.Rows.at?_cons, Toml.Rows.at?_cons, lookup_freezeRows, lookup_freezeRows, put_other other]

-- The second rows hold what the first do and what a part says, and nothing else.
def Adds (rows rows' : Rows) (part : Value) : Prop :=
  ∀ path place, Toml.Rows.at? (freezeRows rows') path = some place ↔
    Toml.Rows.at? (freezeRows rows) path = some place ∨ part.at? path = some place

theorem put_adds {part : Value} (holds : ∀ path place, node.freeze.at? path = some place ↔
      Toml.Rows.at? (freezeRows rows) (name :: path) = some place ∨ part.at? path = some place) :
    Adds rows (put name node rows) (.table [(name, part)]) := by
  intro path place
  cases path with
  | nil => exact ⟨.inl, fun said => said.elim id id⟩
  | cons key path =>
      by_cases same : key = name
      · subst same
        rw [at?_put_self, Value.single_self]
        exact holds path place
      · rw [at?_put_other same, Value.single_other same]
        simp

theorem put_absent_adds {given : Value} (absent : rows.lookup name = none)
    (holds : ∀ path, node.freeze.at? path = given.at? path) :
    Adds rows (put name node rows) (.table [(name, given)]) := by
  apply put_adds
  intro path place
  rw [Toml.Rows.at?_cons, lookup_freezeRows, absent, holds]
  simp

theorem put_table_adds {part : List String} {given : Value} (nonempty : part ≠ []) {origin : Origin}
    (before : (rows.lookup name = none ∧ inner = []) ∨
      ∃ origin, rows.lookup name = some (.table origin inner))
    (adds : Adds inner inner' (.alone part given)) :
    Adds rows (put name (.table origin inner') rows) (.alone (name :: part) given) := by
  apply put_adds
  intro path place
  have whole : (Node.table origin inner').freeze.at? path = Toml.Rows.at? (freezeRows inner') path := rfl
  rw [whole, adds path place, Toml.Rows.at?_cons, lookup_freezeRows]
  rcases before with ⟨absent, rfl⟩ | ⟨origin, there⟩
  · rw [absent]
    constructor
    · rintro (empty | said)
      · obtain ⟨rfl, rfl⟩ := Toml.Rows.at?_empty empty
        exact .inr (Value.alone_nil nonempty given)
      · exact .inr said
    · rintro (nowhere | said)
      · cases nowhere
      · exact .inr said
  · rw [there]
    rfl

theorem assign_adds (assigns : assign key value path rows = some rows') :
    Adds rows rows' (.alone (path ++ [key]) value) := by
  induction path generalizing rows rows' with
  | nil =>
      obtain ⟨absent, rfl⟩ := assign_here assigns
      exact put_absent_adds absent fun _ => rfl
  | cons name path ih =>
      obtain ⟨old, inner, assigned, rfl, front⟩ := assign_cases assigns
      have before : (rows.lookup name = none ∧ old = []) ∨
          ∃ origin, rows.lookup name = some (.table origin old) :=
        front.imp_right fun there => ⟨.dotted, there⟩
      exact put_table_adds (by simp) before (ih assigned)

theorem openTable_adds {new : Node} (opens : openTable (rows.lookup name) = some new) :
    Adds rows (put name new rows) (.alone [name] (.table [])) := by
  rw [openTable.eq_def] at opens
  split at opens
  · rename_i absent
    cases opens
    exact put_absent_adds absent fun _ => rfl
  · rename_i inner there
    cases opens
    apply put_adds
    intro path place
    have whole : (Node.table .header inner).freeze.at? path =
        Toml.Rows.at? (freezeRows rows) (name :: path) := by
      rw [Toml.Rows.at?_cons, lookup_freezeRows, there]
      rfl
    rw [whole]
    refine ⟨.inl, fun said => said.elim id fun empty => ?_⟩
    obtain ⟨rfl, rfl⟩ := Toml.Rows.at?_empty empty
    exact whole.symm
  · cases opens

-- Where there are no lists of tables, a path leads through tables alone.
theorem inside_table {rebuild : Rows → Node} (made : Made kind False node)
    (leads : node.inside = some (inner, rebuild)) :
    ∃ origin, node = .table origin inner ∧ rebuild = .table origin := by
  cases made with
  | value => cases leads
  | @table origin =>
      cases leads
      exact ⟨origin, rfl, rfl⟩
  | items may => cases may

theorem leads_adds {rebuild : Rows → Node} {part : List String} {given : Value} (nonempty : part ≠ [])
    (made : MadeRows kind False rows) (leads : Leads rows name inner rebuild)
    (adds : Adds inner inner' (.alone part given)) :
    Adds rows (put name (rebuild inner') rows) (.alone (name :: part) given) := by
  cases leads with
  | new absent => exact put_table_adds nonempty (.inl ⟨absent, rfl⟩) adds
  | into there opens =>
      obtain ⟨origin, rfl, rfl⟩ := inside_table (made_lookup made there) opens
      exact put_table_adds nonempty (.inr ⟨origin, there⟩) adds

theorem header_adds (made : MadeRows kind False rows)
    (leads : along openTable key path rows = some rows') :
    Adds rows rows' (.alone (path ++ [key]) (.table [])) := by
  induction path generalizing rows rows' with
  | nil =>
      obtain ⟨new, opens, rfl⟩ := Option.map_eq_some_iff.mp leads
      exact openTable_adds opens
  | cons name path ih =>
      obtain ⟨old, new, rebuild, into, led, rfl⟩ := along_cases leads
      exact leads_adds (by simp) made into (ih (leads_made made into).1 led)

theorem within_adds {change : Rows → Option Rows} {part : List String} {given : Value}
    (nonempty : part ≠ [])
    (adds : ∀ old new, change old = some new → Adds old new (.alone part given))
    (made : MadeRows kind False rows) (leads : within change path rows = some rows') :
    Adds rows rows' (.alone (path ++ part) given) := by
  induction path generalizing rows rows' with
  | nil => exact adds rows rows' leads
  | cons name path ih =>
      obtain ⟨old, new, rebuild, into, led, rfl⟩ := within_cases leads
      exact leads_adds (by simp [nonempty]) made into (ih (leads_made made into).1 led)

end Node

end LinkedKeys.Toml

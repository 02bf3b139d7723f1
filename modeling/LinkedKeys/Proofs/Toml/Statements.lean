import LinkedKeys.Proofs.Toml.Places

namespace LinkedKeys.Toml

open Statement (skipSpace splitLast)

variable {kind : Value → Prop} {listed : Prop} {draft next : Draft} {statement : Statement}
  {statements : List Statement}

theorem splitLast_some {names front : List String} {key : String}
    (split : splitLast names = some (front, key)) : names = front ++ [key] := by
  obtain ⟨last, found, parted⟩ := Option.map_eq_some_iff.mp split
  cases parted
  exact (List.dropLast_append_getLast? key found).symm

theorem splitLast_snoc (front : List String) (key : String) :
    splitLast (front ++ [key]) = some (front, key) := by
  simp [splitLast]

-- The first pair of an inline table, and the brace or the comma behind it.
theorem pairs_iff {n depth : Nat} {before : Node.Rows} {cs rest : List Char} {rows : Rows} :
    Statement.pairs (n + 1) depth before cs = some (rows, rest) ↔
      ∃ front key inside given behind after,
        Statement.dotted cs = some (front ++ [key], '=' :: inside) ∧
        Statement.value n depth (skipSpace inside) = some (given, behind) ∧
        Node.assign key given front before = some after ∧
        ((skipSpace behind = '\x7d' :: rest ∧ rows = Node.freezeRows after) ∨
          ∃ others, skipSpace behind = ',' :: others ∧
            Statement.pairs n depth after others = some (rows, rest)) := by
  rw [Statement.pairs.eq_def]
  dsimp only
  constructor
  · intro reads
    obtain ⟨⟨names, marked⟩, named, parted⟩ := Option.bind_eq_some_iff.mp reads
    obtain ⟨⟨front, key⟩, split, reads⟩ := Option.bind_eq_some_iff.mp parted
    obtain rfl := splitLast_some split
    dsimp only at reads
    split at reads
    · obtain ⟨⟨given, behind⟩, value, assigned⟩ := Option.bind_eq_some_iff.mp reads
      obtain ⟨after, assigns, ends⟩ := Option.bind_eq_some_iff.mp assigned
      refine ⟨front, key, _, given, behind, after, named, value, assigns, ?_⟩
      dsimp only at ends
      split at ends
      · rename_i closes
        cases ends
        exact .inl ⟨closes, rfl⟩
      · rename_i parts
        exact .inr ⟨_, parts, ends⟩
      · cases ends
    · cases reads
  · rintro ⟨front, key, inside, given, behind, after, named, value, assigns, ends⟩
    refine Option.bind_eq_some_iff.mpr ⟨_, named, ?_⟩
    refine Option.bind_eq_some_iff.mpr ⟨_, splitLast_snoc front key, ?_⟩
    refine Option.bind_eq_some_iff.mpr ⟨_, value, ?_⟩
    refine Option.bind_eq_some_iff.mpr ⟨_, assigns, ?_⟩
    dsimp only
    rcases ends with ⟨closes, rfl⟩ | ⟨others, parts, later⟩
    · rw [closes]
      rfl
    · rw [parts]
      exact later

-- The steps by which a document grows.
inductive Draft.Grows (draft : Draft) : Statement → Draft → Prop where
  | header {front : List String} {key : String} {rows : Node.Rows}
      (leads : Node.along Node.openTable key front draft.rows = some rows) :
      Grows draft (.header (front ++ [key])) ⟨rows, front ++ [key]⟩
  | item {front : List String} {key : String} {rows : Node.Rows}
      (leads : Node.along Node.openItem key front draft.rows = some rows) :
      Grows draft (.item (front ++ [key])) ⟨rows, front ++ [key]⟩
  | assign {path : List String} {key : String} {given : Value} {rows : Node.Rows}
      (leads : Node.within (Node.assign key given path) draft.path draft.rows = some rows) :
      Grows draft (.assign path key given) ⟨rows, draft.path⟩

theorem add_grows (adds : draft.add statement = some next) : draft.Grows statement next := by
  cases statement with
  | header path =>
      obtain ⟨⟨front, key⟩, split, rest⟩ := Option.bind_eq_some_iff.mp adds
      obtain ⟨rows, leads, made⟩ := Option.bind_eq_some_iff.mp rest
      cases made
      rw [splitLast_some split]
      exact .header leads
  | item path =>
      obtain ⟨⟨front, key⟩, split, rest⟩ := Option.bind_eq_some_iff.mp adds
      obtain ⟨rows, leads, made⟩ := Option.bind_eq_some_iff.mp rest
      cases made
      rw [splitLast_some split]
      exact .item leads
  | assign path key given =>
      obtain ⟨rows, leads, made⟩ := Option.bind_eq_some_iff.mp adds
      cases made
      exact .assign leads

theorem grows_made (sorts : ∀ path key given, statement = .assign path key given → kind given)
    (may : ∀ path, statement = .item path → listed) (grows : draft.Grows statement next)
    (made : Node.MadeRows kind listed draft.rows) : Node.MadeRows kind listed next.rows := by
  cases grows with
  | header leads => exact Node.along_made Node.openTable_made made leads
  | item leads => exact Node.along_made (Node.openItem_made (may _ rfl)) made leads
  | assign leads =>
      exact Node.within_made (fun _ _ before => Node.assign_made (sorts _ _ _ rfl) before) made leads

theorem statements_made (sorts : ∀ path key given, .assign path key given ∈ statements → kind given)
    (may : ∀ path, .item path ∈ statements → listed)
    (runs : statements.foldlM Draft.add draft = some next)
    (made : Node.MadeRows kind listed draft.rows) : Node.MadeRows kind listed next.rows := by
  induction statements generalizing draft with
  | nil =>
      cases runs
      exact made
  | cons statement later ih =>
      obtain ⟨middle, adds, rest⟩ := Option.bind_eq_some_iff.mp runs
      have grown := grows_made (fun path key given same => sorts path key given (same ▸ List.mem_cons_self))
        (fun path same => may path (same ▸ List.mem_cons_self)) (add_grows adds) made
      exact ih (fun path key given among => sorts path key given (List.mem_cons_of_mem _ among))
        (fun path among => may path (List.mem_cons_of_mem _ among)) rest grown

-- Each statement on its own, as the table that holds no more than it: the first argument is the table
-- that a header has opened.
def parts : List String → List Statement → List Value
  | _, [] => []
  | _, .header path :: later => .alone path (.table []) :: parts path later
  | _, .item path :: later => parts path later
  | here, .assign path key given :: later => .alone (here ++ (path ++ [key])) given :: parts here later

-- What a document holds is what one of its statements says.
def Said (statements : List Statement) (path : List String) (place : Place) : Prop :=
  (path = [] ∧ place = .table) ∨ ∃ part ∈ parts [] statements, part.at? path = some place

theorem header_part {path : List String} (here : List String) (among : .header path ∈ statements) :
    .alone path (.table []) ∈ parts here statements := by
  induction statements generalizing here with
  | nil => cases among
  | cons statement later ih =>
      rcases List.mem_cons.mp among with rfl | behind
      · exact List.mem_cons_self
      · cases statement with
        | header | assign => exact List.mem_cons_of_mem _ (ih _ behind)
        | item => exact ih _ behind

theorem assign_part {path : List String} {key : String} {given : Value} (here : List String)
    (among : .assign path key given ∈ statements) :
    ∃ front, .alone (front ++ (path ++ [key])) given ∈ parts here statements := by
  induction statements generalizing here with
  | nil => cases among
  | cons statement later ih =>
      rcases List.mem_cons.mp among with rfl | behind
      · exact ⟨here, List.mem_cons_self⟩
      · cases statement with
        | header | assign =>
            obtain ⟨front, there⟩ := ih _ behind
            exact ⟨front, List.mem_cons_of_mem _ there⟩
        | item => exact ih _ behind

theorem grows_adds (plain : ∀ path, statement ≠ .item path) (grows : draft.Grows statement next)
    (made : Node.MadeRows kind False draft.rows) : ∃ part,
      (∀ later, parts draft.path (statement :: later) = part :: parts next.path later) ∧
      Node.Adds draft.rows next.rows part := by
  cases grows with
  | header leads => exact ⟨_, fun _ => rfl, Node.header_adds made leads⟩
  | item => exact absurd rfl (plain _)
  | assign leads =>
      refine ⟨_, fun _ => rfl, Node.within_adds (by simp) ?_ made leads⟩
      intro old new assigns
      exact Node.assign_adds assigns

theorem statements_add (plain : ∀ path, .item path ∉ statements)
    (runs : statements.foldlM Draft.add draft = some next)
    (made : Node.MadeRows (fun _ => True) False draft.rows) (path : List String) (place : Place) :
    (Node.freezeRows next.rows).at? path = some place ↔
      (Node.freezeRows draft.rows).at? path = some place ∨
        ∃ part ∈ parts draft.path statements, part.at? path = some place := by
  induction statements generalizing draft with
  | nil =>
      cases runs
      simp [parts]
  | cons statement later ih =>
      obtain ⟨middle, adds, rest⟩ := Option.bind_eq_some_iff.mp runs
      have grows := add_grows adds
      have other : ∀ path, statement ≠ .item path := by
        rintro path rfl
        exact plain path List.mem_cons_self
      have grown := grows_made (fun _ _ _ _ => trivial) (fun path same => other path same) grows made
      obtain ⟨part, split, adds⟩ := grows_adds other grows made
      rw [ih (fun path among => plain path (List.mem_cons_of_mem _ among)) rest grown,
        adds path place, split later]
      simp [or_assoc]

theorem said_iff {rows : Rows} (plain : ∀ path, .item path ∉ statements)
    (made : ofStatements statements = some rows) (path : List String) (place : Place) :
    rows.at? path = some place ↔ Said statements path place := by
  obtain ⟨draft, runs, frozen⟩ := Option.bind_eq_some_iff.mp made
  cases frozen
  rw [statements_add plain runs Node.made_nil]
  have empty : (Node.freezeRows ({} : Draft).rows).at? path = some place ↔ path = [] ∧ place = .table := by
    refine ⟨Rows.at?_empty, ?_⟩
    rintro ⟨rfl, rfl⟩
    rfl
  rw [empty]
  rfl

namespace Node

variable {rows rows' inner inner' : Rows} {node : Node} {name key : String} {path : List String}

def ListedAt (rows : Rows) (path : List String) : Prop :=
  ∃ items, Toml.Rows.at? (freezeRows rows) path = some (.value (.list items))

-- Where there is a list there is still one later, which may have grown.
def Keeps (rows rows' : Rows) : Prop := ∀ path, ListedAt rows path → ListedAt rows' path

theorem listed_self : ListedAt (put name node rows) (name :: path) ↔
    ∃ items, node.freeze.at? path = some (.value (.list items)) := by
  simp only [ListedAt, at?_put_self]

theorem listed_lookup (there : rows.lookup name = some node) : ListedAt rows (name :: path) ↔
    ∃ items, node.freeze.at? path = some (.value (.list items)) := by
  simp only [ListedAt, Toml.Rows.at?_cons, lookup_freezeRows, there]
  rfl

theorem listed_absent (absent : rows.lookup name = none) : ¬ListedAt rows (name :: path) := by
  rintro ⟨items, there⟩
  rw [Toml.Rows.at?_cons, lookup_freezeRows, absent] at there
  cases there

theorem put_keeps (holds : ∀ path, ListedAt rows (name :: path) → ListedAt (put name node rows) (name :: path)) :
    Keeps rows (put name node rows) := by
  intro path listed
  cases path with
  | nil =>
      obtain ⟨items, there⟩ := listed
      cases there
  | cons key path =>
      by_cases same : key = name
      · rw [same] at listed ⊢
        exact holds path listed
      · rw [ListedAt, at?_put_other same]
        exact listed

-- What a path leads through stays a list where it is one.
theorem inside_keeps {rebuild : Rows → Node} (leads : node.inside = some (inner, rebuild))
    (keeps : Keeps inner inner') (listed : ∃ items, node.freeze.at? path = some (.value (.list items))) :
    ∃ items, (rebuild inner').freeze.at? path = some (.value (.list items)) := by
  cases node with
  | value given => cases leads
  | table origin rows =>
      cases leads
      exact keeps path listed
  | items tables =>
      obtain ⟨last, -, same⟩ := Option.map_eq_some_iff.mp leads
      cases same
      obtain ⟨items, there⟩ := listed
      cases path with
      | nil => exact ⟨_, rfl⟩
      | cons name path => cases there

theorem leads_keeps {rebuild : Rows → Node} (leads : Leads rows name inner rebuild)
    (keeps : Keeps inner inner') : Keeps rows (put name (rebuild inner') rows) := by
  cases leads with
  | new absent => exact put_keeps fun path listed => absurd listed (listed_absent absent)
  | into there opens =>
      refine put_keeps fun path listed => listed_self.mpr ?_
      exact inside_keeps opens keeps ((listed_lookup there).mp listed)

theorem along_keeps {change : Option Node → Option Node}
    (keeps : ∀ rows node, change (List.lookup key rows) = some node → Keeps rows (put key node rows))
    (leads : along change key path rows = some rows') : Keeps rows rows' := by
  induction path generalizing rows rows' with
  | nil =>
      obtain ⟨node, changed, rfl⟩ := Option.map_eq_some_iff.mp leads
      exact keeps rows node changed
  | cons name path ih =>
      obtain ⟨old, new, rebuild, into, led, rfl⟩ := along_cases leads
      exact leads_keeps into (ih led)

theorem within_keeps {change : Rows → Option Rows}
    (keeps : ∀ old new, change old = some new → Keeps old new)
    (leads : within change path rows = some rows') : Keeps rows rows' := by
  induction path generalizing rows rows' with
  | nil => exact keeps rows rows' leads
  | cons name path ih =>
      obtain ⟨old, new, rebuild, into, led, rfl⟩ := within_cases leads
      exact leads_keeps into (ih led)

theorem assign_keeps {value : Value} (assigns : assign key value path rows = some rows') :
    Keeps rows rows' := by
  rintro place ⟨items, there⟩
  exact ⟨items, (assign_adds assigns _ _).mpr (.inl there)⟩

theorem openTable_keeps (rows : Rows) (node : Node)
    (opens : openTable (List.lookup key rows) = some node) : Keeps rows (put key node rows) := by
  rintro place ⟨items, there⟩
  exact ⟨items, (openTable_adds opens _ _).mpr (.inl there)⟩

theorem openItem_keeps (rows : Rows) (node : Node)
    (opens : openItem (List.lookup key rows) = some node) : Keeps rows (put key node rows) := by
  rw [openItem.eq_def] at opens
  split at opens
  · rename_i absent
    exact put_keeps fun path listed => absurd listed (listed_absent absent)
  · rename_i tables there
    cases opens
    refine put_keeps fun path listed => listed_self.mpr ?_
    obtain ⟨items, held⟩ := (listed_lookup there).mp listed
    cases path with
    | nil => exact ⟨_, rfl⟩
    | cons name path => cases held
  · cases opens

theorem openItem_listed {old : Option Node} (opens : openItem old = some node) :
    ∃ items, node.freeze.at? [] = some (.value (.list items)) := by
  rw [openItem.eq_def] at opens
  split at opens
  · cases opens
    exact ⟨_, rfl⟩
  · cases opens
    exact ⟨_, rfl⟩
  · cases opens

theorem leads_listed {rebuild : Rows → Node} (leads : Leads rows name inner rebuild)
    (listed : ListedAt inner' path) : ∃ path, ListedAt (put name (rebuild inner') rows) path := by
  cases leads with
  | new => exact ⟨name :: path, listed_self.mpr listed⟩
  | @into node inner rebuild there opens =>
      cases node with
      | value given => cases opens
      | table origin inner =>
          cases opens
          exact ⟨name :: path, listed_self.mpr listed⟩
      | items tables =>
          obtain ⟨last, -, same⟩ := Option.map_eq_some_iff.mp opens
          cases same
          exact ⟨[name], listed_self.mpr ⟨_, rfl⟩⟩

theorem item_listed (leads : along openItem key path rows = some rows') :
    ∃ path, ListedAt rows' path := by
  induction path generalizing rows rows' with
  | nil =>
      obtain ⟨node, opens, rfl⟩ := Option.map_eq_some_iff.mp leads
      exact ⟨[key], listed_self.mpr (openItem_listed opens)⟩
  | cons name path ih =>
      obtain ⟨old, new, rebuild, into, led, rfl⟩ := along_cases leads
      obtain ⟨place, listed⟩ := ih led
      exact leads_listed into listed

end Node

theorem grows_keeps (grows : draft.Grows statement next) : Node.Keeps draft.rows next.rows := by
  cases grows with
  | header leads => exact Node.along_keeps Node.openTable_keeps leads
  | item leads => exact Node.along_keeps Node.openItem_keeps leads
  | assign leads => exact Node.within_keeps (fun _ _ => Node.assign_keeps) leads

theorem statements_keep (runs : statements.foldlM Draft.add draft = some next) :
    Node.Keeps draft.rows next.rows := by
  induction statements generalizing draft with
  | nil =>
      cases runs
      exact fun _ listed => listed
  | cons statement later ih =>
      obtain ⟨middle, adds, rest⟩ := Option.bind_eq_some_iff.mp runs
      exact fun path listed => ih rest path (grows_keeps (add_grows adds) path listed)

-- An item of a table list leaves a list in the document.
theorem items_listed {path : List String} {rows : Rows} (among : .item path ∈ statements)
    (made : ofStatements statements = some rows) :
    ∃ path items, rows.at? path = some (.value (.list items)) := by
  obtain ⟨draft, runs, frozen⟩ := Option.bind_eq_some_iff.mp made
  cases frozen
  obtain ⟨before, after, rfl⟩ := List.append_of_mem among
  rw [List.foldlM_append] at runs
  obtain ⟨middle, -, rest⟩ := Option.bind_eq_some_iff.mp runs
  obtain ⟨opened, adds, later⟩ := Option.bind_eq_some_iff.mp rest
  cases add_grows adds with
  | item leads =>
      obtain ⟨place, listed⟩ := Node.item_listed leads
      exact ⟨place, statements_keep later place listed⟩

end LinkedKeys.Toml

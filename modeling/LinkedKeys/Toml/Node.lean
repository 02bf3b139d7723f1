import LinkedKeys.Toml.Value

namespace LinkedKeys.Toml

-- A header opens a table once. It may open one that only a longer header has implied, and it adds
-- to no table that a dotted key has made.
inductive Origin where
  | header
  | implied
  | dotted
  deriving DecidableEq

-- A value is closed: no statement adds to it.
inductive Node where
  | value (value : Value)
  | table (origin : Origin) (rows : List (String × Node))
  | items (tables : List (List (String × Node)))

namespace Node

abbrev Rows := List (String × Node)

def replace (key : String) (node : Node) (rows : Rows) : Rows :=
  rows.map fun row => if row.1 = key then (key, node) else row

-- A dotted key makes the tables on its way, and adds to those that another dotted key has made.
def assign (key : String) (value : Value) : List String → Rows → Option Rows
  | [], rows =>
      match rows.lookup key with
      | none => some (rows ++ [(key, .value value)])
      | some _ => none
  | name :: path, rows =>
      match rows.lookup name with
      | none => do
          let inner ← assign key value path []
          some (rows ++ [(name, .table .dotted inner)])
      | some (.table .dotted inner) => do
          let inner ← assign key value path inner
          some (replace name (.table .dotted inner) rows)
      | some _ => none

-- What the last name of a header makes of what is there.
def openTable : Option Node → Option Node
  | none => some (.table .header [])
  | some (.table .implied rows) => some (.table .header rows)
  | some _ => none

def openItem : Option Node → Option Node
  | none => some (.items [[]])
  | some (.items tables) => some (.items (tables ++ [[]]))
  | some _ => none

def put (key : String) (node : Node) (rows : Rows) : Rows :=
  if (rows.lookup key).isSome then replace key node rows else rows ++ [(key, node)]

-- The table of a node that a path may lead through: of a list of tables, the last one.
def inside : Node → Option (Rows × (Rows → Node))
  | .value _ => none
  | .table origin rows => some (rows, .table origin)
  | .items tables =>
      tables.getLast?.map fun last => (last, fun rows => .items (tables.dropLast ++ [rows]))

-- Follows the names of a header, implying tables that are not there, and changes the last.
def along (change : Option Node → Option Node) (key : String) : List String → Rows → Option Rows
  | [], rows => (change (rows.lookup key)).map fun node => put key node rows
  | name :: path, rows =>
      match rows.lookup name with
      | none => do
          let inner ← along change key path []
          some (put name (.table .implied inner) rows)
      | some node => do
          let (inner, rebuild) ← node.inside
          let inner ← along change key path inner
          some (put name (rebuild inner) rows)

-- Changes the rows of the table that a header has opened.
def within (change : Rows → Option Rows) : List String → Rows → Option Rows
  | [], rows => change rows
  | name :: path, rows => do
      let (inner, rebuild) ← (← rows.lookup name).inside
      let inner ← within change path inner
      some (put name (rebuild inner) rows)

mutual

def freeze : Node → Value
  | .value given => given
  | .table _ rows => .table (freezeRows rows)
  | .items tables => .list (freezeItems tables)

def freezeRows : List (String × Node) → Toml.Rows
  | [] => []
  | (key, node) :: rest => (key, node.freeze) :: freezeRows rest

def freezeItems : List (List (String × Node)) → List Value
  | [] => []
  | rows :: rest => .table (freezeRows rows) :: freezeItems rest

end

end Node

end LinkedKeys.Toml

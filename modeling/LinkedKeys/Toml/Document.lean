import LinkedKeys.Toml.Statement

namespace LinkedKeys.Toml

-- The rows so far and the path of the table that assignments go to.
structure Draft where
  rows : Node.Rows := []
  path : List String := []

def Draft.add (d : Draft) : Statement → Option Draft
  | .header path => do
      let (front, key) ← Statement.splitLast path
      some ⟨← Node.along Node.openTable key front d.rows, path⟩
  | .item path => do
      let (front, key) ← Statement.splitLast path
      some ⟨← Node.along Node.openItem key front d.rows, path⟩
  | .assign path key value => do
      some { d with rows := ← Node.within (Node.assign key value path) d.path d.rows }

def ofStatements (statements : List Statement) : Option Rows := do
  let draft ← statements.foldlM Draft.add {}
  some (Node.freezeRows draft.rows)

def parse (text : String) : Option Rows := do
  ofStatements (← Statement.ofText text)

end LinkedKeys.Toml

import LinkedKeys.Toml.Node
import LinkedKeys.Toml.Scalar

namespace LinkedKeys.Toml

-- Lists and inline tables that stand inside each other, and the names of one dotted key, are
-- fewer than this.
def deepest : Nat := 80

inductive Statement where
  | header (path : List String)
  | item (path : List String)
  | assign (path : List String) (key : String) (value : Value)

namespace Statement

def isSpace (c : Char) : Bool := c = ' ' ∨ c = '\t'

def skipSpace (cs : List Char) : List Char := cs.dropWhile isSpace

def isBare (c : Char) : Bool := c.isAlphanum || c == '_' || c == '-'

def name (cs : List Char) : Option (String × List Char) :=
  let bare := cs.takeWhile isBare
  if bare ≠ [] then some (String.ofList bare, cs.drop bare.length)
  else (Quoted.onOneLine cs).map fun r => (String.ofList r.1, r.2)

-- The first argument bounds the number of names.
def dottedNames : Nat → List Char → Option (List String × List Char)
  | 0, _ => none
  | n + 1, cs => do
      let (first, rest) ← name (skipSpace cs)
      match skipSpace rest with
      | '.' :: more =>
          let (names, rest) ← dottedNames n more
          some (first :: names, rest)
      | rest => some ([first], rest)

def dotted (cs : List Char) : Option (List String × List Char) :=
  dottedNames (deepest - 1) cs

-- Blanks, line ends and comments between the items of a list.
def skipFiller (inComment : Bool) : List Char → List Char
  | [] => []
  | c :: cs =>
      if c = '\n' then skipFiller false cs
      else if inComment then
        if Quoted.isPlain c then skipFiller true cs else c :: cs
      else if isSpace c then skipFiller false cs
      else if c = '#' then skipFiller true cs
      else c :: cs

def splitLast (names : List String) : Option (List String × String) :=
  names.getLast?.map fun last => (names.dropLast, last)

mutual

-- The first argument bounds the steps, the second the depth of lists and inline tables.
def value : Nat → Nat → List Char → Option (Value × List Char)
  | 0, _, _ => none
  | n + 1, depth, cs =>
      match cs with
      | [] => none
      | c :: rest =>
          if c = Quoted.quote ∨ c = Quoted.apostrophe then
            (Quoted.read cs).map fun r => (.text (String.ofList r.1), r.2)
          else if c = '[' then
            match depth with
            | 0 => none
            | depth + 1 => (items n depth rest).map fun r => (.list r.1, r.2)
          else if c = '\x7b' then
            match depth with
            | 0 => none
            | depth + 1 =>
                if (skipSpace rest).head? = some '\x7d' then
                  some (.table [], (skipSpace rest).drop 1)
                else (pairs n depth [] rest).map fun r => (.table r.1, r.2)
          else Scalar.read cs

def items : Nat → Nat → List Char → Option (List Value × List Char)
  | 0, _, _ => none
  | n + 1, depth, cs =>
      match skipFiller false cs with
      | ']' :: rest => some ([], rest)
      | cs => do
          let (first, rest) ← value n depth cs
          match skipFiller false rest with
          | ']' :: rest => some ([first], rest)
          | ',' :: rest => do
              let (others, rest) ← items n depth rest
              some (first :: others, rest)
          | _ => none

def pairs : Nat → Nat → Node.Rows → List Char → Option (Rows × List Char)
  | 0, _, _, _ => none
  | n + 1, depth, rows, cs => do
      let (names, rest) ← dotted cs
      let (path, key) ← splitLast names
      match rest with
      | '=' :: rest => do
          let (given, rest) ← value n depth (skipSpace rest)
          let rows ← Node.assign key given path rows
          match skipSpace rest with
          | '\x7d' :: rest => some (Node.freezeRows rows, rest)
          | ',' :: rest => pairs n depth rows rest
          | _ => none
      | _ => none

end

-- Every step of a value takes a character or is followed by one that does.
def valueOf (cs : List Char) : Option (Value × List Char) :=
  value (2 * cs.length + 2) (deepest - 1) cs

-- Nothing but blanks and a comment may follow a statement on its line.
def lineEnd (cs : List Char) : Option (List Char) :=
  let cs := skipSpace cs
  let cs := if cs.head? = some '#' then (cs.drop 1).dropWhile Quoted.isPlain else cs
  match cs with
  | [] => some []
  | '\n' :: rest => some rest
  | _ => none

def closeHeader (close : List Char) (make : List String → Statement) (cs : List Char) :
    Option (Statement × List Char) := do
  let (path, rest) ← dotted cs
  if rest.take close.length = close then
    some (make path, ← lineEnd (rest.drop close.length))
  else none

def assignment (cs : List Char) : Option (Statement × List Char) := do
  let (names, rest) ← dotted cs
  let (path, key) ← splitLast names
  match rest with
  | '=' :: rest => do
      let (given, rest) ← valueOf (skipSpace rest)
      some (.assign path key given, ← lineEnd rest)
  | _ => none

def next (cs : List Char) : Option (Statement × List Char) :=
  match cs with
  | '[' :: '[' :: rest => closeHeader [']', ']'] .item rest
  | '[' :: rest => closeHeader [']'] .header rest
  | _ => assignment cs

-- The first argument bounds the number of lines.
def lines : Nat → List Char → Option (List Statement)
  | 0, _ => none
  | n + 1, cs =>
      match skipSpace cs with
      | [] => some []
      | '\n' :: rest => lines n rest
      | '#' :: rest => do lines n (← lineEnd ('#' :: rest))
      | cs => do
          let (statement, rest) ← next cs
          return statement :: (← lines n rest)

-- A carriage return before a line feed is part of the line end.
def joinLineEnds : List Char → List Char
  | [] => []
  | c :: cs => if c = '\r' ∧ cs.head? = some '\n' then joinLineEnds cs else c :: joinLineEnds cs

def byteOrderMark : Char := Char.ofNat 0xfeff

def ofText (text : String) : Option (List Statement) :=
  let cs := joinLineEnds text.toList
  let cs := if cs.head? = some byteOrderMark then cs.drop 1 else cs
  lines (cs.length + 1) cs

end Statement

end LinkedKeys.Toml

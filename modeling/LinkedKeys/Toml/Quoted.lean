import LinkedKeys.Text.Digits

namespace LinkedKeys.Toml.Quoted

def quote : Char := '\x22'

def apostrophe : Char := '\x27'

def backslash : Char := '\x5c'

-- What may stand in a text on one line: a tab, and everything that is no control character.
def isPlain (c : Char) : Bool :=
  c == '\t' || (0x20 ≤ c.toNat && c.toNat != 0x7f)

-- A code point by number. Surrogates and numbers past the last code point name no character.
def scalar (n : Nat) : Option Char :=
  if n < 0xd800 ∨ (0xdfff < n ∧ n < 0x110000) then some (Char.ofNat n) else none

def escaped (c : Char) : Option Char :=
  if c = 'b' then some '\x08'
  else if c = 't' then some '\t'
  else if c = 'n' then some '\n'
  else if c = 'f' then some '\x0c'
  else if c = 'r' then some '\r'
  else if c = quote then some quote
  else if c = backslash then some backslash
  else none

-- Where the reader stands: in text, behind a backslash, inside a numeric escape, between a
-- backslash and the line end it hides, or in the blank that such a line end hides with it.
inductive Mode where
  | plain
  | escape
  | hex (left value : Nat)
  | gap
  | folded

def Mode.isFolded : Mode → Bool
  | .folded => true
  | _ => false

abbrev Reading := Option (List Char × List Char)

def push (c : Char) : Reading → Reading :=
  Option.map fun r => (c :: r.1, r.2)

-- The character that completes a numeric escape, or the digits still wanted.
def hexStep (left value : Nat) (c : Char) : Option (Option Char × Nat × Nat) := do
  let digit ← Text.hexDigit c
  let value := value * 16 + digit
  if left = 1 then return (some (← scalar value), 0, 0)
  else return (none, left - 1, value)

-- Each reader starts behind the opening quotes and ends behind the closing ones. Line ends are
-- single line feeds by the time a text is read.
def basic : Mode → List Char → Reading
  | _, [] => none
  | mode, c :: cs =>
      match mode with
      | .escape =>
          if c = 'u' then basic (.hex 4 0) cs
          else if c = 'U' then basic (.hex 8 0) cs
          else
            match escaped c with
            | some e => push e (basic .plain cs)
            | none => none
      | .hex left value =>
          match hexStep left value c with
          | none => none
          | some (some e, _) => push e (basic .plain cs)
          | some (none, left, value) => basic (.hex left value) cs
      | _ =>
          if c = quote then some ([], cs)
          else if c = backslash then basic .escape cs
          else if isPlain c then push c (basic .plain cs)
          else none

def literal : List Char → Reading
  | [] => none
  | c :: cs =>
      if c = apostrophe then some ([], cs)
      else if isPlain c then push c (literal cs)
      else none

-- Three quotes close a text of several lines, and up to two more before them belong to it.
def closing (mark : Char) : List Char → Option (List Char × List Char)
  | c :: d :: rest =>
      if c = mark ∧ d = mark then
        match rest with
        | e :: f :: more =>
            if e = mark ∧ f = mark then some ([e, f], more)
            else if e = mark then some ([e], f :: more)
            else some ([], rest)
        | [e] => if e = mark then some ([e], []) else some ([], rest)
        | [] => some ([], [])
      else none
  | _ => none

def basicLines : Mode → List Char → Reading
  | _, [] => none
  | mode, c :: cs =>
      match mode with
      | .escape =>
          if c = 'u' then basicLines (.hex 4 0) cs
          else if c = 'U' then basicLines (.hex 8 0) cs
          else if c = '\n' then basicLines .folded cs
          else if c = ' ' ∨ c = '\t' then basicLines .gap cs
          else
            match escaped c with
            | some e => push e (basicLines .plain cs)
            | none => none
      | .hex left value =>
          match hexStep left value c with
          | none => none
          | some (some e, _) => push e (basicLines .plain cs)
          | some (none, left, value) => basicLines (.hex left value) cs
      | .gap =>
          if c = '\n' then basicLines .folded cs
          else if c = ' ' ∨ c = '\t' then basicLines .gap cs
          else none
      | mode =>
          if mode.isFolded ∧ (c = ' ' ∨ c = '\t' ∨ c = '\n') then basicLines .folded cs
          else if c = quote then
            match closing quote cs with
            | some end_ => some end_
            | none => push c (basicLines .plain cs)
          else if c = backslash then basicLines .escape cs
          else if c = '\n' ∨ isPlain c then push c (basicLines .plain cs)
          else none

def literalLines : List Char → Reading
  | [] => none
  | c :: cs =>
      if c = apostrophe then
        match closing apostrophe cs with
        | some end_ => some end_
        | none => push c (literalLines cs)
      else if c = '\n' ∨ isPlain c then push c (literalLines cs)
      else none

-- A line feed right behind the opening quotes is not part of the text.
def behindOpening : List Char → List Char
  | '\n' :: cs => cs
  | cs => cs

def onOneLine : List Char → Reading
  | c :: cs =>
      if c = quote then basic .plain cs
      else if c = apostrophe then literal cs
      else none
  | [] => none

def read (cs : List Char) : Reading :=
  if cs.take 3 = [quote, quote, quote] then basicLines .plain (behindOpening (cs.drop 3))
  else if cs.take 3 = [apostrophe, apostrophe, apostrophe] then
    literalLines (behindOpening (cs.drop 3))
  else onOneLine cs

end LinkedKeys.Toml.Quoted

namespace LinkedKeys.Text

-- The 25 code points that Unicode marks White_Space; core's own test knows four of them.
def isBlank (c : Char) : Bool :=
  let n := c.toNat
  (9 ≤ n && n ≤ 13) || n == 0x20 || n == 0x85 || n == 0xa0 || n == 0x1680 ||
    (0x2000 ≤ n && n ≤ 0x200a) || n == 0x2028 || n == 0x2029 || n == 0x202f ||
    n == 0x205f || n == 0x3000

def dropTrailing (blank : Char → Bool) (cs : List Char) : List Char :=
  (cs.reverse.dropWhile blank).reverse

def trim (cs : List Char) : List Char :=
  dropTrailing isBlank (cs.dropWhile isBlank)

-- Maximal runs of characters that are not blank, in order.
def fields : List Char → List (List Char)
  | [] => []
  | c :: cs =>
      if isBlank c then fields cs
      else
        match cs with
        | [] => [[c]]
        | d :: _ =>
            if isBlank d then [c] :: fields cs
            else
              match fields cs with
              | [] => [[c]]
              | word :: words => (c :: word) :: words

-- A line feed ends a line and takes one carriage return before it along. The text after
-- the last line feed is a line only when it is not empty.
def lines : List Char → List (List Char)
  | [] => []
  | c :: cs =>
      if c = '\n' then [] :: lines cs
      else
        match cs with
        | [] => [[c]]
        | d :: _ =>
            if c = '\r' ∧ d = '\n' then lines cs
            else
              match lines cs with
              | [] => [[c]]
              | line :: rest => (c :: line) :: rest

end LinkedKeys.Text

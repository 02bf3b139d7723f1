import LinkedKeys.Text.Digits
import LinkedKeys.Text.Pieces

namespace LinkedKeys.Web

-- Decimal, or octal behind a zero, or hexadecimal behind "0x".
def hostNumber (cs : List Char) : Option Nat :=
  match cs with
  | [] => none
  | '0' :: 'x' :: digits => Text.number 16 digits
  | '0' :: d :: digits => Text.number 8 (d :: digits)
  | _ => Text.number 10 cs

-- A name counts as numeric if its last part does, be it well written or not.
def looksNumeric (parts : List (List Char)) : Bool :=
  match parts.getLast? with
  | some last =>
      (last ≠ [] && last.all Char.isDigit) ||
        ((hostNumber last).isSome && last.take 2 = ['0', 'x'])
  | none => false

-- The last part of a numeric host fills the bytes that the parts before it leave.
def joinNumbers : List Nat → Nat → Option Nat
  | [], _ => none
  | [last], room => if last < Nat.pow 256 room then some last else none
  | n :: rest, room => do
      let tail ← joinNumbers rest (room - 1)
      if n < 256 ∧ 1 < room then some (n * Nat.pow 256 (room - 1) + tail) else none

def numericHost (parts : List (List Char)) : Option String := do
  let numbers ← parts.mapM hostNumber
  let n ← if numbers.length ≤ 4 then joinNumbers numbers 4 else none
  some (".".intercalate ([n >>> 24, n >>> 16 % 256, n >>> 8 % 256, n % 256].map toString))

-- A dot at the end of a name adds no part.
def nameParts (name : List Char) : List (List Char) :=
  let parts := Text.pieces '.' name
  if 1 < parts.length ∧ parts.getLast? = some [] then parts.dropLast else parts

def isPlainByte (cs : List Char) : Bool :=
  cs.all Char.isDigit && (cs.length == 1 || (cs.length ≤ 3 && cs.head? ≠ some '0'))

-- Four decimal bytes without leading zeros.
def bytes? (cs : List Char) : Option (List Nat) := do
  let bytes ← (Text.pieces '.' cs).mapM fun part =>
    if isPlainByte part then Text.number 10 part else none
  if bytes.length = 4 ∧ bytes.all (· < 256) then some bytes else none

def hexGroup (cs : List Char) : Option Nat :=
  if cs = [] ∨ 4 < cs.length then none else Text.number 16 cs

-- Only the last group can be written as four bytes, and is two groups then.
def lastGroups (cs : List Char) : Option (List Nat) :=
  if cs.contains '.' then do
    match ← bytes? cs with
    | [a, b, c, d] => some [a * 256 + b, c * 256 + d]
    | _ => none
  else (hexGroup cs).map ([·])

def groupsOf : List (List Char) → Option (List Nat)
  | [] => some []
  | [last] => lastGroups last
  | group :: rest => do return (← hexGroup group) :: (← groupsOf rest)

def hexGroups (cs : List Char) : Option (List Nat) :=
  if cs = [] then some [] else (Text.pieces ':' cs).mapM hexGroup

def endGroups (cs : List Char) : Option (List Nat) :=
  if cs = [] then some [] else groupsOf (Text.pieces ':' cs)

-- The text before the first pair of colons and the text behind it.
def splitPair : List Char → Option (List Char × List Char)
  | ':' :: ':' :: rest => some ([], rest)
  | c :: rest => (splitPair rest).map fun r => (c :: r.1, r.2)
  | [] => none

def groups? (cs : List Char) : Option (List Nat) :=
  match splitPair cs with
  | some (front, behind) => do
      let front ← hexGroups front
      let behind ← endGroups behind
      if front.length + behind.length ≤ 7 then
        some (front ++ List.replicate (8 - front.length - behind.length) 0 ++ behind)
      else none
  | none => do
      let all ← endGroups cs
      if all.length = 8 then some all else none

def zeroRun (groups : List Nat) : Nat := (groups.takeWhile (· = 0)).length

-- Where the first of the longest runs of zeros starts, and how long it is.
def longestRun : Nat → List Nat → Nat × Nat
  | _, [] => (0, 0)
  | i, g :: rest =>
      let later := longestRun (i + 1) rest
      let here := zeroRun (g :: rest)
      if later.2 ≤ here ∧ 0 < here then (i, here) else later

def hexText (n : Nat) : String := String.ofList (Nat.toDigits 16 n)

def groupsText (groups : List Nat) : String :=
  let (start, length) := longestRun 0 groups
  let join (gs : List Nat) := ":".intercalate (gs.map hexText)
  if length < 2 then join groups
  else join (groups.take start) ++ "::" ++ join (groups.drop (start + length))

end LinkedKeys.Web

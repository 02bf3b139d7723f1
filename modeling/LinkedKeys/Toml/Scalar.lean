import LinkedKeys.Toml.Value
import LinkedKeys.Toml.Quoted

namespace LinkedKeys.Toml.Scalar

def isDigit (c : Char) : Bool := 48 ≤ c.toNat && c.toNat ≤ 57

def value (base : Nat) (digits : List Char) : Nat :=
  digits.foldl (fun n c => n * base + (Text.hexDigit c).getD 0) 0

-- Digits of which two neighbours may have one underscore between them.
def spaced (isDigit : Char → Bool) : List Char → Option (List Char)
  | [] => none
  | [c] => if isDigit c then some [c] else none
  | c :: d :: rest =>
      if !isDigit c then none
      else if d = '_' then (spaced isDigit rest).map (c :: ·)
      else (spaced isDigit (d :: rest)).map (c :: ·)

-- A sign if there is one, and the rest.
def signed : List Char → Option Bool × List Char
  | '+' :: cs => (some false, cs)
  | '-' :: cs => (some true, cs)
  | cs => (none, cs)

-- A whole number does not start with a zero, unless it is zero.
def whole (cs : List Char) : Option (List Char) := do
  let digits ← spaced isDigit cs
  if cs.head? = some '0' ∧ 1 < cs.length then none else some digits

def least : Int := -9223372036854775808

def greatest : Int := 9223372036854775807

def inRange (n : Int) : Option Int :=
  if least ≤ n ∧ n ≤ greatest then some n else none

def inBase (base : Nat) (isDigit : Char → Bool) (cs : List Char) : Option Int := do
  inRange (value base (← spaced isDigit cs))

def integer (cs : List Char) : Option Int :=
  match cs with
  | '0' :: 'x' :: digits => inBase 16 (fun c => (Text.hexDigit c).isSome) digits
  | '0' :: 'o' :: digits => inBase 8 (fun c => isDigit c && c.toNat ≤ 55) digits
  | '0' :: 'b' :: digits => inBase 2 (fun c => isDigit c && c.toNat ≤ 49) digits
  | _ => do
      let (sign, body) := signed cs
      let size := value 10 (← whole body)
      inRange (if sign = some true then -(size : Int) else size)

-- The least size that rounds past every finite number of 64 bits: half a step above the greatest.
def beyond : Nat := 1 <<< 1024 - 1 <<< 970

-- Whether digits · 10 ^ exponent stays below that. Far exponents are told by the digit count.
def isFinite (digits : Nat) (exponent : Int) : Bool :=
  if digits = 0 then true
  else
    let scale := (Nat.toDigits 10 digits).length + exponent
    if scale ≤ 308 then true
    else if 310 ≤ scale then false
    else if 0 ≤ exponent then digits * Nat.pow 10 exponent.toNat < beyond
    else digits < beyond * Nat.pow 10 (-exponent).toNat

def exponent : List Char → Option Int
  | [] => some 0
  | c :: cs =>
      if c = 'e' ∨ c = 'E' then do
        let (sign, body) := signed cs
        let size := value 10 (← spaced isDigit body)
        some (if sign = some true then -(size : Int) else size)
      else none

def isExponentMark (c : Char) : Bool := c = 'e' ∨ c = 'E'

-- A float has a fraction or an exponent. One that rounds to infinity is refused, though only
-- above zero.
def float (cs : List Char) : Option Real := do
  let (sign, body) := signed cs
  let negative := sign = some true
  if body = ['i', 'n', 'f'] then return .infinite negative
  if body = ['n', 'a', 'n'] then return .undefined
  let front := body.takeWhile fun c => c ≠ '.' && !isExponentMark c
  let behind := body.drop front.length
  let digits ← whole front
  let (fraction, power) ← match behind with
    | [] => none
    | '.' :: rest => do
        let places := rest.takeWhile fun c => !isExponentMark c
        some (← spaced isDigit places, rest.drop places.length)
    | rest => some ([], rest)
  let shift ← exponent power
  let exponent := shift - fraction.length
  let size := value 10 (digits ++ fraction)
  if negative ∨ isFinite size exponent then return .decimal negative size exponent else none

-- Exactly so many digits, and the rest.
def counted (n : Nat) (cs : List Char) : Option (Nat × List Char) :=
  let digits := cs.take n
  if digits.length = n ∧ digits.all isDigit then some (value 10 digits, cs.drop n) else none

def expect (c : Char) : List Char → Option (List Char)
  | d :: cs => if c = d then some cs else none
  | [] => none

def daysIn (year month : Nat) : Nat :=
  if month = 2 then
    if year % 4 = 0 ∧ (year % 100 ≠ 0 ∨ year % 400 = 0) then 29 else 28
  else if month = 4 ∨ month = 6 ∨ month = 9 ∨ month = 11 then 30
  else 31

def date (cs : List Char) : Option (Date × List Char) := do
  let (year, cs) ← counted 4 cs
  let (month, cs) ← counted 2 (← expect '-' cs)
  let (day, cs) ← counted 2 (← expect '-' cs)
  if 1 ≤ month ∧ month ≤ 12 ∧ 1 ≤ day ∧ day ≤ daysIn year month then
    some (⟨year, month, day⟩, cs)
  else none

def billionths (digits : List Char) : Nat :=
  value 10 ((digits ++ List.replicate 9 '0').take 9)

-- A leap second is allowed.
def time (cs : List Char) : Option (Time × List Char) := do
  let (hour, cs) ← counted 2 cs
  let (minute, cs) ← counted 2 (← expect ':' cs)
  let (second, cs) ← counted 2 (← expect ':' cs)
  if hour ≤ 23 ∧ minute ≤ 59 ∧ second ≤ 60 then
    match cs with
    | '.' :: rest =>
        let digits := rest.takeWhile isDigit
        if digits = [] then none
        else some (⟨hour, minute, second, billionths digits⟩, rest.drop digits.length)
    | _ => some (⟨hour, minute, second, 0⟩, cs)
  else none

def offset (cs : List Char) : Option (Option Int) :=
  match cs with
  | [] => some none
  | ['Z'] | ['z'] => some (some 0)
  | _ => do
      let (sign, body) := signed cs
      let (hour, rest) ← counted 2 body
      let (minute, rest) ← counted 2 (← expect ':' rest)
      if rest = [] ∧ hour ≤ 23 ∧ minute ≤ 59 then
        let size : Int := hour * 60 + minute
        sign.map fun negative => some (if negative then -size else size)
      else none

def isTimeMark (c : Char) : Bool := c = 'T' ∨ c = 't' ∨ c = ' '

def moment (cs : List Char) : Option Moment :=
  match date cs with
  | some (day, []) => some ⟨some day, none, none⟩
  | some (day, mark :: rest) => do
      if !isTimeMark mark then none
      let (clock, rest) ← time rest
      let shift ← offset rest
      some ⟨some day, some clock, shift⟩
  | none => do
      let (clock, rest) ← time cs
      if rest = [] then some ⟨none, some clock, none⟩ else none

def isScalarChar (c : Char) : Bool :=
  c.isAlphanum || c == '+' || c == '-' || c == '_' || c == '.' || c == ':'

-- Where the text of a scalar ends. A date may be parted from its time by a single space.
def cut (cs : List Char) : List Char × List Char :=
  let front := cs.takeWhile isScalarChar
  let behind := cs.drop front.length
  match date front, behind with
  | some (_, []), ' ' :: c :: more =>
      if isDigit c then
        let clock := (c :: more).takeWhile isScalarChar
        (front ++ ' ' :: clock, (c :: more).drop clock.length)
      else (front, behind)
  | _, _ => (front, behind)

def ofText (cs : List Char) : Option Value :=
  if cs = ['t', 'r', 'u', 'e'] then some (.boolean true)
  else if cs = ['f', 'a', 'l', 's', 'e'] then some (.boolean false)
  else
    match integer cs with
    | some n => some (.integer n)
    | none =>
        match float cs with
        | some x => some (.float x)
        | none => (moment cs).map .moment

def read (cs : List Char) : Option (Value × List Char) :=
  (ofText (cut cs).1).map fun v => (v, (cut cs).2)

end LinkedKeys.Toml.Scalar

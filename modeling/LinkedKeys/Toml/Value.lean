namespace LinkedKeys.Toml

-- A float is kept as the decimal that was written.
inductive Real where
  | decimal (negative : Bool) (digits : Nat) (exponent : Int)
  | infinite (negative : Bool)
  | undefined
  deriving DecidableEq

structure Date where
  year : Nat
  month : Nat
  day : Nat
  deriving DecidableEq

-- The fraction is counted in billionths; further digits are dropped.
structure Time where
  hour : Nat
  minute : Nat
  second : Nat
  fraction : Nat
  deriving DecidableEq

-- An offset from universal time is counted in minutes.
structure Moment where
  date : Option Date
  time : Option Time
  offset : Option Int
  deriving DecidableEq

inductive Value where
  | text (text : String)
  | integer (value : Int)
  | float (value : Real)
  | boolean (value : Bool)
  | moment (value : Moment)
  | list (items : List Value)
  | table (rows : List (String × Value))

abbrev Rows := List (String × Value)

end LinkedKeys.Toml

import LinkedKeys.Text.Digits
import LinkedKeys.Text.Utf8

namespace LinkedKeys.Web

def upperHex (n : Nat) : Char :=
  Char.ofNat (if n < 10 then 48 + n else 55 + n)

def escapeByte (b : UInt8) : List Char :=
  ['%', upperHex (b.toNat / 16), upperHex (b.toNat % 16)]

def isPrintable (c : Char) : Bool := 0x20 ≤ c.toNat && c.toNat ≤ 0x7e

def escape (reserved : Char → Bool) (cs : List Char) : List Char :=
  cs.flatMap fun c =>
    if isPrintable c && !reserved c then [c]
    else (Text.toBytes (String.ofList [c])).flatMap escapeByte

-- A percent sign without two digits behind it stands for itself.
def unescape : List Char → List UInt8
  | '%' :: a :: b :: rest =>
      match Text.hexDigit a, Text.hexDigit b with
      | some m, some n => UInt8.ofNat (m * 16 + n) :: unescape rest
      | _, _ => 37 :: unescape (a :: b :: rest)
  | c :: rest => Text.toBytes (String.ofList [c]) ++ unescape rest
  | [] => []

def unescape? (cs : List Char) : Option String := Text.ofBytes? (unescape cs)

def inFragment (c : Char) : Bool := [' ', '\x22', '<', '>', '\x60'].contains c

def inPath (c : Char) : Bool := inFragment c || ['#', '?', '\x7b', '\x7d'].contains c

def inUser (c : Char) : Bool :=
  inPath c || ['/', ':', ';', '=', '@', '[', '\x5c', ']', '^', '|'].contains c

def inQuery (c : Char) : Bool := [' ', '\x22', '#', '<', '>'].contains c

end LinkedKeys.Web

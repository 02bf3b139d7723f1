namespace LinkedKeys.Text

def ofBytes? (bytes : List UInt8) : Option String :=
  String.fromUTF8? ⟨bytes.toArray⟩

def toBytes (text : String) : List UInt8 :=
  text.toUTF8.data.toList

def replacement : Char := Char.ofNat 0xfffd

def isContinuation (b : UInt8) : Bool := 0x80 ≤ b && b ≤ 0xbf

-- The second byte of a longer form has a narrower range after four of the lead bytes: it rules
-- out overlong forms, surrogates and numbers past the last code point.
def isSecond (lead b : UInt8) : Bool :=
  if lead == 0xe0 then 0xa0 ≤ b && b ≤ 0xbf
  else if lead == 0xed then 0x80 ≤ b && b ≤ 0x9f
  else if lead == 0xf0 then 0x90 ≤ b && b ≤ 0xbf
  else if lead == 0xf4 then 0x80 ≤ b && b ≤ 0x8f
  else isContinuation b

-- Number of bytes that the lead byte announces after itself; none for a byte that leads nothing.
def announced (lead : UInt8) : Option Nat :=
  if lead ≤ 0x7f then some 0
  else if 0xc2 ≤ lead && lead ≤ 0xdf then some 1
  else if 0xe0 ≤ lead && lead ≤ 0xef then some 2
  else if 0xf0 ≤ lead && lead ≤ 0xf4 then some 3
  else none

def payload (b : UInt8) : Nat := b.toNat % 64

-- The character that starts at a lead byte and how many of the following bytes belong to it.
-- In a bad piece those are the bytes that could still have become a character.
def leading (lead : UInt8) (rest : List UInt8) : Char × Nat :=
  match announced lead, rest with
  | some 0, _ => (Char.ofNat lead.toNat, 0)
  | some 1, b :: _ =>
      if isContinuation b then (Char.ofNat (lead.toNat % 32 * 64 + payload b), 1)
      else (replacement, 0)
  | some 2, b :: rest =>
      if isSecond lead b then
        match rest with
        | c :: _ =>
            if isContinuation c then
              (Char.ofNat (lead.toNat % 16 * 4096 + payload b * 64 + payload c), 2)
            else (replacement, 1)
        | [] => (replacement, 1)
      else (replacement, 0)
  | some 3, b :: rest =>
      if isSecond lead b then
        match rest with
        | c :: rest =>
            if isContinuation c then
              match rest with
              | d :: _ =>
                  if isContinuation d then
                    (Char.ofNat (lead.toNat % 8 * 262144 + payload b * 4096 + payload c * 64 +
                      payload d), 3)
                  else (replacement, 2)
              | [] => (replacement, 2)
            else (replacement, 1)
        | [] => (replacement, 1)
      else (replacement, 0)
  | _, _ => (replacement, 0)

-- `skip` counts the bytes that the character before has already taken.
def replacing (skip : Nat) : List UInt8 → List Char
  | [] => []
  | b :: rest =>
      match skip with
      | n + 1 => replacing n rest
      | 0 => (leading b rest).1 :: replacing (leading b rest).2 rest

def ofBytesReplacing (bytes : List UInt8) : String :=
  String.ofList (replacing 0 bytes)

theorem ofBytes?_toBytes (text : String) : ofBytes? (toBytes text) = some text := by
  unfold ofBytes? String.fromUTF8?
  have same : (⟨(toBytes text).toArray⟩ : ByteArray) = text.toByteArray := by
    simp [toBytes, String.toUTF8]
  rw [same, dif_pos text.isValidUTF8]
  rfl

theorem toBytes_ofBytes? {bytes : List UInt8} {text : String} (read : ofBytes? bytes = some text) :
    bytes = toBytes text := by
  unfold ofBytes? String.fromUTF8? at read
  split at read
  · cases read
    simp [toBytes, String.toUTF8, String.fromUTF8]
  · cases read

end LinkedKeys.Text

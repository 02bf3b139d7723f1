import LinkedKeys.Report.Json
import LinkedKeys.Text.Digits
import Mathlib.Data.List.Basic

namespace LinkedKeys.Report.Json

def quote : Char := '\x22'

def backslash : Char := '\x5c'

def isSpace (c : Char) : Bool := c = ' ' || c = '\t' || c = '\n' || c = '\r'

def Blanks (cs : List Char) : Prop := ∀ c ∈ cs, isSpace c = true

-- The character that a letter behind a backslash stands for.
def shorthand (letter : Char) : Option Char :=
  if letter = quote then some quote
  else if letter = backslash then some backslash
  else if letter = '/' then some '/'
  else if letter = 'b' then some '\x08'
  else if letter = 'f' then some '\x0c'
  else if letter = 'n' then some '\n'
  else if letter = 'r' then some '\r'
  else if letter = 't' then some '\t'
  else none

-- Four hexadecimal digits.
def codeUnit (a b c d : Char) : Option Nat := do
  return (((← Text.hexDigit a) * 16 + (← Text.hexDigit b)) * 16 + (← Text.hexDigit c)) * 16 +
    (← Text.hexDigit d)

def IsHigh (unit : Nat) : Prop := 0xd800 ≤ unit ∧ unit < 0xdc00

def IsLow (unit : Nat) : Prop := 0xdc00 ≤ unit ∧ unit < 0xe000

instance (unit : Nat) : Decidable (IsHigh unit) := inferInstanceAs (Decidable (_ ∧ _))

instance (unit : Nat) : Decidable (IsLow unit) := inferInstanceAs (Decidable (_ ∧ _))

def joined (high low : Nat) : Nat := 0x10000 + (high - 0xd800) * 0x400 + (low - 0xdc00)

-- The spellings of one character. A character past 0xffff is numbered by two code units, and no
-- character is numbered by one half of such a pair.
inductive Spelling (c : Char) : List Char → Prop where
  | plain (visible : 0x20 ≤ c.toNat) (unquoted : c ≠ quote) (unescaped : c ≠ backslash) :
      Spelling c [c]
  | short {letter : Char} (named : shorthand letter = some c) : Spelling c [backslash, letter]
  | numbered {x₁ x₂ x₃ x₄ : Char} (number : codeUnit x₁ x₂ x₃ x₄ = some c.toNat) :
      Spelling c [backslash, 'u', x₁, x₂, x₃, x₄]
  | paired {x₁ x₂ x₃ x₄ y₁ y₂ y₃ y₄ : Char} {high low : Nat}
      (first : codeUnit x₁ x₂ x₃ x₄ = some high) (upper : IsHigh high)
      (second : codeUnit y₁ y₂ y₃ y₄ = some low) (lower : IsLow low)
      (number : c.toNat = joined high low) :
      Spelling c [backslash, 'u', x₁, x₂, x₃, x₄, backslash, 'u', y₁, y₂, y₃, y₄]

inductive Spells : List Char → List Char → Prop where
  | nil : Spells [] []
  | cons {c : Char} {text spelling body : List Char} (first : Spelling c spelling)
      (rest : Spells text body) : Spells (c :: text) (spelling ++ body)

-- The texts of a value, without the blanks around them. Numbers are left out, as no value here is one.
mutual

inductive Writes : Json → List Char → Prop where
  | null : Writes .null "null".toList
  | yes : Writes (.boolean true) "true".toList
  | no : Writes (.boolean false) "false".toList
  | text {t : String} {body : List Char} (spells : Spells t.toList body) :
      Writes (.text t) (quote :: body ++ [quote])
  | nothing {gap : List Char} (blanks : Blanks gap) : Writes (.list []) ('[' :: gap ++ [']'])
  | list {items : List Json} {body : List Char} (inside : WritesItems items body) :
      Writes (.list items) ('[' :: body ++ [']'])
  | empty {gap : List Char} (blanks : Blanks gap) :
      Writes (.object []) ('\x7b' :: gap ++ ['\x7d'])
  | object {members : List (String × Json)} {body : List Char}
      (inside : WritesMembers members body) : Writes (.object members) ('\x7b' :: body ++ ['\x7d'])

inductive WritesItems : List Json → List Char → Prop where
  | last {value : Json} {front text behind : List Char} (before : Blanks front)
      (writes : Writes value text) (after : Blanks behind) :
      WritesItems [value] (front ++ (text ++ behind))
  | more {value : Json} {rest : List Json} {front text behind body : List Char}
      (before : Blanks front) (writes : Writes value text) (after : Blanks behind)
      (others : WritesItems rest body) :
      WritesItems (value :: rest) (front ++ (text ++ (behind ++ ',' :: body)))

inductive WritesMembers : List (String × Json) → List Char → Prop where
  | last {name : String} {value : Json} {spelled text lead gap front behind : List Char}
      (ahead : Blanks lead) (named : Spells name.toList spelled) (between : Blanks gap)
      (before : Blanks front) (writes : Writes value text) (after : Blanks behind) :
      WritesMembers [(name, value)]
        (lead ++ quote :: (spelled ++ quote :: (gap ++ ':' :: (front ++ (text ++ behind)))))
  | more {name : String} {value : Json} {rest : List (String × Json)}
      {spelled text lead gap front behind body : List Char}
      (ahead : Blanks lead) (named : Spells name.toList spelled) (between : Blanks gap)
      (before : Blanks front) (writes : Writes value text) (after : Blanks behind)
      (others : WritesMembers rest body) :
      WritesMembers ((name, value) :: rest)
        (lead ++ quote :: (spelled ++ quote :: (gap ++ ':' :: (front ++ (text ++
          (behind ++ ',' :: body))))))

end

-- A whole document is one value, with blanks around it.
inductive Document (value : Json) : List Char → Prop where
  | intro {front text behind : List Char} (before : Blanks front) (writes : Writes value text)
      (after : Blanks behind) : Document value (front ++ (text ++ behind))

theorem blanks_nil : Blanks [] := by
  intro c among
  cases among

theorem blank_space : Blanks [' '] := by
  intro c among
  rw [List.mem_singleton.mp among]
  rfl

theorem indent_blanks (depth : Nat) : Blanks (indent depth) := by
  intro c among
  rcases List.mem_cons.mp among with rfl | later
  · rfl
  · rw [List.eq_of_mem_replicate later]
    rfl

theorem lowerHex_digit : ∀ n, n < 16 → Text.hexDigit (lowerHex n) = some n := by decide

theorem escaped_spelling (c : Char) : Spelling c (escaped c) := by
  by_cases named : c = '\x22' ∨ c = '\x5c' ∨ c = '\x08' ∨ c = '\x0c' ∨ c = '\n' ∨ c = '\r' ∨
      c = '\t'
  · rcases named with rfl | rfl | rfl | rfl | rfl | rfl | rfl <;> exact .short rfl
  · simp only [not_or] at named
    obtain ⟨unquoted, unescaped, backspace, feed, line, back, tab⟩ := named
    have control : escaped c = if c.toNat < 0x20 then
        [backslash, 'u', '0', '0', lowerHex (c.toNat / 16), lowerHex (c.toNat % 16)] else [c] := by
      rw [escaped, if_neg unquoted, if_neg unescaped, if_neg backspace, if_neg feed, if_neg line,
        if_neg back, if_neg tab]
      rfl
    rw [control]
    split
    · rename_i low
      have zero : Text.hexDigit '0' = some 0 := by decide
      have tens : Text.hexDigit (lowerHex (c.toNat / 16)) = some (c.toNat / 16) :=
        lowerHex_digit _ (by omega)
      have ones : Text.hexDigit (lowerHex (c.toNat % 16)) = some (c.toNat % 16) :=
        lowerHex_digit _ (by omega)
      apply Spelling.numbered
      simp only [codeUnit, zero, tens, ones]
      exact congrArg some (by omega)
    · rename_i visible
      exact .plain (Nat.le_of_not_lt visible) unquoted unescaped

theorem escaped_spells (cs : List Char) : Spells cs (cs.flatMap escaped) := by
  induction cs with
  | nil => exact .nil
  | cons c cs ih => exact .cons (escaped_spelling c) ih

mutual

theorem write_writes (depth : Nat) : ∀ value, Writes value (write depth value)
  | .null => .null
  | .boolean true => .yes
  | .boolean false => .no
  | .text t => .text (escaped_spells t.toList)
  | .list [] => .nothing blanks_nil
  | .list (item :: rest) => by
      have inside := writeItems_writes depth rest (write_writes (depth + 1) item)
      simpa [write] using Writes.list inside
  | .object [] => .empty blanks_nil
  | .object ((name, value) :: rest) => by
      have inside := writeMembers_writes depth rest name (write_writes (depth + 1) value)
      simpa [write, quoted, quote] using Writes.object inside

theorem writeItems_writes (depth : Nat) : ∀ (rest : List Json) {value : Json} {text : List Char},
    Writes value text → WritesItems (value :: rest)
      (indent (depth + 1) ++ (text ++ (writeItems depth rest ++ indent depth)))
  | [], _, _, first => .last (indent_blanks _) first (indent_blanks _)
  | next :: rest, _, _, first => by
      have others := writeItems_writes depth rest (write_writes (depth + 1) next)
      simpa [writeItems] using WritesItems.more (indent_blanks (depth + 1)) first blanks_nil others

theorem writeMembers_writes (depth : Nat) : ∀ (rest : List (String × Json)) {value : Json}
    {text : List Char} (name : String), Writes value text → WritesMembers ((name, value) :: rest)
      (indent (depth + 1) ++ (quoted name ++ ':' :: ' ' :: (text ++
        (writeMembers depth rest ++ indent depth))))
  | [], _, _, name, first => by
      have last := WritesMembers.last (indent_blanks (depth + 1)) (escaped_spells name.toList)
        blanks_nil blank_space first (indent_blanks depth)
      simpa [writeMembers, quoted, quote] using last
  | (next, given) :: rest, _, _, name, first => by
      have others := writeMembers_writes depth rest next (write_writes (depth + 1) given)
      have more := WritesMembers.more (indent_blanks (depth + 1)) (escaped_spells name.toList)
        blanks_nil blank_space first blanks_nil others
      simpa [writeMembers, quoted, quote] using more

end

theorem render_document (value : Json) : Document value value.render.toList := by
  have whole := Document.intro blanks_nil (write_writes 0 value) blanks_nil
  simpa [render] using whole

end LinkedKeys.Report.Json

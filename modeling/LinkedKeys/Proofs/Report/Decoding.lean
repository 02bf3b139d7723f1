import LinkedKeys.Proofs.Report.Grammar
import LinkedKeys.Proofs.Text.Lines

namespace LinkedKeys.Report.Json

def fourDigits : List Char → Option (Nat × List Char)
  | a :: b :: c :: d :: cs => (codeUnit a b c d).map fun unit => (unit, cs)
  | _ => none

-- Behind the letter of a numbered character. The first half of a pair wants the second.
def numbered (cs : List Char) : Option (Char × List Char) := do
  let (unit, cs) ← fourDigits cs
  if IsHigh unit then
    if cs.take 2 = [backslash, 'u'] then do
      let (low, cs) ← fourDigits (cs.drop 2)
      if IsLow low then return (Char.ofNat (joined unit low), cs) else none
    else none
  else if IsLow unit then none
  else return (Char.ofNat unit, cs)

def escape : List Char → Option (Char × List Char)
  | [] => none
  | letter :: cs =>
      if letter = 'u' then numbered cs else (shorthand letter).map fun named => (named, cs)

def character : List Char → Option (Char × List Char)
  | [] => none
  | c :: cs =>
      if c = backslash then escape cs
      else if 0x20 ≤ c.toNat then some (c, cs)
      else none

-- Up to the closing quote and past it. The first argument bounds the number of characters.
def characters : Nat → List Char → Option (List Char × List Char)
  | 0, _ => none
  | n + 1, cs =>
      if cs.head? = some quote then some ([], cs.drop 1)
      else do
        let (first, cs) ← character cs
        let (others, cs) ← characters n cs
        return (first :: others, cs)

def skip (cs : List Char) : List Char := cs.dropWhile isSpace

def word (cs : List Char) : Option (Json × List Char) :=
  if cs.take 4 = "null".toList then some (.null, cs.drop 4)
  else if cs.take 4 = "true".toList then some (.boolean true, cs.drop 4)
  else if cs.take 5 = "false".toList then some (.boolean false, cs.drop 5)
  else none

mutual

-- The first argument bounds the steps.
def value : Nat → List Char → Option (Json × List Char)
  | 0, _ => none
  | n + 1, cs =>
      match cs with
      | [] => none
      | c :: rest =>
          if c = quote then (characters n rest).map fun r => (.text (String.ofList r.1), r.2)
          else if c = '[' then
            if (skip rest).head? = some ']' then some (.list [], (skip rest).drop 1)
            else (items n rest).map fun r => (.list r.1, r.2)
          else if c = '\x7b' then
            if (skip rest).head? = some '\x7d' then some (.object [], (skip rest).drop 1)
            else (members n rest).map fun r => (.object r.1, r.2)
          else word (c :: rest)

def items : Nat → List Char → Option (List Json × List Char)
  | 0, _ => none
  | n + 1, cs => do
      let (first, cs) ← value n (skip cs)
      match skip cs with
      | ']' :: cs => return ([first], cs)
      | ',' :: cs => do
          let (others, cs) ← items n cs
          return (first :: others, cs)
      | _ => none

def members : Nat → List Char → Option (List (String × Json) × List Char)
  | 0, _ => none
  | n + 1, cs =>
      if (skip cs).head? = some quote then do
        let (name, cs) ← characters n ((skip cs).drop 1)
        if (skip cs).head? = some ':' then do
          let (given, cs) ← value n (skip ((skip cs).drop 1))
          match skip cs with
          | '\x7d' :: cs => return ([(String.ofList name, given)], cs)
          | ',' :: cs => do
              let (others, cs) ← members n cs
              return ((String.ofList name, given) :: others, cs)
          | _ => none
        else none
      else none

end

-- Every step takes a character or is followed by one that does.
def decode (text : String) : Option Json := do
  let (decoded, rest) ← value (text.toList.length + 1) (skip text.toList)
  if skip rest = [] then return decoded else none

theorem fourDigits_unit {a b c d : Char} {unit : Nat} (number : codeUnit a b c d = some unit)
    (rest : List Char) : fourDigits (a :: b :: c :: d :: rest) = some (unit, rest) := by
  rw [fourDigits, number]
  rfl

theorem char_unhalved (c : Char) : ¬IsHigh c.toNat ∧ ¬IsLow c.toNat := by
  have valid : c.toNat < 0xd800 ∨ (0xdfff < c.toNat ∧ c.toNat < 0x110000) := c.valid
  simp only [IsHigh, IsLow]
  omega

theorem character_escape (cs : List Char) : character (backslash :: cs) = escape cs := by
  rw [character, if_pos rfl]

theorem escape_number (cs : List Char) : escape ('u' :: cs) = numbered cs := by
  rw [escape, if_pos rfl]

theorem character_spelling {c : Char} {spelling : List Char} (spells : Spelling c spelling)
    (rest : List Char) : character (spelling ++ rest) = some (c, rest) := by
  cases spells with
  | plain visible unquoted unescaped =>
      rw [List.singleton_append, character, if_neg unescaped, if_pos visible]
  | @short letter named =>
      have other : letter ≠ 'u' := by
        rintro rfl
        have unnamed : shorthand 'u' = none := by decide
        rw [unnamed] at named
        cases named
      simp only [List.cons_append, List.nil_append, character_escape, escape, if_neg other, named]
      rfl
  | numbered number =>
      obtain ⟨notHigh, notLow⟩ := char_unhalved c
      simp only [List.cons_append, List.nil_append, character_escape, escape_number, numbered,
        fourDigits_unit number, Option.bind_eq_bind, Option.bind_some, if_neg notHigh, if_neg notLow,
        Char.ofNat_toNat]
      rfl
  | paired first upper second lower number =>
      simp only [List.cons_append, List.nil_append, character_escape, escape_number, numbered,
        fourDigits_unit first, Option.bind_eq_bind, Option.bind_some, if_pos upper,
        List.take_succ_cons, List.take_zero, if_true, List.drop_succ_cons, List.drop_zero,
        fourDigits_unit second, if_pos lower, ← number, Char.ofNat_toNat]
      rfl

theorem spelling_head {c : Char} {spelling : List Char} (spells : Spelling c spelling) :
    ∃ first more, spelling = first :: more ∧ first ≠ quote := by
  cases spells with
  | plain visible unquoted unescaped => exact ⟨_, _, rfl, unquoted⟩
  | short | numbered | paired => exact ⟨_, _, rfl, by decide⟩

theorem characters_spells {text body : List Char} (spells : Spells text body) (rest : List Char)
    {n : Nat} (enough : body.length < n) :
    characters n (body ++ quote :: rest) = some (text, rest) := by
  induction spells generalizing n with
  | nil =>
      obtain ⟨m, rfl⟩ := Nat.exists_eq_add_of_lt enough
      rfl
  | @cons c text spelling body first others ih =>
      obtain ⟨head, more, rfl, unquoted⟩ := spelling_head first
      simp only [List.length_append, List.length_cons] at enough
      obtain ⟨m, rfl⟩ : ∃ m, n = m + 1 := ⟨n - 1, by omega⟩
      have open_ : (head :: more ++ body ++ quote :: rest).head? ≠ some quote := by
        simpa using unquoted
      rw [characters, if_neg open_, List.append_assoc, character_spelling first]
      simp only [Option.bind_eq_bind, Option.bind_some, ih (n := m) (by omega)]
      rfl

theorem skip_blanks {gap cs : List Char} (blanks : Blanks gap)
    (visible : ∀ c, cs.head? = some c → isSpace c = false) : skip (gap ++ cs) = cs :=
  (Text.span_front blanks visible).2

-- No text of a value begins with a blank, or with a mark that ends a list.
theorem writes_head {v : Json} {text : List Char} (writes : Writes v text) :
    ∃ c more, text = c :: more ∧ isSpace c = false ∧ c ≠ ']' := by
  cases writes <;> exact ⟨_, _, rfl, by decide, by decide⟩

theorem skip_writes {v : Json} {gap text : List Char} (blanks : Blanks gap) (writes : Writes v text)
    (rest : List Char) : skip (gap ++ (text ++ rest)) = text ++ rest := by
  obtain ⟨c, more, rfl, visible, -⟩ := writes_head writes
  apply skip_blanks blanks
  intro d first
  cases first
  exact visible

theorem skip_mark {gap : List Char} {mark : Char} (blanks : Blanks gap) (visible : isSpace mark = false)
    (rest : List Char) : skip (gap ++ mark :: rest) = mark :: rest := by
  apply skip_blanks blanks
  intro d first
  cases first
  exact visible

theorem quote_visible : isSpace quote = false := by decide

theorem colon_visible : isSpace ':' = false := by decide

theorem items_head {vs : List Json} {body : List Char} (writes : WritesItems vs body)
    (rest : List Char) : (skip (body ++ rest)).head? ≠ some ']' := by
  cases writes with
  | last before writes after =>
      obtain ⟨c, more, rfl, -, other⟩ := writes_head writes
      rw [List.append_assoc, List.append_assoc, skip_writes before writes]
      simpa using other
  | more before writes after others =>
      obtain ⟨c, more, rfl, -, other⟩ := writes_head writes
      rw [List.append_assoc, List.append_assoc, skip_writes before writes]
      simpa using other

theorem members_head {ms : List (String × Json)} {body : List Char} (writes : WritesMembers ms body)
    (rest : List Char) : (skip (body ++ rest)).head? = some quote := by
  cases writes with
  | last ahead | more ahead => simp [skip_mark ahead (show isSpace quote = false by decide)]

-- One item, up to the mark behind it.
theorem item_step {n : Nat} {v : Json} {front text behind : List Char} {mark : Char}
    (before : Blanks front) (writes : Writes v text) (after : Blanks behind)
    (visible : isSpace mark = false) (rest : List Char)
    (reads : ∀ rest, value n (text ++ rest) = some (v, rest)) :
    value n (skip (front ++ (text ++ (behind ++ mark :: rest)))) = some (v, behind ++ mark :: rest) ∧
      skip (behind ++ mark :: rest) = mark :: rest := by
  rw [skip_writes before writes]
  exact ⟨reads _, skip_mark after visible rest⟩

-- The steps suffice when the text is shorter than their number. A list or an object is inside its
-- brackets, so its items have one step more.
structure Suffices (n : Nat) : Prop where
  value : ∀ v text rest, Writes v text → text.length < n → value n (text ++ rest) = some (v, rest)
  items : ∀ vs body rest, WritesItems vs body → body.length + 1 < n →
    items n (body ++ ']' :: rest) = some (vs, rest)
  members : ∀ ms body rest, WritesMembers ms body → body.length + 1 < n →
    members n (body ++ '\x7d' :: rest) = some (ms, rest)

variable {n : Nat} {body : List Char}

theorem value_writes (below : Suffices n) {v : Json} {text : List Char} (rest : List Char)
    (writes : Writes v text) (enough : text.length < n + 1) :
    value (n + 1) (text ++ rest) = some (v, rest) := by
  cases writes with
  | null | yes | no => rfl
  | @text t body spells =>
      have read := characters_spells spells rest (n := n) (by simp at enough; omega)
      simp [value, read, String.ofList_toList]
  | nothing blanks =>
      have ends := skip_mark blanks (show isSpace ']' = false by decide) rest
      simp [value, ends, quote]
  | @list vs body inside =>
      have open_ := items_head inside (']' :: rest)
      have read := below.items vs body rest inside (by simp at enough; omega)
      simp [value, open_, read, quote]
  | empty blanks =>
      have ends := skip_mark blanks (show isSpace '\x7d' = false by decide) rest
      simp [value, ends, quote]
  | @object ms body inside =>
      have open_ := members_head inside ('\x7d' :: rest)
      have read := below.members ms body rest inside (by simp at enough; omega)
      simp [value, open_, read, quote]

theorem items_writes (below : Suffices n) {vs : List Json} (rest : List Char)
    (writes : WritesItems vs body) (enough : body.length + 1 < n + 1) :
    items (n + 1) (body ++ ']' :: rest) = some (vs, rest) := by
  cases writes with
  | @last v front text behind before writes after =>
      simp only [List.length_append] at enough
      obtain ⟨reads, ends⟩ := item_step before writes after (show isSpace ']' = false by decide)
        rest fun rest => below.value v text rest writes (by omega)
      simp [items, reads, ends]
  | @more v vs front text behind body before writes after others =>
      simp only [List.length_append, List.length_cons] at enough
      obtain ⟨reads, ends⟩ := item_step before writes after (show isSpace ',' = false by decide)
        (body ++ ']' :: rest) fun rest => below.value v text rest writes (by omega)
      have later := below.items vs body rest others (by omega)
      simp [items, reads, ends, later]

theorem members_writes (below : Suffices n) {ms : List (String × Json)} (rest : List Char)
    (writes : WritesMembers ms body) (enough : body.length + 1 < n + 1) :
    members (n + 1) (body ++ '\x7d' :: rest) = some (ms, rest) := by
  cases writes with
  | @last name v spelled text lead gap front behind ahead spells between before writes after =>
      simp only [List.length_append, List.length_cons] at enough
      have called := characters_spells spells (gap ++ ':' :: (front ++ (text ++
        (behind ++ '\x7d' :: rest)))) (n := n) (by omega)
      obtain ⟨reads, ends⟩ := item_step before writes after
        (show isSpace '\x7d' = false by decide) rest fun rest => below.value v text rest writes (by omega)
      simp [members, skip_mark ahead, skip_mark between, quote_visible, colon_visible, called, reads,
        ends, String.ofList_toList]
  | @more name v ms spelled text lead gap front behind body ahead spells between before writes
      after others =>
      simp only [List.length_append, List.length_cons] at enough
      have called := characters_spells spells (gap ++ ':' :: (front ++ (text ++
        (behind ++ ',' :: (body ++ '\x7d' :: rest))))) (n := n) (by omega)
      obtain ⟨reads, ends⟩ := item_step before writes after (show isSpace ',' = false by decide)
        (body ++ '\x7d' :: rest) fun rest => below.value v text rest writes (by omega)
      have later := below.members ms body rest others (by omega)
      simp [members, skip_mark ahead, skip_mark between, quote_visible, colon_visible, called, reads,
        ends, later, String.ofList_toList]

theorem steps_suffice (n : Nat) : Suffices n := by
  induction n with
  | zero =>
      refine ⟨?_, ?_, ?_⟩ <;> (intro _ _ _ _ enough; exact absurd enough (Nat.not_lt_zero _))
  | succ n ih =>
      exact ⟨fun _ _ rest => value_writes ih rest, fun _ _ rest => items_writes ih rest,
        fun _ _ rest => members_writes ih rest⟩

theorem decode_document {v : Json} {text : String} (document : Document v text.toList) :
    decode text = some v := by
  generalize whole : text.toList = cs at document
  obtain ⟨before, writes, after⟩ := document
  rename_i front body behind
  have read := (steps_suffice ((front ++ (body ++ behind)).length + 1)).value v body behind writes
    (by simp only [List.length_append]; omega)
  have ended : skip behind = [] := by
    have passed : skip (behind ++ []) = [] := by
      apply skip_blanks after
      intro c first
      cases first
    rwa [List.append_nil] at passed
  rw [decode, whole, skip_writes before writes, read]
  simp only [Option.bind_eq_bind, Option.bind_some, if_pos ended]
  rfl

theorem document_unique {v w : Json} {text : String} (one : Document v text.toList)
    (two : Document w text.toList) : v = w :=
  Option.some.inj ((decode_document one).symm.trans (decode_document two))

end LinkedKeys.Report.Json

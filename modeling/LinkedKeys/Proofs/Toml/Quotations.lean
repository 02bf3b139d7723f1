import LinkedKeys.Toml.Statement
import Mathlib.Data.List.TakeWhile

namespace LinkedKeys.Toml

open Quoted (quote apostrophe backslash isPlain Mode Reading push)
open Statement (isSpace)

def Blanks (cs : List Char) : Prop := ∀ c ∈ cs, isSpace c = true

-- What stands behind a backslash for a character: a letter, or the number of the character.
inductive Escape (c : Char) : List Char → Prop where
  | letter {mark : Char} (named : Quoted.escaped mark = some c) : Escape c [mark]
  | short {digits : List Char} (four : digits.length = 4)
      (number : Text.number 16 digits = some c.toNat) : Escape c ('u' :: digits)
  | long {digits : List Char} (eight : digits.length = 8)
      (number : Text.number 16 digits = some c.toNat) : Escape c ('U' :: digits)

inductive Basic : List Char → List Char → Prop where
  | nil : Basic [] []
  | plain {c : Char} {text body : List Char} (visible : isPlain c = true) (unquoted : c ≠ quote)
      (unescaped : c ≠ backslash) (rest : Basic text body) : Basic (c :: text) (c :: body)
  | escape {c : Char} {written text body : List Char} (first : Escape c written)
      (rest : Basic text body) : Basic (c :: text) (backslash :: (written ++ body))

def Literal (text : List Char) : Prop := ∀ c ∈ text, isPlain c = true ∧ c ≠ apostrophe

-- A text on one line, with its marks.
inductive OneLine : List Char → List Char → Prop where
  | basic {text body : List Char} (spelled : Basic text body) :
      OneLine text (quote :: (body ++ [quote]))
  | literal {text : List Char} (plain : Literal text) :
      OneLine text (apostrophe :: (text ++ [apostrophe]))

variable {text rest cs body written : List Char} {c : Char}

theorem push_iff {reading : Reading} : push c reading = some (text, rest) ↔
    ∃ later, text = c :: later ∧ reading = some (later, rest) := by
  rw [push, Option.map_eq_some_iff]
  constructor
  · rintro ⟨⟨later, behind⟩, read, same⟩
    cases same
    exact ⟨later, rfl, read⟩
  · rintro ⟨later, rfl, read⟩
    exact ⟨(later, rest), read, rfl⟩

theorem isSpace_iff : isSpace c = true ↔ c = ' ' ∨ c = '\t' := decide_eq_true_iff

theorem scalar_iff {n : Nat} : Quoted.scalar n = some c ↔ n = c.toNat := by
  rw [Quoted.scalar, Option.ite_none_right_eq_some]
  constructor
  · rintro ⟨valid, same⟩
    have named : n.isValidChar := by
      unfold Nat.isValidChar
      omega
    rw [← Option.some.inj same, Char.ofNat, dif_pos named]
    exact UInt32.toNat_ofNatLT.symm
  · rintro rfl
    have valid : c.toNat.isValidChar := c.valid
    unfold Nat.isValidChar at valid
    exact ⟨by omega, by rw [Char.ofNat_toNat]⟩

-- The number that digits make behind others.
def continued : Nat → List Char → Option Nat
  | size, [] => some size
  | size, c :: cs => (Text.hexDigit c).bind fun digit => continued (size * 16 + digit) cs

theorem number_continued (digits : List Char) : Text.number 16 digits = continued 0 digits := by
  have nothing : ∀ cs : List Char, cs.foldl (fun n c => do
      let size ← n
      let digit ← Text.hexDigit c
      if digit < 16 then some (size * 16 + digit) else none) none = none := by
    intro cs
    induction cs with
    | nil => rfl
    | cons c cs ih => exact ih
  have whole : ∀ (cs : List Char) (size : Nat), cs.foldl (fun n c => do
      let size ← n
      let digit ← Text.hexDigit c
      if digit < 16 then some (size * 16 + digit) else none) (some size) = continued size cs := by
    intro cs
    induction cs with
    | nil => exact fun _ => rfl
    | cons c cs ih =>
        intro size
        rw [List.foldl_cons, continued]
        cases read : Text.hexDigit c with
        | none => exact nothing cs
        | some digit =>
            simp only [Option.bind_eq_bind, Option.bind_some]
            rw [if_pos (Text.hexDigit_lt read)]
            exact ih _
  exact whole digits 0

-- What a reader of escapes has to do, whatever else it reads.
structure Escapes (f : Mode → List Char → Reading) : Prop where
  ends : ∀ mode, f mode [] = none
  digit : ∀ left size c cs, f (.hex left size) (c :: cs) =
    match Quoted.hexStep left size c with
    | none => none
    | some (some e, _) => push e (f .plain cs)
    | some (none, left, size) => f (.hex left size) cs
  short : ∀ cs, f .escape ('u' :: cs) = f (.hex 4 0) cs
  long : ∀ cs, f .escape ('U' :: cs) = f (.hex 8 0) cs
  letter : ∀ {mark e} cs, Quoted.escaped mark = some e → f .escape (mark :: cs) = push e (f .plain cs)

variable {f : Mode → List Char → Reading}

theorem Escapes.last (escapes : Escapes f) (size : Nat) (c : Char) (cs : List Char) :
    f (.hex 1 size) (c :: cs) = (Text.hexDigit c).bind fun digit =>
      (Quoted.scalar (size * 16 + digit)).bind fun e => push e (f .plain cs) := by
  rw [escapes.digit, Quoted.hexStep]
  cases Text.hexDigit c with
  | none => rfl
  | some digit => cases found : Quoted.scalar (size * 16 + digit) <;> simp [found]

theorem Escapes.next (escapes : Escapes f) (left size : Nat) (c : Char) (cs : List Char) :
    f (.hex (left + 2) size) (c :: cs) = (Text.hexDigit c).bind fun digit =>
      f (.hex (left + 1) (size * 16 + digit)) cs := by
  rw [escapes.digit, Quoted.hexStep]
  cases Text.hexDigit c with
  | none => rfl
  | some digit => simp

theorem Escapes.digits_read (escapes : Escapes f) {digits : List Char} {left size : Nat}
    (many : digits.length = left + 1) (number : continued size digits = some c.toNat)
    (behind : List Char) : f (.hex (left + 1) size) (digits ++ behind) = push c (f .plain behind) := by
  induction left generalizing size digits with
  | zero =>
      obtain ⟨d, rfl⟩ := List.length_eq_one_iff.mp many
      obtain ⟨digit, read, same⟩ := Option.bind_eq_some_iff.mp number
      have named : Quoted.scalar (size * 16 + digit) = some c := scalar_iff.mpr (Option.some.inj same)
      rw [List.singleton_append, escapes.last, read, Option.bind_some, named, Option.bind_some]
  | succ left ih =>
      cases digits with
      | nil => cases many
      | cons d digits =>
          obtain ⟨digit, read, later⟩ := Option.bind_eq_some_iff.mp number
          rw [List.cons_append, escapes.next, read, Option.bind_some]
          exact ih (Nat.succ.inj many) later

theorem Escapes.digits_inverse (escapes : Escapes f) {left size : Nat} {r : List Char × List Char}
    (reads : f (.hex (left + 1) size) cs = some r) : ∃ digits behind e,
      digits.length = left + 1 ∧ continued size digits = some (Char.toNat e) ∧
        cs = digits ++ behind ∧ push e (f .plain behind) = some r := by
  cases cs with
  | nil =>
      rw [escapes.ends] at reads
      cases reads
  | cons c cs =>
      induction left generalizing size c cs with
      | zero =>
          rw [escapes.last] at reads
          obtain ⟨digit, read, later⟩ := Option.bind_eq_some_iff.mp reads
          obtain ⟨e, named, pushed⟩ := Option.bind_eq_some_iff.mp later
          refine ⟨[c], cs, e, rfl, ?_, rfl, pushed⟩
          rw [continued, read, Option.bind_some, continued, scalar_iff.mp named]
      | succ left ih =>
          rw [escapes.next] at reads
          obtain ⟨digit, read, later⟩ := Option.bind_eq_some_iff.mp reads
          cases cs with
          | nil =>
              rw [escapes.ends] at later
              cases later
          | cons d cs =>
              obtain ⟨digits, behind, e, many, number, same, pushed⟩ := ih d cs later
              refine ⟨c :: digits, behind, e, by rw [List.length_cons, many], ?_, ?_, pushed⟩
              · rw [continued, read]
                exact number
              · rw [same]
                rfl

theorem Escapes.reads (escapes : Escapes f) (first : Escape c written) (behind : List Char) :
    f .escape (written ++ behind) = push c (f .plain behind) := by
  cases first with
  | letter named => exact escapes.letter behind named
  | short four number =>
      rw [number_continued] at number
      exact (escapes.short _).trans (escapes.digits_read four number behind)
  | long eight number =>
      rw [number_continued] at number
      exact (escapes.long _).trans (escapes.digits_read eight number behind)

-- Behind a backslash stands an escape, unless the reader knows something else that may stand there.
theorem Escapes.inverse (escapes : Escapes f) {r : List Char × List Char}
    (known : c = 'u' ∨ c = 'U' ∨ ∃ e, Quoted.escaped c = some e)
    (reads : f .escape (c :: cs) = some r) : ∃ written behind e,
      Escape e written ∧ c :: cs = written ++ behind ∧ push e (f .plain behind) = some r := by
  rcases known with rfl | rfl | ⟨e, named⟩
  · rw [escapes.short] at reads
    obtain ⟨digits, behind, e, four, number, rfl, pushed⟩ := escapes.digits_inverse reads
    rw [← number_continued] at number
    exact ⟨_, behind, e, .short four number, rfl, pushed⟩
  · rw [escapes.long] at reads
    obtain ⟨digits, behind, e, eight, number, rfl, pushed⟩ := escapes.digits_inverse reads
    rw [← number_continued] at number
    exact ⟨_, behind, e, .long eight number, rfl, pushed⟩
  · rw [escapes.letter cs named] at reads
    exact ⟨[c], cs, e, .letter named, rfl, reads⟩

theorem Escapes.step (escapes : Escapes f)
    (known : c = 'u' ∨ c = 'U' ∨ ∃ e, Quoted.escaped c = some e)
    (reads : f .escape (c :: cs) = some (text, rest)) : ∃ written behind e later,
      Escape e written ∧ c :: cs = written ++ behind ∧ text = e :: later ∧
        f .plain behind = some (later, rest) ∧ behind.length ≤ (c :: cs).length := by
  obtain ⟨written, behind, e, first, same, pushed⟩ := escapes.inverse known reads
  obtain ⟨later, rfl, read⟩ := push_iff.mp pushed
  refine ⟨written, behind, e, later, first, same, rfl, read, ?_⟩
  rw [same, List.length_append]
  exact Nat.le_add_left _ _

theorem letter_other {mark d : Char} (named : Quoted.escaped mark = some c)
    (other : Quoted.escaped d = none) : mark ≠ d := by
  rintro rfl
  cases named.symm.trans other

theorem basic_escapes : Escapes Quoted.basic where
  ends _ := by rw [Quoted.basic]
  digit left size c cs := (Quoted.basic.eq_def (.hex left size) (c :: cs)).trans rfl
  short _ := by rw [Quoted.basic, if_pos rfl]
  long _ := by rw [Quoted.basic, if_neg (by decide), if_pos rfl]
  letter := by
    intro mark e cs named
    rw [Quoted.basic, if_neg (letter_other named rfl), if_neg (letter_other named rfl), named]

theorem basic_plain (c : Char) (cs : List Char) : Quoted.basic .plain (c :: cs) =
    if c = quote then some ([], cs)
    else if c = backslash then Quoted.basic .escape cs
    else if isPlain c then push c (Quoted.basic .plain cs)
    else none := by
  rw [Quoted.basic]
  · exact nofun
  · exact nofun

theorem basic_known {r : List Char × List Char} (reads : Quoted.basic .escape (c :: cs) = some r) :
    c = 'u' ∨ c = 'U' ∨ ∃ e, Quoted.escaped c = some e := by
  rw [Quoted.basic] at reads
  split at reads
  · exact .inl ‹_›
  split at reads
  · exact .inr (.inl ‹_›)
  split at reads
  · exact .inr (.inr ⟨_, ‹_›⟩)
  · cases reads

theorem basic_reads (spelled : Basic text body) (rest : List Char) :
    Quoted.basic .plain (body ++ quote :: rest) = some (text, rest) := by
  induction spelled with
  | nil => rw [List.nil_append, basic_plain, if_pos rfl]
  | plain visible unquoted unescaped later ih =>
      rw [List.cons_append, basic_plain, if_neg unquoted, if_neg unescaped, if_pos visible, ih]
      rfl
  | escape first later ih =>
      rw [List.cons_append, List.append_assoc, basic_plain, if_neg (by decide), if_pos rfl,
        basic_escapes.reads first, ih]
      rfl

theorem basic_inverse (reads : Quoted.basic .plain cs = some (text, rest)) :
    ∃ body, Basic text body ∧ cs = body ++ quote :: rest := by
  generalize size : cs.length = n
  induction n using Nat.strongRecOn generalizing cs text with
  | _ n ih =>
    cases cs with
    | nil =>
        rw [basic_escapes.ends] at reads
        cases reads
    | cons c cs =>
        rw [basic_plain] at reads
        split at reads
        · rename_i here
          cases reads
          exact ⟨[], .nil, by rw [here]; rfl⟩
        split at reads
        · rename_i unquoted escapes
          cases cs with
          | nil =>
              rw [basic_escapes.ends] at reads
              cases reads
          | cons d cs =>
              obtain ⟨written, behind, e, later, first, same, rfl, read, fewer⟩ :=
                basic_escapes.step (basic_known reads) reads
              have shorter : behind.length < n := size ▸ Nat.lt_succ_of_le fewer
              obtain ⟨body, spelled, rfl⟩ := ih _ shorter read rfl
              refine ⟨_, .escape first spelled, ?_⟩
              rw [escapes, same]
              simp
        split at reads
        · rename_i unquoted unescaped visible
          obtain ⟨later, rfl, read⟩ := push_iff.mp reads
          obtain ⟨body, spelled, rfl⟩ := ih _ (by simp [← size]) read rfl
          exact ⟨c :: body, .plain visible unquoted unescaped spelled, rfl⟩
        · cases reads

theorem read_literal (plain : Literal text) :
    Quoted.literal (text ++ apostrophe :: rest) = some (text, rest) := by
  induction text with
  | nil =>
      rw [List.nil_append, Quoted.literal, if_pos rfl]
  | cons c text ih =>
      obtain ⟨⟨visible, unquoted⟩, later⟩ := List.forall_mem_cons.mp plain
      rw [List.cons_append, Quoted.literal, if_neg unquoted, if_pos visible]
      exact push_iff.mpr ⟨text, rfl, ih later⟩

theorem literal_some (reads : Quoted.literal cs = some (text, rest)) :
    Literal text ∧ cs = text ++ apostrophe :: rest := by
  induction cs generalizing text with
  | nil => cases reads
  | cons c cs ih =>
      rw [Quoted.literal] at reads
      split at reads
      · rename_i here
        cases reads
        exact ⟨nofun, by rw [here]; rfl⟩
      split at reads
      · rename_i unquoted visible
        obtain ⟨later, rfl, read⟩ := push_iff.mp reads
        obtain ⟨plain, rfl⟩ := ih read
        exact ⟨List.forall_mem_cons.mpr ⟨⟨visible, unquoted⟩, plain⟩, rfl⟩
      · cases reads

theorem literal_iff : Quoted.literal cs = some (text, rest) ↔
    Literal text ∧ cs = text ++ apostrophe :: rest := by
  constructor
  · exact literal_some
  · rintro ⟨plain, rfl⟩
    exact read_literal plain

theorem oneLine_iff : Quoted.onOneLine cs = some (text, rest) ↔
    ∃ written, OneLine text written ∧ cs = written ++ rest := by
  constructor
  · intro reads
    cases cs with
    | nil => cases reads
    | cons c cs =>
        rw [Quoted.onOneLine] at reads
        split at reads
        · rename_i here
          obtain ⟨body, spelled, rfl⟩ := basic_inverse reads
          exact ⟨_, .basic spelled, by simp [here]⟩
        split at reads
        · rename_i here
          obtain ⟨plain, rfl⟩ := literal_iff.mp reads
          exact ⟨_, .literal plain, by simp [here]⟩
        · cases reads
  · rintro ⟨written, spelled, rfl⟩
    cases spelled with
    | basic spelled =>
        rw [List.cons_append, List.append_assoc, Quoted.onOneLine, if_pos rfl]
        exact basic_reads spelled rest
    | literal plain =>
        rw [List.cons_append, List.append_assoc, Quoted.onOneLine, if_neg (by decide), if_pos rfl]
        exact literal_iff.mpr ⟨plain, rfl⟩

end LinkedKeys.Toml

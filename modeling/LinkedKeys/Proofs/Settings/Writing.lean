import LinkedKeys.Proofs.Settings.Acceptance

namespace LinkedKeys.Config

open Context (IsUrl)
open Toml (Basic Integer Spaced Dotted Name Line Lines Written Blanks Statement)

theorem digits_exist (k : Nat) {n : Nat} (small : n < Nat.pow 16 k) : ∃ digits : List Char,
    digits.length = k ∧ (∀ c ∈ digits, (Text.hexDigit c).isSome = true) ∧
      ∀ size, Toml.continued size digits = some (size * Nat.pow 16 k + n) := by
  have each : ∀ d < 16, Text.hexDigit (Nat.digitChar d) = some d := by decide
  induction k generalizing n with
  | zero =>
      have zero : n = 0 := Nat.lt_one_iff.mp small
      rw [zero]
      exact ⟨[], rfl, nofun, fun size => congrArg some (Nat.mul_one size).symm⟩
  | succ k ih =>
      have positive : 0 < Nat.pow 16 k := Nat.pow_pos (by decide)
      have grows : Nat.pow 16 (k + 1) = 16 * Nat.pow 16 k := Nat.pow_succ'
      have whole : Nat.pow 16 k * (n / Nat.pow 16 k) + n % Nat.pow 16 k = n := Nat.div_add_mod n _
      have top : n / Nat.pow 16 k < 16 := Nat.div_lt_of_lt_mul small
      obtain ⟨later, many, sort, counted⟩ := ih (Nat.mod_lt n positive)
      refine ⟨Nat.digitChar (n / Nat.pow 16 k) :: later, by rw [List.length_cons, many], ?_, ?_⟩
      · exact List.forall_mem_cons.mpr ⟨by rw [each _ top]; rfl, sort⟩
      · intro size
        rw [Toml.continued, each _ top, Option.bind_some, counted, grows, Nat.add_mul, Nat.mul_assoc,
          Nat.add_assoc, Nat.mul_comm (n / Nat.pow 16 k), whole]

-- Nothing that a document would be changed by when its line ends are joined.
def Unreturned (cs : List Char) : Prop := ∀ c ∈ cs, c ≠ '\r'

theorem digits_unreturned {digits : List Char}
    (sort : ∀ c ∈ digits, (Text.hexDigit c).isSome = true) : Unreturned digits := by
  rintro c among rfl
  have digit := sort _ among
  cases digit

theorem text_exists (text : List Char) : ∃ body, Basic text body ∧ Unreturned body := by
  induction text with
  | nil => exact ⟨[], .nil, nofun⟩
  | cons c text ih =>
      obtain ⟨body, spelled, unreturned⟩ := ih
      have small : c.toNat < Nat.pow 16 8 := by
        have valid : c.toNat.isValidChar := c.valid
        have size : Nat.pow 16 8 = 4294967296 := by decide
        unfold Nat.isValidChar at valid
        omega
      obtain ⟨digits, eight, sort, counted⟩ := digits_exist 8 small
      have number : Text.number 16 digits = some c.toNat := by
        rw [Toml.number_continued, counted, Nat.zero_mul, Nat.zero_add]
      refine ⟨_, .escape (.long eight number) spelled, ?_⟩
      have plain := digits_unreturned sort
      refine List.forall_mem_cons.mpr ⟨by decide, List.forall_mem_append.mpr ⟨?_, unreturned⟩⟩
      exact List.forall_mem_cons.mpr ⟨by decide, plain⟩

theorem spaced_all {kind : Char → Bool} {digits : List Char} (some : digits ≠ [])
    (sort : ∀ c ∈ digits, kind c = true) : Spaced kind digits digits := by
  induction digits with
  | nil => exact absurd rfl some
  | cons c digits ih =>
      obtain ⟨digit, later⟩ := List.forall_mem_cons.mp sort
      cases digits with
      | nil => exact .single digit
      | cons d digits => exact .next digit (ih (List.cons_ne_nil d digits) later)

theorem value_continued {digits : List Char} {size n : Nat}
    (counted : Toml.continued size digits = some n) :
    digits.foldl (fun n c => n * 16 + (Text.hexDigit c).getD 0) size = n := by
  induction digits generalizing size with
  | nil => exact Option.some.inj counted
  | cons c digits ih =>
      obtain ⟨digit, read, later⟩ := Option.bind_eq_some_iff.mp counted
      rw [List.foldl_cons, read]
      exact ih later

theorem number_exists {n : Nat} (fits : n ≤ 9223372036854775807) :
    ∃ written, Integer n written ∧ Unreturned written := by
  obtain ⟨digits, many, sort, counted⟩ := digits_exist 16 (Nat.lt_of_le_of_lt fits (by decide))
  have size : Toml.Scalar.value 16 digits = n := by
    rw [Toml.Scalar.value, value_continued (counted 0), Nat.zero_mul, Nat.zero_add]
  have some : digits ≠ [] := List.ne_nil_of_length_pos (by omega)
  have bound : (Toml.Scalar.value 16 digits : Int) ≤ Toml.Scalar.greatest := by
    rw [size, Toml.Scalar.greatest]
    omega
  have spelled := Integer.based .hexadecimal (spaced_all some sort) bound
  rw [size] at spelled
  refine ⟨_, spelled, ?_⟩
  exact List.forall_mem_cons.mpr ⟨by decide, List.forall_mem_cons.mpr ⟨by decide, digits_unreturned sort⟩⟩

def isBareName (name : String) : Bool :=
  !name.toList.isEmpty && name.toList.all Statement.isBare

theorem name_chars {name : String} (bare : isBareName name = true) :
    name.toList ≠ [] ∧ ∀ c ∈ name.toList, Statement.isBare c = true := by
  obtain ⟨some, chars⟩ := Bool.and_eq_true_iff.mp bare
  exact ⟨by simpa using some, List.all_eq_true.mp chars⟩

theorem name_exists {name : String} (bare : isBareName name = true) : Name name name.toList := by
  obtain ⟨some, chars⟩ := name_chars bare
  obtain ⟨c, cs, shown⟩ := List.exists_cons_of_ne_nil some
  have whole : String.ofList (c :: cs) = name := by rw [← shown, String.ofList_toList]
  rw [shown] at chars ⊢
  rw [← whole]
  exact .bare chars

theorem name_unreturned {name : String} (bare : isBareName name = true) : Unreturned name.toList := by
  rintro c among rfl
  have char := (name_chars bare).2 _ among
  cases char

-- A line that is all there is to a document, or one of several.
structure Assigns (statement : Statement) (line : List Char) : Prop where
  spelled : Line statement line
  unreturned : Unreturned line
  unmarked : ∀ behind, (line ++ behind).head? ≠ some Statement.byteOrderMark

theorem assigns_exists {title key : String} {value : Toml.Value} {written : List Char}
    (titled : isBareName title = true) (named : isBareName key = true) (spelled : Written value written)
    (unreturned : Unreturned written) : ∃ line, Assigns (.assign [title] key value) line := by
  have nothing : Blanks [] := nofun
  have dotted : Dotted ([title] ++ [key]) (title.toList ++ '.' :: (key.toList ++ [])) :=
    .dot nothing (name_exists titled) nothing (.last nothing (name_exists named) nothing)
  refine ⟨_, .assign dotted nothing spelled, ?_, fun behind => ?_⟩
  · rw [List.append_nil, List.nil_append]
    have front : Unreturned (title.toList ++ '.' :: key.toList) :=
      List.forall_mem_append.mpr ⟨name_unreturned titled,
        List.forall_mem_cons.mpr ⟨by decide, name_unreturned named⟩⟩
    exact List.forall_mem_append.mpr ⟨front, List.forall_mem_cons.mpr ⟨by decide, unreturned⟩⟩
  · obtain ⟨c, cs, shown⟩ := List.exists_cons_of_ne_nil (name_chars titled).1
    have bare := (name_chars titled).2
    rw [shown] at bare ⊢
    rintro ⟨⟩
    have mark := bare _ List.mem_cons_self
    revert mark
    decide

theorem lines_exist {statements : List Statement}
    (each : ∀ statement ∈ statements, ∃ line, Assigns statement line) :
    ∃ cs, Lines statements cs ∧ Unreturned cs ∧ cs.head? ≠ some Statement.byteOrderMark := by
  have nothing : Blanks [] := nofun
  induction statements with
  | nil => exact ⟨[], .nil, nofun, nofun⟩
  | cons statement statements ih =>
      obtain ⟨⟨line, assigns⟩, later⟩ := List.forall_mem_cons.mp each
      obtain ⟨cs, spelled, unreturned, -⟩ := ih later
      have whole : Unreturned (line ++ '\n' :: cs) :=
        List.forall_mem_append.mpr ⟨assigns.unreturned,
          List.forall_mem_cons.mpr ⟨by decide, unreturned⟩⟩
      exact ⟨_, .line nothing assigns.spelled (.line (.blank nothing)) spelled, whole, assigns.unmarked _⟩

theorem joinLineEnds_unreturned {cs : List Char} (unreturned : Unreturned cs) :
    Statement.joinLineEnds cs = cs := by
  induction cs with
  | nil => rfl
  | cons c cs ih =>
      obtain ⟨other, later⟩ := List.forall_mem_cons.mp unreturned
      rw [Statement.joinLineEnds, if_neg fun joined => other joined.1, ih later]

theorem document_exists {statements : List Statement}
    (each : ∀ statement ∈ statements, ∃ line, Assigns statement line) :
    ∃ text, Toml.Document statements text := by
  obtain ⟨cs, spelled, unreturned, unmarked⟩ := lines_exist each
  have plain : Toml.plainText (String.ofList cs) = cs := by
    rw [Toml.plainText, String.toList_ofList, joinLineEnds_unreturned unreturned]
    exact if_neg unmarked
  exact ⟨String.ofList cs, by rw [Toml.Document, plain]; exact spelled⟩

variable {config : Config}

def assignments (config : Config) : List Statement :=
  .assign ["github"] "host" (.text config.host) ::
    .assign ["github"] "timeout_secs" (.integer config.timeout) ::
      config.paramsDir.toList.map fun dir => .assign ["params"] "dir" (.text dir)

def toRows (config : Config) : Toml.Rows :=
  ("github", .table [("host", .text config.host), ("timeout_secs", .integer config.timeout)]) ::
    config.paramsDir.toList.map fun dir => ("params", .table [("dir", .text dir)])

theorem assignments_rows (config : Config) :
    Toml.ofStatements config.assignments = some config.toRows := by
  obtain ⟨host, timeout, _ | dir⟩ := config
  · rfl
  · rfl

theorem toRows_read (config : Config) : ofRows config.toRows = some config := by
  have seconds : secondsOf (.integer config.timeout) = some config.timeout := secondsOf_iff.mpr rfl
  obtain ⟨host, timeout, dir⟩ := config
  have read : ofRows (toRows ⟨host, timeout, dir⟩) =
      (secondsOf (.integer timeout)).bind fun seconds => some ⟨host, seconds, dir⟩ := by
    cases dir with
    | none => rfl
    | some dir => rfl
  rw [read, seconds]
  rfl

theorem toRows_sectioned (config : Config) : Sectioned (Held config.toRows) := by
  obtain ⟨host, timeout, dir⟩ := config
  intro name among place there
  rcases List.mem_pair.mp among with rfl | rfl
  · exact (Option.some.inj there).symm
  · cases dir with
    | none => cases there
    | some dir => exact (Option.some.inj there).symm

theorem text_assigns {title key : String} (titled : isBareName title = true) (named : isBareName key = true)
    (text : String) : ∃ line, Assigns (.assign [title] key (.text text)) line := by
  obtain ⟨body, spelled, unreturned⟩ := text_exists text.toList
  have written : Written (.text text) (Toml.Quoted.quote :: (body ++ [Toml.Quoted.quote])) := by
    rw [← String.ofList_toList (s := text)]
    exact .leaf (.text (.oneLine (.basic spelled)))
  refine assigns_exists titled named written ?_
  exact List.forall_mem_cons.mpr ⟨by decide, List.forall_mem_append.mpr ⟨unreturned,
    List.forall_mem_singleton.mpr (by decide)⟩⟩

theorem assignments_exist (fits : config.timeout ≤ 9223372036854775807) :
    ∀ statement ∈ config.assignments, ∃ line, Assigns statement line := by
  have github : isBareName "github" = true := by decide
  refine List.forall_mem_cons.mpr ⟨text_assigns github (by decide) _, List.forall_mem_cons.mpr ⟨?_, ?_⟩⟩
  · obtain ⟨written, spelled, unreturned⟩ := number_exists fits
    exact assigns_exists github (by decide) (.leaf (.integer spelled)) unreturned
  · intro statement among
    obtain ⟨path, -, rfl⟩ := List.mem_map.mp among
    exact text_assigns (by decide) (by decide) path

theorem assignments_shallow (config : Config) :
    ∀ statement ∈ config.assignments, statement.Shallow := by
  have two : 2 < Toml.deepest := by decide
  refine List.forall_mem_cons.mpr ⟨two, List.forall_mem_cons.mpr ⟨two, ?_⟩⟩
  intro statement among
  obtain ⟨path, -, rfl⟩ := List.mem_map.mp among
  exact two

-- A configuration can be given if its host is a web address and its time fits, and only then.
theorem configs_written (config : Config) :
    (∃ text rows, Toml.parse text = some rows ∧ Sectioned (Held rows) ∧ parse text = .ok config) ↔
      IsUrl config.host ∧ config.timeout ≤ 9223372036854775807 := by
  constructor
  · rintro ⟨text, rows, parsed, sectioned, accepted⟩
    have decided := parse_decides parsed sectioned
    obtain ⟨documented, host, given, url⟩ := decided.succeeds.mp ⟨config, accepted⟩
    have settles := decided.settles config accepted
    rw [host_unique given settles.host] at url
    refine ⟨url, ?_⟩
    have timeout := settles.timeout
    generalize config.timeout = seconds at timeout
    cases timeout with
    | given there => exact documented_timeout (documented _ _ there)
    | usual => decide
  · rintro ⟨url, fits⟩
    obtain ⟨text, written⟩ := document_exists (assignments_exist fits)
    have read := Toml.document_read written (assignments_shallow config)
    have parsed : Toml.parse text = some config.toRows :=
      Option.bind_eq_some_iff.mpr ⟨_, read, assignments_rows config⟩
    refine ⟨text, _, parsed, toRows_sectioned config, ?_⟩
    rw [parse, parsed, Option.bind_some, toRows_read]
    dsimp only
    rw [(Context.checkHost_iff config.host).mpr url]
    rfl

end LinkedKeys.Config

import LinkedKeys.Proofs.Settings.Places
import LinkedKeys.Proofs.Settings.Precedence
import LinkedKeys.Proofs.Toml.Lines

namespace LinkedKeys.Config

open Context (IsUrl checkHost_iff checkHost_bad)
open Toml (Place Rows Value)

variable {rows : Rows} {config : Config}

-- A setting is what is given for it, or its default where nothing is.
inductive Gives {α : Type} (holds : List String → Place → Prop) (path : List String)
    (write : α → Value) (default : α) : α → Prop where
  | given {a : α} (there : holds path (.value (write a))) : Gives holds path write default a
  | usual (nowhere : ∀ place, ¬holds path place) : Gives holds path write default default

structure Settles (holds : List String → Place → Prop) (config : Config) : Prop where
  host : Gives holds ["github", "host"] .text "https://github.com" config.host
  timeout : Gives holds ["github", "timeout_secs"] (fun seconds : Nat => .integer seconds) 20
    config.timeout
  dir : ∀ dir, config.paramsDir = some dir ↔ holds ["params", "dir"] (.value (.text dir))

-- In a table, a member of a section is what stands at its place.
theorem member_at? {name : String} (sectioned : Sectioned (Held rows))
    (among : name ∈ ["github", "params"]) (key : String) (place : Nat) :
    rows.at? [name, key] = ((rows.lookup name).bind (member? key place)).bind (Value.at? []) := by
  cases there : rows.lookup name with
  | none =>
      rw [Toml.Rows.at?_cons, there]
      rfl
  | some value =>
      obtain ⟨inner, rfl⟩ := section_table sectioned among there
      rw [at?_single there]
      rfl

variable {α : Type} {read : Value → Option α} {write : α → Value}

theorem member_iff {name : String} (sectioned : Sectioned (Held rows))
    (among : name ∈ ["github", "params"]) (key : String) (place : Nat)
    (reads : ∀ value a, read value = some a ↔ value = write a)
    (leaf : ∀ a, (write a).at? [] = some (.value (write a))) (a : α) :
    ((rows.lookup name).bind (member? key place)).bind read = some a ↔
      Held rows [name, key] (.value (write a)) := by
  rw [Held, member_at? sectioned among key place]
  cases (rows.lookup name).bind (member? key place) with
  | none => exact ⟨nofun, nofun⟩
  | some value =>
      rw [Option.bind_some, Option.bind_some, reads]
      constructor
      · rintro rfl
        exact leaf a
      · intro here
        exact (Value.at?_here here).symm

theorem member_gives {name : String} (sectioned : Sectioned (Held rows))
    (among : name ∈ ["github", "params"]) (key : String) (place : Nat)
    (reads : ∀ value a, read value = some a ↔ value = write a)
    (leaf : ∀ a, (write a).at? [] = some (.value (write a)))
    (only : ∀ place, Held rows [name, key] place → ∃ a, place = .value (write a)) (default : α) :
    Gives (Held rows) [name, key] write default
      ((((rows.lookup name).bind (member? key place)).bind read).getD default) := by
  have settled := member_iff sectioned among key place reads leaf
  cases found : ((rows.lookup name).bind (member? key place)).bind read with
  | some a => exact .given ((settled a).mp found)
  | none =>
      refine .usual fun place there => ?_
      obtain ⟨a, rfl⟩ := only place there
      cases found.symm.trans ((settled a).mpr there)

theorem sources_settle (sectioned : Sectioned (Held rows)) (documented : AllDocumented (Held rows)) :
    Settles (Held rows) (ofSources rows) where
  host := by
    refine member_gives sectioned List.mem_cons_self "host" 0 (fun _ _ => textOf_iff) (fun _ => rfl) ?_ _
    intro place there
    rcases documented_github (documented _ place there) with ⟨-, host⟩ | ⟨other, -⟩
    · exact host
    · simp at other
  timeout := by
    refine member_gives sectioned List.mem_cons_self "timeout_secs" 1 (fun _ _ => secondsOf_iff)
      (fun _ => rfl) ?_ _
    intro place there
    rcases documented_github (documented _ place there) with ⟨other, -⟩ | ⟨-, timeout⟩
    · simp at other
    · exact timeout
  dir := by
    have among : "params" ∈ ["github", "params"] := by simp
    exact member_iff sectioned among "dir" 0 (fun _ _ => textOf_iff) fun _ => rfl

-- How what a document holds decides what is made of it.
structure Decides (holds : List String → Place → Prop) (outcome : Except Fault Config) : Prop where
  succeeds : (∃ config, outcome = .ok config) ↔ AllDocumented holds ∧
    ∃ host, Gives holds ["github", "host"] .text "https://github.com" host ∧ IsUrl host
  settles : ∀ config, outcome = .ok config → Settles holds config
  undocumented : ¬AllDocumented holds → outcome = .error .unparsable
  badHost : AllDocumented holds → ∀ host,
    Gives holds ["github", "host"] .text "https://github.com" host → ¬IsUrl host →
      outcome = .error (.badHost host)

variable {holds : List String → Place → Prop} {path : List String} {default : α}

theorem gives_unique (functional : ∀ path one two, holds path one → holds path two → one = two)
    (injective : ∀ a b, write a = write b → a = b) {one two : α}
    (first : Gives holds path write default one) (second : Gives holds path write default two) :
    one = two := by
  cases first with
  | given there =>
      cases second with
      | given again => exact injective one two (Place.value.inj (functional path _ _ there again))
      | usual nowhere => exact absurd there (nowhere _)
  | usual nowhere =>
      cases second with
      | given there => exact absurd there (nowhere _)
      | usual => rfl

theorem held_functional (path : List String) (one two : Place) (first : Held rows path one)
    (second : Held rows path two) : one = two :=
  Option.some.inj (first.symm.trans second)

theorem host_unique {one two : String}
    (first : Gives (Held rows) ["github", "host"] .text "https://github.com" one)
    (second : Gives (Held rows) ["github", "host"] .text "https://github.com" two) : one = two :=
  gives_unique held_functional (fun _ _ => Value.text.inj) first second

theorem host_given (documented : AllDocumented (Held rows)) :
    ∃ host, Gives (Held rows) ["github", "host"] .text "https://github.com" host := by
  cases there : rows.at? ["github", "host"] with
  | none =>
      refine ⟨_, .usual fun place held => ?_⟩
      cases there.symm.trans held
  | some place =>
      rcases documented_github (documented _ place there) with ⟨-, host, rfl⟩ | ⟨other, -⟩
      · exact ⟨host, .given there⟩
      · simp at other

theorem settles_unique {one two : Config} (first : Settles (Held rows) one)
    (second : Settles (Held rows) two) : one = two := by
  have host : one.host = two.host := host_unique first.host second.host
  have timeout : one.timeout = two.timeout :=
    gives_unique held_functional (fun _ _ same => Int.ofNat.inj (Value.integer.inj same))
      first.timeout second.timeout
  have dir : one.paramsDir = two.paramsDir :=
    Option.ext fun dir => (first.dir dir).trans (second.dir dir).symm
  obtain ⟨_, _, _⟩ := one
  obtain ⟨_, _, _⟩ := two
  cases host
  cases timeout
  cases dir
  rfl

-- Nothing but what is held decides: neither the notation of it nor its order.
theorem decides_unique {one two : Except Fault Config} (first : Decides (Held rows) one)
    (second : Decides (Held rows) two) : one = two := by
  by_cases documented : AllDocumented (Held rows)
  · obtain ⟨host, given⟩ := host_given documented
    by_cases url : IsUrl host
    · obtain ⟨config, rfl⟩ := first.succeeds.mpr ⟨documented, host, given, url⟩
      obtain ⟨other, rfl⟩ := second.succeeds.mpr ⟨documented, host, given, url⟩
      rw [settles_unique (first.settles _ rfl) (second.settles _ rfl)]
    · rw [first.badHost documented host given url, second.badHost documented host given url]
  · rw [first.undocumented documented, second.undocumented documented]

theorem parse_decides {text : String} (parsed : Toml.parse text = some rows)
    (sectioned : Sectioned (Held rows)) : Decides (Held rows) (parse text) := by
  cases reads : ofRows rows with
  | none =>
      have undocumented : ¬AllDocumented (Held rows) := by
        intro documented
        obtain ⟨config, read⟩ := documented_reads sectioned documented
        cases reads.symm.trans read
      have bad : (Toml.parse text).bind ofRows = none := by
        rw [parsed]
        exact reads
      rw [Context.parse_unparsable bad]
      exact {
        succeeds := ⟨nofun, fun settled => absurd settled.1 undocumented⟩
        settles := nofun
        undocumented := fun _ => rfl
        badHost := fun documented => absurd documented undocumented }
  | some made =>
      have documented := reads_documented sectioned (Toml.parse_bounded parsed) reads
      have settles := sources_settle sectioned documented
      rw [Context.parse_some parsed reads]
      by_cases url : IsUrl (ofSources rows).host
      · rw [(checkHost_iff _).mpr url]
        refine ⟨⟨fun _ => ⟨documented, _, settles.host, url⟩, fun _ => ⟨_, rfl⟩⟩, ?_, ?_, ?_⟩
        · rintro _ ⟨⟩
          exact settles
        · exact absurd documented
        · intro _ host given bad
          rw [host_unique given settles.host] at bad
          exact absurd url bad
      · rw [checkHost_bad url]
        refine ⟨⟨nofun, ?_⟩, nofun, absurd documented, ?_⟩
        · rintro ⟨-, host, given, accepted⟩
          rw [host_unique given settles.host] at accepted
          exact absurd accepted url
        · intro _ host given _
          rw [host_unique given settles.host]
          rfl

-- Tables at the top, and texts and integers below them.
theorem documented_shape {path : List String} {place : Place} (documented : Documented path place) :
    (path.length ≤ 1 ∧ place = .table) ∨
      (path.length = 2 ∧ ∃ leaf, place = .value leaf ∧ leaf.IsLeaf) := by
  cases documented with
  | root | github | params => exact .inl ⟨by decide, rfl⟩
  | host | timeout | dir => exact .inr ⟨rfl, _, rfl, trivial⟩

theorem documented_sectioned (documented : AllDocumented holds) : Sectioned holds := by
  intro name among place there
  rcases documented_shape (documented _ place there) with ⟨-, table⟩ | ⟨long, -⟩
  · exact table
  · cases long

variable {statements : List Toml.Statement}

theorem held_said (made : Toml.ofStatements statements = some rows)
    (plain : ∀ path, .item path ∉ statements) : Held rows = Toml.Said statements :=
  funext fun path => funext fun place => propext (Toml.said_iff plain made path place)

theorem part_documented (documented : AllDocumented (Toml.Said statements)) {part : Value}
    (among : part ∈ Toml.parts [] statements) {path : List String} {place : Place}
    (there : part.at? path = some place) : Documented path place :=
  documented path place (.inr ⟨part, among, there⟩)

theorem alone_documented (documented : AllDocumented (Toml.Said statements)) {given : Value}
    (among : .alone path given ∈ Toml.parts [] statements) {more : List String} {place : Place}
    (there : given.at? more = some place) : Documented (path ++ more) place :=
  part_documented documented among ((Value.alone_append path more given).trans there)

theorem documented_setting (documented : AllDocumented (Toml.Said statements)) {given : Value}
    (nonempty : path ≠ []) (among : .alone path given ∈ Toml.parts [] statements) :
    given.IsSetting := by
  have below : 0 < path.length := List.length_pos_iff.mpr nonempty
  cases given with
  | table inner =>
      refine .inr ⟨inner, rfl, fun more place there => ?_⟩
      have shape := documented_shape (alone_documented documented among there)
      rw [List.length_append] at shape
      rcases shape with ⟨short, -⟩ | ⟨two, leaf, rfl, sort⟩
      · exact .inl (List.length_eq_zero_iff.mp (by omega))
      · rcases Nat.eq_zero_or_pos more.length with none | some
        · exact .inl (List.length_eq_zero_iff.mp none)
        · obtain ⟨key, rfl⟩ := List.length_eq_one_iff.mp (by omega : more.length = 1)
          exact .inr ⟨key, leaf, rfl, rfl, sort⟩
  | _ =>
      obtain ⟨place, here⟩ := Value.at?_root _
      rcases documented_shape (alone_documented documented among here) with ⟨-, rfl⟩ | ⟨-, leaf, rfl, sort⟩
      · cases here
      · rw [Value.at?_here here] at sort
        exact .inl sort

theorem documented_plain (documented : AllDocumented (Toml.Said statements))
    (plain : ∀ path, .item path ∉ statements) :
    ∀ statement ∈ statements, statement.IsPlain ∧ statement.Shallow := by
  have few : ∀ {path : List String} {given : Value},
      .alone path given ∈ Toml.parts [] statements → path.length < Toml.deepest := by
    intro path given among
    obtain ⟨place, here⟩ := Value.at?_root given
    have shape := documented_shape (alone_documented documented among here)
    rw [List.append_nil] at shape
    rcases shape with ⟨short, -⟩ | ⟨two, -⟩
    · exact Nat.lt_of_le_of_lt short (by decide)
    · rw [two]
      decide
  intro statement among
  cases statement with
  | header path => exact ⟨trivial, few (Toml.header_part [] among)⟩
  | item path => exact absurd among (plain path)
  | assign path key given =>
      obtain ⟨front, said⟩ := Toml.assign_part [] among
      refine ⟨documented_setting documented (by simp) said, ?_⟩
      have size := few said
      rw [List.length_append] at size
      exact Nat.lt_of_le_of_lt (Nat.le_add_left _ _) size

theorem held_items (documented : AllDocumented (Held rows))
    (made : Toml.ofStatements statements = some rows) (path : List String) :
    .item path ∉ statements := by
  intro among
  obtain ⟨place, items, listed⟩ := Toml.items_listed among made
  rcases documented_shape (documented _ _ listed) with ⟨-, table⟩ | ⟨-, leaf, same, sort⟩
  · cases table
  · cases same
    exact sort

theorem written_iff {text : String} :
    (parse text = .ok config ∧ ∃ rows, Toml.parse text = some rows ∧ Sectioned (Held rows)) ↔
      ∃ statements, Toml.Document statements text ∧ (Toml.ofStatements statements).isSome ∧
        AllDocumented (Toml.Said statements) ∧ Settles (Toml.Said statements) config ∧
          IsUrl config.host := by
  constructor
  · rintro ⟨accepted, rows, parsed, sectioned⟩
    have decided := parse_decides parsed sectioned
    obtain ⟨documented, host, given, url⟩ := decided.succeeds.mp ⟨config, accepted⟩
    have settles := decided.settles config accepted
    rw [host_unique given settles.host] at url
    obtain ⟨statements, read, made⟩ := Option.bind_eq_some_iff.mp parsed
    have plain := held_items documented made
    rw [held_said made plain] at documented settles
    have written := Toml.document_inverse read fun statement among =>
      (documented_plain documented plain statement among).1
    exact ⟨statements, written, Option.isSome_iff_exists.mpr ⟨rows, made⟩, documented, settles, url⟩
  · rintro ⟨statements, written, some, documented, settles, url⟩
    obtain ⟨rows, made⟩ := Option.isSome_iff_exists.mp some
    have plain := Toml.lines_items written
    have read := Toml.document_read written fun statement among =>
      (documented_plain documented plain statement among).2
    have parsed : Toml.parse text = .some rows := Option.bind_eq_some_iff.mpr ⟨statements, read, made⟩
    rw [← held_said made plain] at documented settles
    have decided := parse_decides parsed (documented_sectioned documented)
    obtain ⟨found, accepted⟩ := decided.succeeds.mpr ⟨documented, _, settles.host, url⟩
    rw [settles_unique settles (decided.settles found accepted)]
    exact ⟨accepted, rows, parsed, documented_sectioned documented⟩

-- A dotted key, a literal text, a quoted name with an escape in it and a number in base 16.
example : parse "params.dir = '/p' # here\n[github]\n\"timeout\\u005fsecs\" = 0x1F\n" =
    .ok ⟨"https://github.com", 31, some "/p"⟩ := by decide +kernel

example : parse "github = \x7b timeout = 5 \x7d" = .error .unparsable := by decide +kernel

-- What is made of a text: of one that is no document, and of a document by what it holds.
structure Accepts (text : String) : Prop where
  invalid : Toml.parse text = none → parse text = .error .unparsable
  held : ∀ rows, Toml.parse text = some rows → Sectioned (Held rows) →
    Decides (Held rows) (parse text)
  alike : ∀ other rows rows', Toml.parse text = some rows → Toml.parse other = some rows' →
    Sectioned (Held rows) → (∀ path place, Held rows path place ↔ Held rows' path place) →
    parse text = parse other
  written : ∀ config,
    (parse text = .ok config ∧ ∃ rows, Toml.parse text = some rows ∧ Sectioned (Held rows)) ↔
      ∃ statements, Toml.Document statements text ∧ (Toml.ofStatements statements).isSome ∧
        AllDocumented (Toml.Said statements) ∧ Settles (Toml.Said statements) config ∧
          IsUrl config.host
  refuses : ∀ failure, (parse text).mapError Fault.failure = .error failure →
    ∃ message, failure = .badConfig message

theorem documents_accepted (text : String) : Accepts text where
  invalid bad := by
    apply Context.parse_unparsable
    rw [bad]
    rfl
  held _ := parse_decides
  alike := by
    intro other rows rows' parsed reparsed sectioned same
    have equal : Held rows = Held rows' := funext fun path => funext fun place => propext (same path place)
    have decided := parse_decides parsed sectioned
    rw [equal] at sectioned decided
    exact decides_unique decided (parse_decides reparsed sectioned)
  written _ := written_iff
  refuses := by
    intro failure fails
    cases outcome : parse text with
    | ok config =>
        rw [outcome] at fails
        cases fails
    | error fault =>
        rw [outcome] at fails
        cases fails
        exact ⟨fault.message, rfl⟩

end LinkedKeys.Config

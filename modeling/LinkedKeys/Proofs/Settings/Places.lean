import LinkedKeys.Proofs.Settings.Documents
import LinkedKeys.Proofs.Toml.Bounds

namespace LinkedKeys.Config

open Toml (Place Rows Value)

variable {rows inner : Rows} {config : Config} {value : Value}

theorem onlyKeys_iff {known : List String} :
    onlyKeys known rows = true ↔ ∀ key value, rows.lookup key = some value → key ∈ known := by
  rw [onlyKeys, List.all_eq_true]
  constructor
  · intro every key value there
    exact List.contains_iff_mem.mp (every (key, value) (Toml.mem_of_lookup there))
  · intro every row among
    obtain ⟨value, there⟩ : ∃ value, rows.lookup row.1 = some value :=
      Option.isSome_iff_exists.mp (List.lookup_isSome_iff.mpr ⟨row, among, beq_self_eq_true row.1⟩)
    exact List.contains_iff_mem.mpr (every row.1 value there)

theorem given_iff {α : Type} {read : Value → Option α} {value? : Option Value} {default : α} :
    (∃ got, given read value? default = some got) ↔
      ∀ value, value? = some value → ∃ got, read value = some got := by
  cases value? with
  | none => simp [given]
  | some value => simp [given]

theorem textOf_iff {text : String} : textOf value = some text ↔ value = .text text := by
  cases value <;> simp [textOf]

theorem secondsOf_iff {seconds : Nat} :
    secondsOf value = some seconds ↔ value = .integer seconds := by
  cases value with
  | integer n =>
      rw [secondsOf, Option.ite_none_right_eq_some]
      constructor
      · rintro ⟨positive, same⟩
        rw [← Option.some.inj same, Int.toNat_of_nonneg positive]
      · intro same
        cases same
        exact ⟨Int.natCast_nonneg seconds, rfl⟩
  | _ => simp [secondsOf]

-- The types of what a section gives decide whether it is read.
theorem readGithub_iff : (∃ result, readGithub config (.table inner) = some result) ↔
    (∀ key value, inner.lookup key = some value → key ∈ ["host", "timeout_secs"]) ∧
    (∀ value, inner.lookup "host" = some value → ∃ text, value = .text text) ∧
    (∀ value, inner.lookup "timeout_secs" = some value → ∃ seconds : Nat, value = .integer seconds) := by
  have hosts : (∃ host, given textOf (inner.lookup "host") config.host = some host) ↔ _ := given_iff
  have timeouts : (∃ timeout, given secondsOf (inner.lookup "timeout_secs") config.timeout =
      some timeout) ↔ _ := given_iff
  simp only [textOf_iff] at hosts
  simp only [secondsOf_iff] at timeouts
  rw [← onlyKeys_iff, ← hosts, ← timeouts, readGithub, section?]
  constructor
  · rintro ⟨result, reads⟩
    obtain ⟨entries, found, rest⟩ := Option.bind_eq_some_iff.mp reads
    obtain ⟨known, same⟩ := Option.ite_none_right_eq_some.mp found
    cases same
    obtain ⟨host, takesHost, rest⟩ := Option.bind_eq_some_iff.mp rest
    obtain ⟨timeout, takesTimeout, -⟩ := Option.bind_eq_some_iff.mp rest
    exact ⟨known, ⟨host, takesHost⟩, ⟨timeout, takesTimeout⟩⟩
  · rintro ⟨known, ⟨host, takesHost⟩, ⟨timeout, takesTimeout⟩⟩
    refine ⟨{ config with host, timeout }, ?_⟩
    rw [if_pos known]
    refine Option.bind_eq_some_iff.mpr ⟨_, rfl, ?_⟩
    refine Option.bind_eq_some_iff.mpr ⟨host, takesHost, ?_⟩
    exact Option.bind_eq_some_iff.mpr ⟨timeout, takesTimeout, rfl⟩

theorem readParams_iff : (∃ result, readParams config (.table inner) = some result) ↔
    (∀ key value, inner.lookup key = some value → key ∈ ["dir"]) ∧
    (∀ value, inner.lookup "dir" = some value → ∃ text, value = .text text) := by
  have dirs : (∃ dir, given (fun v => (textOf v).map some) (inner.lookup "dir") config.paramsDir =
      some dir) ↔ _ := given_iff
  have wrapped : ∀ value, (∃ dir, (textOf value).map some = some dir) ↔ ∃ text, value = .text text := by
    intro value
    simp only [← textOf_iff]
    cases textOf value <;> simp
  simp only [wrapped] at dirs
  rw [← onlyKeys_iff, ← dirs, readParams, section?]
  constructor
  · rintro ⟨result, reads⟩
    obtain ⟨entries, found, rest⟩ := Option.bind_eq_some_iff.mp reads
    obtain ⟨known, same⟩ := Option.ite_none_right_eq_some.mp found
    cases same
    obtain ⟨dir, takes, -⟩ := Option.bind_eq_some_iff.mp rest
    exact ⟨known, dir, takes⟩
  · rintro ⟨known, dir, takes⟩
    refine ⟨{ config with paramsDir := dir }, ?_⟩
    rw [if_pos known]
    refine Option.bind_eq_some_iff.mpr ⟨_, rfl, ?_⟩
    exact Option.bind_eq_some_iff.mpr ⟨dir, takes, rfl⟩

-- The places that a configuration may have, and what may stand there.
inductive Documented : List String → Place → Prop where
  | root : Documented [] .table
  | github : Documented ["github"] .table
  | params : Documented ["params"] .table
  | host (host : String) : Documented ["github", "host"] (.value (.text host))
  | timeout {seconds : Nat} (fits : seconds ≤ 9223372036854775807) :
      Documented ["github", "timeout_secs"] (.value (.integer seconds))
  | dir (dir : String) : Documented ["params", "dir"] (.value (.text dir))

theorem documented_name {name : String} {place : Place} (documented : Documented [name] place) :
    name ∈ ["github", "params"] := by
  generalize whole : [name] = path at documented
  cases documented with
  | github | params => simp [List.singleton_inj.mp whole]
  | root | host | timeout | dir => simp at whole

theorem documented_github {key : String} {place : Place}
    (documented : Documented ["github", key] place) :
    (key = "host" ∧ ∃ host, place = .value (.text host)) ∨
      (key = "timeout_secs" ∧ ∃ seconds : Nat, place = .value (.integer seconds)) := by
  generalize whole : ["github", key] = path at documented
  cases documented with
  | host host => exact .inl ⟨by simpa using whole, host, rfl⟩
  | @timeout seconds => exact .inr ⟨by simpa using whole, seconds, rfl⟩
  | root | github | params | dir => simp at whole

theorem documented_params {key : String} {place : Place}
    (documented : Documented ["params", key] place) :
    key = "dir" ∧ ∃ dir, place = .value (.text dir) := by
  generalize whole : ["params", key] = path at documented
  cases documented with
  | dir dir => exact ⟨by simpa using whole, dir, rfl⟩
  | root | github | params | host | timeout => simp at whole

def Held (rows : Rows) (path : List String) (place : Place) : Prop := rows.at? path = some place

theorem documented_timeout {path : List String} {seconds : Nat}
    (documented : Documented path (.value (.integer seconds))) : seconds ≤ 9223372036854775807 := by
  generalize whole : Place.value (.integer seconds) = place at documented
  cases documented with
  | @timeout other fits =>
      have same : seconds = other := Int.ofNat.inj (Value.integer.inj (Place.value.inj whole))
      rw [same]
      exact fits
  | root | github | params | host | dir => simp at whole

-- Both sections are tables where they are there.
def Sectioned (holds : List String → Place → Prop) : Prop :=
  ∀ name ∈ ["github", "params"], ∀ place, holds [name] place → place = .table

def AllDocumented (holds : List String → Place → Prop) : Prop :=
  ∀ path place, holds path place → Documented path place

theorem at?_single {name : String} (there : rows.lookup name = some value) (path : List String) :
    rows.at? (name :: path) = value.at? path := by
  rw [Toml.Rows.at?_cons, there]
  rfl

theorem at?_inside {name key : String} (there : rows.lookup name = some (.table inner))
    (held : inner.lookup key = some value) (path : List String) :
    rows.at? (name :: key :: path) = value.at? path :=
  (at?_single there (key :: path)).trans (at?_single held path)

theorem section_table {name : String} (sectioned : Sectioned (Held rows))
    (among : name ∈ ["github", "params"]) (there : rows.lookup name = some value) :
    ∃ inner, value = .table inner := by
  obtain ⟨place, here⟩ := Value.at?_root value
  have table := sectioned name among place ((at?_single there []).trans here)
  cases value with
  | table inner => exact ⟨inner, rfl⟩
  | _ =>
      rw [table] at here
      cases here

theorem documented_inside {name key : String} (documented : AllDocumented (Held rows))
    (there : rows.lookup name = some (.table inner)) (held : inner.lookup key = some value) :
    ∃ place, value.at? [] = some place ∧ Documented [name, key] place := by
  obtain ⟨place, here⟩ := Value.at?_root value
  exact ⟨place, here, documented _ place ((at?_inside there held []).trans here)⟩

theorem github_read (sectioned : Sectioned (Held rows)) (documented : AllDocumented (Held rows))
    (config : Config) :
    ∃ middle, given (readGithub config) (rows.lookup "github") config = some middle := by
  refine given_iff.mpr fun value there => ?_
  obtain ⟨inner, rfl⟩ := section_table sectioned (by simp) there
  refine readGithub_iff.mpr ⟨fun key value held => ?_, fun value held => ?_, fun value held => ?_⟩
  · obtain ⟨place, -, said⟩ := documented_inside documented there held
    rcases documented_github said with ⟨rfl, -⟩ | ⟨rfl, -⟩ <;> simp
  · obtain ⟨place, here, said⟩ := documented_inside documented there held
    rcases documented_github said with ⟨-, host, rfl⟩ | ⟨other, -⟩
    · exact ⟨host, (Value.at?_here here).symm⟩
    · simp at other
  · obtain ⟨place, here, said⟩ := documented_inside documented there held
    rcases documented_github said with ⟨other, -⟩ | ⟨-, seconds, rfl⟩
    · simp at other
    · exact ⟨seconds, (Value.at?_here here).symm⟩

theorem params_read (sectioned : Sectioned (Held rows)) (documented : AllDocumented (Held rows))
    (config : Config) :
    ∃ result, given (readParams config) (rows.lookup "params") config = some result := by
  refine given_iff.mpr fun value there => ?_
  obtain ⟨inner, rfl⟩ := section_table sectioned (by simp) there
  refine readParams_iff.mpr ⟨fun key value held => ?_, fun value held => ?_⟩
  · obtain ⟨place, -, said⟩ := documented_inside documented there held
    simp [(documented_params said).1]
  · obtain ⟨place, here, said⟩ := documented_inside documented there held
    obtain ⟨-, dir, rfl⟩ := documented_params said
    exact ⟨dir, (Value.at?_here here).symm⟩

-- A document in which all is documented is one that is read.
theorem documented_reads (sectioned : Sectioned (Held rows)) (documented : AllDocumented (Held rows)) :
    ∃ config, ofRows rows = some config := by
  have known : onlyKeys ["github", "params"] rows = true := by
    refine onlyKeys_iff.mpr fun name value there => ?_
    obtain ⟨place, here⟩ := Value.at?_root value
    exact documented_name (documented [name] place ((at?_single there []).trans here))
  obtain ⟨middle, front⟩ := github_read sectioned documented {}
  obtain ⟨config, behind⟩ := params_read sectioned documented middle
  refine ⟨config, ?_⟩
  rw [ofRows, if_pos known]
  exact Option.bind_eq_some_iff.mpr ⟨middle, front, behind⟩

theorem leaf_path {path : List String} {place : Place} (leaf : ∀ rows, value ≠ .table rows)
    (there : value.at? path = some place) : path = [] ∧ place = .value value := by
  cases path with
  | nil =>
      cases value with
      | table rows => exact absurd rfl (leaf rows)
      | _ =>
          cases there
          exact ⟨rfl, rfl⟩
  | cons name path =>
      cases value with
      | table rows => exact absurd rfl (leaf rows)
      | _ => cases there

theorem github_documented {key : String} {path : List String} {place : Place}
    (reads : ∃ result, readGithub config (.table inner) = some result)
    (held : inner.lookup key = some value) (last : value.at? path = some place)
    (bounded : ∀ leaf, place = .value leaf → leaf.Bounded) : Documented ("github" :: key :: path) place := by
  obtain ⟨keys, hosts, timeouts⟩ := readGithub_iff.mp reads
  rcases List.mem_pair.mp (keys key value held) with rfl | rfl
  · obtain ⟨host, rfl⟩ := hosts value held
    obtain ⟨rfl, rfl⟩ := leaf_path (by simp) last
    exact .host host
  · obtain ⟨seconds, rfl⟩ := timeouts value held
    obtain ⟨rfl, rfl⟩ := leaf_path (by simp) last
    cases bounded _ rfl with
    | integer low high =>
        have fits : (seconds : Int) ≤ 9223372036854775807 := high
        exact .timeout (by omega)

theorem params_documented {key : String} {path : List String} {place : Place}
    (reads : ∃ result, readParams config (.table inner) = some result)
    (held : inner.lookup key = some value) (last : value.at? path = some place) :
    Documented ("params" :: key :: path) place := by
  obtain ⟨keys, dirs⟩ := readParams_iff.mp reads
  obtain rfl := List.mem_singleton.mp (keys key value held)
  obtain ⟨dir, rfl⟩ := dirs value held
  obtain ⟨rfl, rfl⟩ := leaf_path (by simp) last
  exact .dir dir

theorem reads_documented (sectioned : Sectioned (Held rows)) (bounded : (Value.table rows).Bounded)
    (reads : ofRows rows = some config) : AllDocumented (Held rows) := by
  rw [ofRows, Option.ite_none_right_eq_some] at reads
  obtain ⟨known, reads⟩ := reads
  obtain ⟨middle, front, behind⟩ := Option.bind_eq_some_iff.mp reads
  have github := given_iff.mp ⟨middle, front⟩
  have params := given_iff.mp ⟨config, behind⟩
  intro path place there
  cases path with
  | nil =>
      cases there
      exact .root
  | cons name path =>
      obtain ⟨value, found, later⟩ := Option.bind_eq_some_iff.mp there
      have among := onlyKeys_iff.mp known name value found
      obtain ⟨inner, rfl⟩ := section_table sectioned among found
      cases path with
      | nil =>
          cases later
          rcases List.mem_pair.mp among with rfl | rfl
          · exact .github
          · exact .params
      | cons key path =>
          obtain ⟨given, held, last⟩ := Option.bind_eq_some_iff.mp later
          rcases List.mem_pair.mp among with rfl | rfl
          · apply github_documented (github _ found) held last
            rintro leaf rfl
            exact Value.at?_bounded bounded there
          · exact params_documented (params _ found) held last

end LinkedKeys.Config

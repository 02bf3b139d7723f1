import LinkedKeys.Settings.Config

namespace LinkedKeys.Config

open Toml (Value Rows)

-- A member of a section, which goes by its key or, in a list, by its place.
def member? (key : String) (place : Nat) : Value → Option Value
  | .table rows => rows.lookup key
  | .list items => items[place]?
  | _ => none

def hostIn (rows : Rows) : Option String :=
  ((rows.lookup "github").bind (member? "host" 0)).bind textOf

def timeoutIn (rows : Rows) : Option Nat :=
  ((rows.lookup "github").bind (member? "timeout_secs" 1)).bind secondsOf

def dirIn (rows : Rows) : Option String :=
  ((rows.lookup "params").bind (member? "dir" 0)).bind textOf

theorem section_pair {key next : String} {value : Value} {entries : List (Option Value)}
    (reads : section? [key, next] value = some entries) :
    entries = [member? key 0 value, member? next 1 value] := by
  cases value with
  | table rows =>
      simp only [section?, Option.ite_none_right_eq_some] at reads
      exact (Option.some.inj reads.2).symm
  | list items =>
      have taken := (Option.some.inj reads).symm
      rcases items with _ | ⟨first, _ | ⟨second, rest⟩⟩ <;> exact taken
  | _ => cases reads

theorem section_single {key : String} {value : Value} {entries : List (Option Value)}
    (reads : section? [key] value = some entries) : entries = [member? key 0 value] := by
  cases value with
  | table rows =>
      simp only [section?, Option.ite_none_right_eq_some] at reads
      exact (Option.some.inj reads.2).symm
  | list items =>
      have taken := (Option.some.inj reads).symm
      rcases items with _ | ⟨first, rest⟩ <;> exact taken
  | _ => cases reads

theorem given_some {α : Type} {read : Value → Option α} {value : Option Value} {default got : α}
    (takes : given read value default = some got) : got = (value.bind read).getD default := by
  cases value with
  | none => exact (Option.some.inj takes).symm
  | some value =>
      have reads : read value = some got := takes
      rw [Option.bind_some, reads, Option.getD_some]

theorem readGithub_some {config result : Config} {value : Value}
    (reads : readGithub config value = some result) : result = { config with
      host := ((member? "host" 0 value).bind textOf).getD config.host
      timeout := ((member? "timeout_secs" 1 value).bind secondsOf).getD config.timeout } := by
  obtain ⟨entries, found, rest⟩ := Option.bind_eq_some_iff.mp reads
  rw [section_pair found] at rest
  obtain ⟨host, takesHost, rest⟩ := Option.bind_eq_some_iff.mp rest
  obtain ⟨timeout, takesTimeout, made⟩ := Option.bind_eq_some_iff.mp rest
  rw [← given_some takesHost, ← given_some takesTimeout]
  exact (Option.some.inj made).symm

theorem readParams_some {config result : Config} {value : Value} (blank : config.paramsDir = none)
    (reads : readParams config value = some result) :
    result = { config with paramsDir := (member? "dir" 0 value).bind textOf } := by
  obtain ⟨entries, found, rest⟩ := Option.bind_eq_some_iff.mp reads
  rw [section_single found] at rest
  obtain ⟨dir, takes, made⟩ := Option.bind_eq_some_iff.mp rest
  have same : dir = (member? "dir" 0 value).bind textOf := by
    rw [given_some takes, blank]
    cases member? "dir" 0 value with
    | none => rfl
    | some v => cases read : textOf v <;> simp [read]
  rw [← same]
  exact (Option.some.inj made).symm

-- What a document leaves open is filled in.
def ofSources (rows : Rows) : Config where
  host := (hostIn rows).getD "https://github.com"
  timeout := (timeoutIn rows).getD 20
  paramsDir := dirIn rows

theorem ofRows_sources {rows : Rows} {config : Config} (reads : ofRows rows = some config) :
    config = ofSources rows := by
  rw [ofRows, Option.ite_none_right_eq_some] at reads
  obtain ⟨middle, github, params⟩ := Option.bind_eq_some_iff.mp reads.2
  have front : middle = { host := (hostIn rows).getD "https://github.com"
                          timeout := (timeoutIn rows).getD 20 } := by
    rw [hostIn, timeoutIn]
    cases found : rows.lookup "github" with
    | none =>
        rw [found] at github
        exact (Option.some.inj github).symm
    | some value =>
        rw [found] at github
        exact readGithub_some github
  rw [ofSources, dirIn]
  cases found : rows.lookup "params" with
  | none =>
      rw [found] at params
      exact (Option.some.inj params).symm.trans front
  | some value =>
      rw [found] at params
      rw [readParams_some (front ▸ rfl) params, front]
      rfl

end LinkedKeys.Config

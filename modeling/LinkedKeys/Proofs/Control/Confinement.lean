import LinkedKeys.Proofs.Control.Hearing
import LinkedKeys.Proofs.Web.KeysUrl

namespace LinkedKeys

namespace Web

open Control (IsName IsNameChar)

variable {scheme authority name : String} {slashes : Nat} {url : Url}

-- The address that an authority has for a name.
def address (scheme : String) (authority : Authority) (name : String) : Url :=
  ⟨scheme, some authority, .segments [name ++ ".keys"], none, none⟩

theorem address_target (scheme : String) (authority : Authority) (name : String) :
    (Request.toGet (address scheme authority name).withoutUser).target = "/" ++ name ++ ".keys" := by
  simp [Request.toGet, Url.target, Url.withoutUser, Url.pathText, address, String.append_assoc]

theorem keysUrl_text (is : IsAuthority authority) (slashes : Nat) :
    keysUrl (hostOf scheme authority slashes) name =
      scheme ++ "://" ++ authority ++ "/" ++ name ++ ".keys" := by
  refine String.toList_injective ?_
  rw [keysUrl_toList is]
  simp [leaf]

theorem destination_keysUrl (known : scheme = "http" ∨ scheme = "https") (is : IsAuthority authority)
    (named : IsName name) :
    destination (keysUrl (hostOf scheme authority slashes) name) = .ok url ↔
      ∃ read, authority? scheme authority = some read ∧
        url = (address scheme read name).withoutUser ∧ isRequestable url = true := by
  unfold destination
  rw [ofText_keysUrl known is named]
  cases authority? scheme authority with
  | none => simp
  | some read =>
      simp only [Option.map_some, Option.some.injEq, exists_eq_left']
      split
      · rename_i sayable
        constructor
        · rintro ⟨⟩
          exact ⟨rfl, sayable⟩
        · rintro ⟨rfl, _⟩
          rfl
      · rename_i unsayable
        constructor
        · rintro ⟨⟩
        · rintro ⟨rfl, sayable⟩
          exact absurd sayable unsayable

-- Where the keys of a name are asked for: at the authority as it reads on its own, under a path of
-- one segment that is written as it is.
structure Addressed (scheme authority : String) (slashes : Nat) (name : String) : Prop where
  text : keysUrl (hostOf scheme authority slashes) name =
    scheme ++ "://" ++ authority ++ "/" ++ name ++ ".keys"
  url : ∀ url, destination (keysUrl (hostOf scheme authority slashes) name) = .ok url ↔
    ∃ read, authority? scheme authority = some read ∧
      url = (address scheme read name).withoutUser ∧ isRequestable url = true
  target : ∀ url, destination (keysUrl (hostOf scheme authority slashes) name) = .ok url →
    (Request.toGet url).target = "/" ++ name ++ ".keys"
  plain : ∀ c ∈ (name ++ ".keys").toList, IsNameChar c
  step : isDotDot (name ++ ".keys").toList = false ∧ isDot (name ++ ".keys").toList = false
  alike : keysUrl (hostOf scheme authority slashes) name = keysUrl (hostOf scheme authority 0) name
  apart : ∀ more other url there, IsName other → other ≠ name →
    destination (keysUrl (hostOf scheme authority slashes) name) = .ok url →
      destination (keysUrl (hostOf scheme authority more) other) = .ok there → url ≠ there

theorem destination_target (known : scheme = "http" ∨ scheme = "https") (is : IsAuthority authority)
    (named : IsName name)
    (said : destination (keysUrl (hostOf scheme authority slashes) name) = .ok url) :
    (Request.toGet url).target = "/" ++ name ++ ".keys" := by
  obtain ⟨read, _, same, _⟩ := (destination_keysUrl known is named).mp said
  rw [same]
  exact address_target scheme read name

theorem keysUrl_addressed (known : scheme = "http" ∨ scheme = "https") (is : IsAuthority authority)
    (named : IsName name) (slashes : Nat) : Addressed scheme authority slashes name where
  text := keysUrl_text is slashes
  url _ := destination_keysUrl known is named
  target _ := destination_target known is named
  plain := by
    rw [String.toList_append]
    exact leaf_chars named
  step := by
    rw [String.toList_append]
    exact leaf_step name
  alike := by
    rw [keysUrl_text is, keysUrl_text is]
  apart := by
    intro more other url there is_other differ said saidThere same
    have target := destination_target known is named said
    rw [same, destination_target known is is_other saidThere, String.append_left_inj,
      String.append_right_inj] at target
    exact differ target

end Web

namespace Control

open Script
open Web (Addressed IsAuthority Request destination hostOf keysUrl)

variable {σ : Type} {serves : (c : Store.Call) → σ → c.Answer → σ → Prop} {s : σ} {state : State}
  {taken : List (State × Event)}

theorem submitted_text_confined (heard : Heard serves taken state s) :
    NamesTaken serves taken state s ∧
      ∀ scheme authority slashes name, scheme = "http" ∨ scheme = "https" → IsAuthority authority →
        IsName name → Addressed scheme authority slashes name :=
  ⟨heard_names heard, fun _ _ slashes _ known is named => Web.keysUrl_addressed known is named slashes⟩

-- alice is typed with blanks around her, and the host ends in two slashes.
theorem typed_alice_confined :
    Heard (Store.Served fun _ => True) [(.unlinked, .submitted " alice\n")] (.loading "alice")
      ({} : Store.Params) ∧ cleaned " alice\n" = "alice" ∧ IsName "alice" ∧
    ∃ url, destination (keysUrl (hostOf "http" "[::1]" 2) "alice") = .ok url ∧
      (Request.toGet url).target = "/" ++ "alice" ++ ".keys" := by
  have read : Leads (Store.Served fun _ => True) current.run ({} : Store.Params) _
      (.done (.ok .unlinked)) {} := Store.course_carried (Store.course_carried .here)
  have asked : Leads (Store.Served fun _ => True) (handle .unlinked (.submitted " alice\n")) {} []
      (.done ⟨.loading "alice", .ok [.render, .fetch "alice"]⟩) {} := .here
  have heard : Heard (Store.Served fun _ => True) [(.unlinked, .submitted " alice\n")] (.loading "alice")
      ({} : Store.Params) := .took (.built read) asked
  obtain ⟨text, among, is, named⟩ := (submitted_text_confined heard).1.awaited "alice" rfl
  obtain rfl : text = " alice\n" := by simpa using among
  have authority : IsAuthority "[::1]" := by constructor <;> decide
  have addressed := (submitted_text_confined heard).2 "http" "[::1]" 2 "alice" (.inl rfl) authority named
  have said : destination (keysUrl (hostOf "http" "[::1]" 2) "alice") =
      .ok ⟨"http", some { host := "[::1]" }, .segments ["alice.keys"], none, none⟩ := by decide +kernel
  exact ⟨heard, is.symm, named, _, said, addressed.target _ said⟩

-- A backslash in an authority ends it, and what is behind it comes in front of the name.
theorem backslash_adds_segment : ¬∀ scheme authority slashes name,
    scheme = "http" ∨ scheme = "https" → authority ≠ "" → '/' ∉ authority.toList →
      '?' ∉ authority.toList → '#' ∉ authority.toList → IsName name →
        ∀ url, destination (keysUrl (hostOf scheme authority slashes) name) = .ok url →
          url.path = .segments [name ++ ".keys"] := by
  intro confined
  have named : IsName "alice" := (valid_iff "alice").mp (by decide)
  have said : destination (keysUrl (hostOf "http" "127.0.0.1\x5cx" 0) "alice") =
      .ok ⟨"http", some { host := "127.0.0.1" }, .segments ["x", "alice.keys"], none, none⟩ := by
    decide +kernel
  have path := confined "http" "127.0.0.1\x5cx" 0 "alice" (.inl rfl) (by decide) (by decide) (by decide)
    (by decide) named _ said
  exact absurd path (by decide)

end Control

end LinkedKeys

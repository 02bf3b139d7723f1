import LinkedKeys.Proofs.Control.Courses

namespace LinkedKeys.Control

open Store Script Account

theorem held_congr {p q : Params} (names : q.read usernameKey = p.read usernameKey)
    (keys : q.read keysKey = p.read keysKey) : held q = held p := by
  rw [held, held, names, keys]

-- An account that is neither the one from before nor the one that was fetched.
def Mixed (p q : Params) (username : String) (outcome : Outcome) : Prop :=
  ∃ account, held q = some account ∧ held p ≠ some account ∧
    ¬(account.username = username ∧ outcome = .fetched account.keys)

-- The course may end anywhere, so this is about a stop between two calls as much as about
-- refused calls, the one that takes the username back among them.
theorem mixed_account_iff {refusable : Store.Call → Prop} {p q : Params} {username : String}
    {outcome : Outcome} {past : Past} {rest : Store.Script Turn}
    (course : Leads (Served refusable) (handle (.loading username) (.finished username outcome))
      p past rest q) :
    Mixed p q username outcome ↔ writes past = [.put usernameKey username] ∧ username ≠ "" ∧
      p.read usernameKey ≠ username ∧ p.read keysKey ≠ "" ∧ outcome ≠ .fetched (p.read keysKey) := by
  have reads := concluding_reads ((handle_finished_writes username outcome).point course)
  rw [← leads_after course] at reads
  rcases reads with ⟨names, keys, other⟩ | ⟨once, names, keys⟩ | ⟨body, rfl, _, both, names, keys⟩
  · constructor
    · intro mixed
      obtain ⟨account, now, before, _⟩ := mixed
      exact absurd (held_congr names keys ▸ now) before
    · intro condition
      exact absurd condition.1 other
  · constructor
    · intro mixed
      obtain ⟨account, now, before, unfetched⟩ := mixed
      obtain ⟨rfl, named, keyed⟩ := held_eq_some.mp now
      rw [names, keys] at before unfetched
      rw [names] at named
      rw [keys] at keyed
      refine ⟨once, named, ?_, keyed, fun fetched => unfetched ⟨rfl, fetched⟩⟩
      intro same
      exact before (held_eq_some.mpr ⟨by rw [same], named, keyed⟩)
    · intro condition
      obtain ⟨_, named, differ, keyed, unfetched⟩ := condition
      refine ⟨⟨username, p.read keysKey⟩, ?_, ?_, fun fetched => unfetched fetched.2⟩
      · exact held_eq_some.mpr ⟨by rw [names, keys], named, keyed⟩
      · intro before
        obtain ⟨same, _⟩ := held_eq_some.mp before
        cases same
        exact differ rfl
  · constructor
    · intro mixed
      obtain ⟨account, now, _, unfetched⟩ := mixed
      obtain ⟨rfl, _⟩ := held_eq_some.mp now
      exact absurd ⟨names, by rw [keys]⟩ unfetched
    · intro condition
      simp [both, linking] at condition

-- Keys without a username, a refused write of the fetched keys, and a refused removal of the
-- username: alice is left with keys that were never hers.
theorem leftover_keys_mixed :
    ∃ past q, Leads (Served (·.writes = true))
        (handle (.loading "alice") (.finished "alice" (.fetched "ssh-rsa NEW")))
        (.ofList [(keysKey, "ssh-rsa OLD")]) past (.done ⟨.linked "alice", .error .notLinked⟩) q ∧
      Mixed (.ofList [(keysKey, "ssh-rsa OLD")]) q "alice" (.fetched "ssh-rsa NEW") := by
  have course : Leads (Served (·.writes = true))
      (handle (.loading "alice") (.finished "alice" (.fetched "ssh-rsa NEW")))
      (.ofList [(keysKey, "ssh-rsa OLD")]) _ (.done ⟨.linked "alice", .error .notLinked⟩) _ :=
    course_carried (course_carried (course_refused .notLinked (course_refused .notLinked
      (course_carried (course_carried .here)) rfl) rfl))
  exact ⟨_, _, course, (mixed_account_iff course).mpr (by decide)⟩

end LinkedKeys.Control

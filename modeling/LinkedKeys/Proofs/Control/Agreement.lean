import LinkedKeys.Proofs.Control.Courses

namespace LinkedKeys.Control

open Store Script Account

-- A service that is built over a store and then given events, one after another.
inductive Driven (refusable : Store.Call → Prop) (start : Params) : Past → State → Params → Prop where
  | built {past state p}
      (course : Leads (Served refusable) current.run start past (.done (.ok state)) p) :
      Driven refusable start past state p
  | took {past state p event more turn q} (before : Driven refusable start past state p)
      (course : Leads (Served refusable) (handle state event) p more (.done turn) q) :
      Driven refusable start (past ++ more) turn.state q

def lastWrite (past : Past) : Option Store.Call := (writes past).getLast?

-- The state agrees with the store, or a fetch is awaited, or an unlinking stopped half-way. Which
-- of them it is can be told from the last write.
inductive Standing (last : Option Store.Call) (p : Params) : State → Prop where
  | agrees (settled : last ≠ some (.remove keysKey)) : Standing last p (State.ofAccount (held p))
  | awaits (settled : last ≠ some (.remove keysKey)) (username : String) :
      Standing last p (.loading username)
  | halfway (cut : last = some (.remove keysKey)) (gone : p.read keysKey = "") :
      Standing last p (.linked (p.read usernameKey))

variable {past more : Past} {last : Option Store.Call} {p q start : Params} {state : State}
  {username : String} {turn : Turn}

theorem lastWrite_append (past more : Past) :
    lastWrite (past ++ more) = (lastWrite more).or (lastWrite past) := by
  simp [lastWrite, List.getLast?_append]

theorem standing_linked (standing : Standing last p (.linked username)) :
    p.read usernameKey = username := by
  generalize same : State.linked username = state at standing
  cases standing with
  | agrees settled =>
      cases now : held p with
      | none => simp [now, State.ofAccount] at same
      | some account =>
          obtain ⟨rfl, _⟩ := held_eq_some.mp now
          simpa [now, State.ofAccount] using same.symm
  | awaits settled other => cases same
  | halfway cut gone => cases same; rfl

theorem standing_settled (standing : Standing last p state)
    (unlinked : ∀ username, state ≠ .linked username) : last ≠ some (.remove keysKey) := by
  cases standing with
  | agrees settled => exact settled
  | awaits settled => exact settled
  | halfway cut gone => exact absurd rfl (unlinked _)

-- No read is refused, so the state read back is that of the account held.
theorem readBack_held {result : Except Failure State}
    (ended : ReadBack (·.writes = true) p past result) : result = .ok (State.ofAccount (held p)) := by
  cases ended with
  | answered front => rfl
  | refused front may failure => cases may

theorem concluding_last {previous : String} {outcome : Outcome}
    (kept : Concluding previous username outcome (writes past)) :
    lastWrite past ≠ some (.remove keysKey) := by
  unfold lastWrite
  rcases kept with none | ⟨keys, _, _, written | undone⟩
  · simp [none]
  · rcases prefix_pair.mp written with none | once | twice
    · simp [none]
    · simp [once]
    · simp [twice]
  · rw [undone]
    unfold undo
    split <;> simp

theorem built_standing
    (course : Leads (Served (·.writes = true)) current.run p past (.done (.ok state)) q) :
    Standing (lastWrite past) q state := by
  have quiet := current_writes.ending course
  have ended := readBack_held (current_ends.ending course)
  cases ended
  exact .agrees (by simp [lastWrite, quiet])

theorem finished_standing {outcome : Outcome} (settled : lastWrite past ≠ some (.remove keysKey))
    (course : Leads (Served (·.writes = true)) (handle (.loading username) (.finished username outcome))
      p more (.done turn) q) : Standing (lastWrite (past ++ more)) q turn.state := by
  obtain ⟨read, ended, moved⟩ := (handle_finished_ends username outcome).ending course
  have kept := concluding_last ((handle_finished_writes username outcome).ending course)
  cases readBack_held ended
  simp only at moved
  rw [moved]
  refine .agrees ?_
  rw [lastWrite_append]
  cases written : lastWrite more with
  | none => simpa using settled
  | some call => simpa [written] using kept

theorem clicked_standing (standing : Standing (lastWrite past) p (.linked username))
    (course : Leads (Served (·.writes = true)) (handle (.linked username) .clicked) p more
      (.done turn) q) : Standing (lastWrite (past ++ more)) q turn.state := by
  have after := leads_after course
  have written := (handle_clicked_writes username).ending course
  rcases (handle_clicked_ends username).ending course with ⟨moved, both⟩ | ⟨stayed, unread⟩
  · rw [moved]
    exact .agrees (by simp [lastWrite, both, unlinking])
  · rw [stayed, lastWrite_append]
    rcases unlinking_reads (p := p) written with none | ⟨gone, ⟨once, kept⟩ | ⟨both, _⟩⟩
    · rw [none] at after
      simpa [lastWrite, none, after] using standing
    · rw [← after] at gone kept
      rw [← standing_linked standing, ← kept]
      exact .halfway (by simp [lastWrite, once]) gone
    · obtain ⟨key, may⟩ := unread both
      cases may

theorem driven_standing (driven : Driven (·.writes = true) start past state p) :
    Standing (lastWrite past) p state := by
  induction driven with
  | built course => exact built_standing course
  | @took past state p event more turn q before course ih =>
      rcases handle_cases state event with
        ⟨username, outcome, rfl, rfl⟩ | ⟨username, rfl, rfl⟩ | ⟨only, idle, moved⟩
      · exact finished_standing (standing_settled ih (by simp)) course
      · exact clicked_standing ih course
      · rw [idle] at course
        obtain ⟨rfl, same, rfl⟩ := leads_done course
        cases same
        rw [List.append_nil]
        rcases moved with stayed | ⟨rfl, name, _, moved⟩
        · rw [stayed]; exact ih
        · rw [moved]; exact .awaits (standing_settled ih (by simp)) name

-- The state is out of step exactly as long as the removal of the keys is the last write.
theorem out_of_step_iff (driven : Driven (·.writes = true) start past state p) :
    ((∀ username, state ≠ .loading username) ∧ state ≠ State.ofAccount (held p) ↔
      (writes past).getLast? = some (.remove keysKey)) ∧
    ((writes past).getLast? = some (.remove keysKey) →
      state = .linked (p.read usernameKey) ∧ p.read keysKey = "") := by
  have standing := driven_standing driven
  unfold lastWrite at standing
  cases standing with
  | agrees settled => exact ⟨by simp [settled], fun cut => absurd cut settled⟩
  | awaits settled username => exact ⟨by simp [settled], fun cut => absurd cut settled⟩
  | halfway cut gone =>
      have none : held p = none := by simp [held, ofParts, gone]
      exact ⟨by simp [cut, none, State.ofAccount], fun _ => ⟨rfl, gone⟩⟩

-- One click on a linked account whose username cannot be removed.
theorem half_unlinking_out_of_step :
    ∃ past p, Driven (·.writes = true) (.ofList [(usernameKey, "alice"), (keysKey, "ssh-rsa AAA")]) past
        (.linked "alice") p ∧
      (writes past).getLast? = some (.remove keysKey) ∧ .linked "alice" ≠ State.ofAccount (held p) := by
  have built : Leads (Served (·.writes = true)) current.run
      (.ofList [(usernameKey, "alice"), (keysKey, "ssh-rsa AAA")]) _ (.done (.ok (.linked "alice"))) _ :=
    course_carried (course_carried .here)
  have clicked : Leads (Served (·.writes = true)) (handle (.linked "alice") .clicked)
      (.ofList [(usernameKey, "alice"), (keysKey, "ssh-rsa AAA")]) _
      (.done ⟨.linked "alice", .error .notLinked⟩) _ :=
    course_carried (course_refused .notLinked .here rfl)
  have driven := Driven.took (.built built) clicked
  exact ⟨_, _, driven, rfl, ((out_of_step_iff driven).1.mpr rfl).2⟩

end LinkedKeys.Control

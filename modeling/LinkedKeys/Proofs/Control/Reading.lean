import LinkedKeys.Proofs.Beside
import LinkedKeys.Proofs.Control.Agreement
import LinkedKeys.Proofs.Control.Lifetimes

namespace LinkedKeys.Control

open Store Script Account

variable {refusable : Store.Call → Prop} {p q start : Params} {calls early late : List Store.Call}
  {username : String} {outcome : Outcome}

-- The account that is read when the keys are read after some of the writes, and the username after
-- as many or more of them.
def glimpsed (p : Params) (early late : List Store.Call) : Option Account :=
  ofParts ((p.after early).read keysKey) ((p.after late).read usernameKey)

theorem glimpsed_keyless (gone : (p.after early).read keysKey = "") : glimpsed p early late = none := by
  simp [glimpsed, ofParts, gone]

theorem held_keyless (gone : p.read keysKey = "") : held p = none := by
  simp [held, ofParts, gone]

-- Each of the two reads of another process falls on a point of the course of a script.
theorem beside_stored {α : Type} {script : Store.Script α} {a : α}
    {result : Except Failure (Option Account)} {past}
    (course : Beside (Served refusable) (Served fun _ => False) script Account.stored.run p past
      (.done a) (.done result) q) :
    ∃ now early late, Leads (Served refusable) script p now (.done a) q ∧ early <+: late ∧
      late <+: writes now ∧ result = .ok (glimpsed p early late) := by
  obtain ⟨front, mid, m, answer, n, back, before, met, course⟩ := beside_ask course
  obtain ⟨rfl, rfl⟩ := served_granted met id
  obtain ⟨more, mid', m', answer', n', back', between, met', course⟩ := beside_ask course
  obtain ⟨rfl, rfl⟩ := served_granted met' id
  obtain ⟨same, after⟩ := beside_done course
  cases same
  have keys := leads_after before
  have names := leads_after (leads_append before between)
  refine ⟨front ++ (more ++ lefts back'), writes front, writes (front ++ more), ?_, ?_, ?_, ?_⟩
  · exact leads_append before (leads_append between after)
  · simp
  · simp
  · rw [glimpsed, ← keys, ← names]

theorem concluding_prefix {previous : String} (kept : Concluding previous username outcome calls)
    (less : early <+: calls) : Concluding previous username outcome early := by
  rcases kept with rfl | ⟨keys, fetched, present, whole | rfl⟩
  · exact .inl (List.prefix_nil.mp less)
  · exact .inr ⟨keys, fetched, present, .inl (less.trans whole)⟩
  · rcases prefix_pair.mp less with rfl | rfl | rfl
    · exact .inl rfl
    · exact .inr ⟨keys, fetched, present, .inl (by simp [linking])⟩
    · exact .inr ⟨keys, fetched, present, .inr rfl⟩

theorem concluding_length {previous : String} (kept : Concluding previous username outcome calls) :
    calls.length ≤ 2 := by
  rcases kept with rfl | ⟨keys, _, _, whole | rfl⟩
  · simp
  · exact whole.length_le
  · simp

-- Keys are new only after both writes, and then nothing is written any more. Until then they are
-- those from before, which are none or stand under the username that is being written.
theorem concluding_glimpsed (own : p.read keysKey = "" ∨ p.read usernameKey = username)
    (kept : Concluding (p.read usernameKey) username outcome calls) (first : early <+: late)
    (second : late <+: calls) :
    glimpsed p early late = held p ∨ glimpsed p early late = held (p.after calls) := by
  have keptLate := concluding_prefix kept second
  have keptEarly := concluding_prefix keptLate first
  have either : (p.after early).read keysKey = p.read keysKey ∨ ∃ keys, early = linking username keys := by
    rcases concluding_reads keptEarly with ⟨_, same, _⟩ | ⟨_, _, same⟩ | ⟨keys, _, _, full, _⟩
    · exact .inl same
    · exact .inl same
    · exact .inr ⟨keys, full⟩
  rcases either with same | ⟨keys, rfl⟩
  · left
    rcases own with empty | named
    · rw [glimpsed_keyless (same.trans empty), held_keyless empty]
    · have name : (p.after late).read usernameKey = p.read usernameKey := by
        rcases concluding_reads keptLate with ⟨kept, _⟩ | ⟨_, new, _⟩ | ⟨_, _, _, _, new, _⟩
        · exact kept
        · exact new.trans named.symm
        · exact new.trans named.symm
      rw [glimpsed, same, name, held]
  · right
    have last := (first.trans second).eq_of_length_le (concluding_length kept)
    have between := first.eq_of_length_le (concluding_length keptLate)
    rw [← between, ← last]
    rfl

-- Once the keys are removed nobody reads an account, and before that the username is still there
-- unless both removals have been made.
theorem unlinking_glimpsed (kept : calls <+: unlinking) (first : early <+: late)
    (second : late <+: calls) :
    glimpsed p early late = held p ∨ glimpsed p early late = held (p.after calls) := by
  rcases unlinking_reads (p := p) kept with rfl | ⟨gone, _⟩
  · obtain rfl := List.prefix_nil.mp second
    obtain rfl := List.prefix_nil.mp first
    exact .inl rfl
  rw [held_keyless gone]
  rcases unlinking_reads (p := p) (second.trans kept) with rfl | ⟨_, ⟨_, same⟩ | ⟨_, bare⟩⟩
  · obtain rfl := List.prefix_nil.mp first
    exact .inl rfl
  · rcases unlinking_reads (p := p) (first.trans (second.trans kept)) with rfl | ⟨gone, _⟩
    · left
      rw [glimpsed, same]
      rfl
    · exact .inr (glimpsed_keyless gone)
  · right
    simp [glimpsed, ofParts, bare]

-- However its store calls fail, a service keeps its store in the form that the glimpses rely on.
theorem driven_sound {past : Past} {state : State}
    (whole : start.read keysKey = "" ∨ start.read usernameKey ≠ "")
    (driven : Driven (fun _ => True) start past state p) :
    Sound (fun _ => True) p ∧ Fits p (some state) := by
  induction driven with
  | @built past state p course =>
      have quiet := current_writes.ending course
      have same : p = start := by rw [leads_after course, quiet]; rfl
      subst same
      have sound : Sound (fun _ => True) p := ⟨fun keyed => whole.resolve_left keyed, fun _ _ => trivial⟩
      cases current_ends.ending course
      exact ⟨sound, fits_held sound⟩
  | @took past state p event more turn q before course ih =>
      have carries : Carries (fun _ => True) (taking state event) [] p :=
        taking_carries ih.1 ih.2 fun _ _ _ _ => trivial
      exact (throughout_do.mp carries).ending course

-- Any of the service's own calls may be refused, now and at all earlier events; the reads of the
-- other process are answered.
theorem account_read_whole {before : Past} {state : State} {event : Event} {turn : Turn}
    {result : Except Failure (Option Account)} {past}
    (whole : start.read keysKey = "" ∨ start.read usernameKey ≠ "")
    (driven : Driven (fun _ => True) start before state p)
    (course : Beside (Served fun _ => True) (Served fun _ => False) (handle state event)
      Account.stored.run p past (.done turn) (.done result) q) :
    result = .ok (held p) ∨ result = .ok (held q) := by
  obtain ⟨now, early, late, own, first, second, rfl⟩ := beside_stored course
  have after := leads_after own
  have fits := (driven_sound whole driven).2
  rcases handle_cases state event with
    ⟨username, outcome, rfl, rfl⟩ | ⟨username, rfl, rfl⟩ | ⟨only, idle, _⟩
  · have kept := (handle_finished_writes username outcome).ending own
    cases fits with
    | loading named apart =>
        rw [after]
        exact (concluding_glimpsed apart kept first second).imp (congrArg _) (congrArg _)
  · have kept := (handle_clicked_writes username).ending own
    rw [after]
    exact (unlinking_glimpsed kept first second).imp (congrArg _) (congrArg _)
  · rw [idle] at own
    obtain ⟨rfl, _, _⟩ := leads_done own
    obtain rfl : late = [] := List.prefix_nil.mp second
    obtain rfl : early = [] := List.prefix_nil.mp first
    exact .inl rfl

-- The keys are removed between the two reads, and the removal of the username is refused.
theorem unlinking_between_reads :
    ∃ linked before past result q, linked = .ofList [(usernameKey, "alice"), (keysKey, "ssh-rsa AAA")] ∧
      Driven (fun _ => True) linked before (.linked "alice") linked ∧
      Beside (Served fun _ => True) (Served fun _ => False) (handle (.linked "alice") .clicked)
        Account.stored.run linked past (.done ⟨.linked "alice", .error .notLinked⟩) (.done result) q ∧
      result = .ok (some ⟨"alice", "ssh-rsa AAA"⟩) ∧ held q = none ∧
      (result = .ok (held linked) ∨ result = .ok (held q)) := by
  have built : Driven (fun _ => True) (.ofList [(usernameKey, "alice"), (keysKey, "ssh-rsa AAA")]) _
      (.linked "alice") _ := .built (course_carried (course_carried .here))
  have course : Beside (Served fun _ => True) (Served fun _ => False) (handle (.linked "alice") .clicked)
      Account.stored.run (.ofList [(usernameKey, "alice"), (keysKey, "ssh-rsa AAA")]) _
      (.done ⟨.linked "alice", .error .notLinked⟩) (.done (.ok (some ⟨"alice", "ssh-rsa AAA"⟩))) _ :=
    .right .carried (.left .carried (.right .carried (.left (.refused trivial .notLinked) .here)))
  exact ⟨_, _, _, _, _, rfl, built, course, rfl, by decide,
    account_read_whole (.inr (by decide)) built course⟩

end LinkedKeys.Control

import LinkedKeys.Proofs.Beside
import LinkedKeys.Proofs.Control.Agreement

namespace LinkedKeys.Store

open Script

variable {p q : Params} {key u v : String} {calls : List Call}

abbrev Race := List (Exchange Call Call.Answer ⊕ Exchange Call Call.Answer)

theorem beside_after {α β : Type} {refusable refusable' : Call → Prop} {one one' : Script α}
    {other other' : Script β} {race : Race}
    (course : Beside (Served refusable) (Served refusable') one other p race one' other' q) :
    q = p.after (writes (both race)) := by
  induction course with
  | here => rfl
  | left served later ih =>
      rw [ih, served_after served, ← Params.after_append, ← writes_append]
      rfl
  | right served later ih =>
      rw [ih, served_after served, ← Params.after_append, ← writes_append]
      rfl

-- The write to a key that an exchange carried out.
def writtenTo (key : String) (made : Exchange Call Call.Answer) : Option Call :=
  (written made).filter (·.key = key)

theorem filterMap_writtenTo (key : String) (past : Past) :
    past.filterMap (writtenTo key) = (writes past).filter (·.key = key) := by
  rw [writes, List.filter_filterMap]
  rfl

theorem carry_read_other {c : Call} (other : c.key ≠ key) : (c.carry p).read key = p.read key := by
  cases c with
  | get name => rfl
  | put name value =>
      have differ : key ≠ name := Ne.symm other
      simp [Call.carry, differ]
  | remove name =>
      have differ : key ≠ name := Ne.symm other
      simp [Call.carry, differ]

theorem carry_read_congr {c : Call} (same : q.read key = p.read key) :
    (c.carry q).read key = (c.carry p).read key := by
  cases c with
  | get name => exact same
  | put name value => simp [Call.carry, same]
  | remove name => simp [Call.carry, same]

-- A parameter is what the writes to its own key made of it.
theorem read_after_filter (same : q.read key = p.read key) :
    (q.after calls).read key = (p.after (calls.filter (·.key = key))).read key := by
  induction calls generalizing p q with
  | nil => exact same
  | cons c rest ih =>
      by_cases own : c.key = key
      · simp only [own, decide_true, List.filter_cons_of_pos, Params.after_cons]
        exact ih (carry_read_congr same)
      · simp only [own, decide_false, Bool.false_eq_true, not_false_eq_true, List.filter_cons_of_neg,
          Params.after_cons]
        exact ih ((carry_read_other own).trans same)

-- Whether the last write to the key was made on the left.
def lastLeft (key : String) (race : Race) : Bool :=
  (sift (writtenTo key) race).getLast?.any Sum.isLeft

theorem read_put_twice {race : Race}
    (one : (writes (lefts race)).filter (·.key = key) = [.put key u])
    (other : (writes (rights race)).filter (·.key = key) = [.put key v]) :
    (p.after (writes (both race))).read key = if lastLeft key race then u else v := by
  have own : (p.after (writes (both race))).read key =
      (p.after (both (sift (writtenTo key) race))).read key := by
    rw [both_sift, filterMap_writtenTo]
    exact read_after_filter rfl
  rw [← filterMap_writtenTo, ← lefts_sift] at one
  rw [← filterMap_writtenTo, ← rights_sift] at other
  rcases one_each one other with order | order
  · rw [own, lastLeft, order]
    simp [Call.carry]
  · rw [own, lastLeft, order]
    simp [Call.carry]

end LinkedKeys.Store

namespace LinkedKeys.Control

open Store Script Account

variable {refusable : Store.Call → Prop} {p q start start₁ start₂ p₁ p₂ : Params}
  {past past₁ past₂ : Past} {u₁ u₂ b₁ b₂ : String} {race : Race} {turn₁ turn₂ : Turn}

theorem awaited_named {username : String} (driven : Driven refusable start past (.loading username) p) :
    username ≠ "" := by
  generalize same : State.loading username = state at driven
  induction driven with
  | built course =>
      cases current_ends.ending course
      exact absurd same.symm (ofAccount_idle _ _)
  | @took past state p event more turn q before course ih =>
      rcases handle_cases state event with
        ⟨awaited, outcome, rfl, rfl⟩ | ⟨linked, rfl, rfl⟩ | ⟨only, idle, moved⟩
      · obtain ⟨read, ended, moved⟩ := (handle_finished_ends awaited outcome).ending course
        cases ended with
        | answered front => exact absurd (same.trans moved).symm (ofAccount_idle _ _)
        | refused front may failure => rw [moved] at same; exact ih same
      · rcases (handle_clicked_ends linked).ending course with ⟨moved, _⟩ | ⟨stayed, _⟩
        · exact absurd (same.trans moved).symm (ofAccount_idle _ _)
        · rw [stayed] at same; cases same
      · rw [idle] at course
        obtain ⟨_, only, _⟩ := leads_done course
        cases only
        rcases moved with stayed | ⟨_, name, valid, moved⟩
        · exact ih (same.trans stayed)
        · rw [moved] at same; cases same; exact valid_name valid

-- A call of one of several scripts, none of which is ever refused anything.
def Granted (c : Store.Call) (_ : Unit) (answer : c.Answer) (_ : Unit) : Prop :=
  ∃ m n, Served (fun _ => False) c m answer n

theorem granted_get {name : String} {answer : (Store.Call.get name).Answer} {s t : Unit}
    (granted : Granted (.get name) s answer t) : ∃ value, answer = .ok value := by
  obtain ⟨m, n, served⟩ := granted
  exact ⟨m.read name, (served_granted served id).1⟩

theorem granted_put {name value : String} {answer : (Store.Call.put name value).Answer}
    {s t : Unit} (granted : Granted (.put name value) s answer t) : answer = .ok () := by
  obtain ⟨m, n, served⟩ := granted
  exact (served_granted served id).1

-- Whatever the other service does meanwhile, a fetched pair is put as a whole.
theorem granted_writes (username : String) {keys : String} (present : keys ≠ "") :
    (handle (.loading username) (.finished username (.fetched keys))).Throughout Granted
      (fun _ _ => True) (fun _ now _ => writes now = linking username keys) [] () := by
  simp only [handle, finish, if_true]
  refine throughout_do.mpr ?_
  simp only [conclude, present, if_false, persist, throughout_then, throughout_catch, throughout_pure]
  refine ⟨trivial, fun answer _ granted => ?_⟩
  obtain ⟨previous, rfl⟩ := granted_get granted
  refine ⟨trivial, fun answer _ granted => ?_⟩
  obtain rfl := granted_put granted
  refine ⟨trivial, fun answer _ granted => ?_⟩
  obtain rfl := granted_put granted
  refine throughout_do.mpr (current_writes.mono (fun _ _ _ => trivial) ?_)
  intro read now _ same
  cases read with
  | ok next => exact same.trans rfl
  | error failure => exact same.trans rfl

theorem racing_reads (present₁ : b₁ ≠ "") (present₂ : b₂ ≠ "")
    (course : Beside (Served fun _ => False) (Served fun _ => False)
      (handle (.loading u₁) (.finished u₁ (.fetched b₁)))
      (handle (.loading u₂) (.finished u₂ (.fetched b₂))) p race (.done turn₁) (.done turn₂) q) :
    q.read usernameKey = (if lastLeft usernameKey race then u₁ else u₂) ∧
      q.read keysKey = if lastLeft keysKey race then b₁ else b₂ := by
  have one : writes (lefts race) = linking u₁ b₁ :=
    (granted_writes u₁ present₁).ending (beside_left course)
  have other : writes (rights race) = linking u₂ b₂ :=
    (granted_writes u₂ present₂).ending (beside_right course)
  rw [beside_after course]
  constructor
  · exact read_put_twice (by rw [one]; rfl) (by rw [other]; rfl)
  · exact read_put_twice (by rw [one]; rfl) (by rw [other]; rfl)

-- The account that is left has the username of the service that put the username last, and the keys
-- of the one that put the keys last.
theorem racing_account (one : Driven (fun _ => True) start₁ past₁ (.loading u₁) p₁)
    (other : Driven (fun _ => True) start₂ past₂ (.loading u₂) p₂)
    (present₁ : b₁ ≠ "") (present₂ : b₂ ≠ "")
    (course : Beside (Served fun _ => False) (Served fun _ => False)
      (handle (.loading u₁) (.finished u₁ (.fetched b₁)))
      (handle (.loading u₂) (.finished u₂ (.fetched b₂))) p race (.done turn₁) (.done turn₂) q) :
    held q = some ⟨if lastLeft usernameKey race then u₁ else u₂,
      if lastLeft keysKey race then b₁ else b₂⟩ ∧
    (held q = some ⟨u₁, b₁⟩ ∨ held q = some ⟨u₂, b₂⟩ ↔
      lastLeft usernameKey race = lastLeft keysKey race ∨ u₁ = u₂ ∨ b₁ = b₂) := by
  obtain ⟨names, keys⟩ := racing_reads present₁ present₂ course
  have named₁ := awaited_named one
  have named₂ := awaited_named other
  have left : held q = some ⟨if lastLeft usernameKey race then u₁ else u₂,
      if lastLeft keysKey race then b₁ else b₂⟩ := by
    refine held_eq_some.mpr ⟨by rw [names, keys], ?_, ?_⟩
    · dsimp only
      split
      · exact named₁
      · exact named₂
    · dsimp only
      split
      · exact present₁
      · exact present₂
  refine ⟨left, ?_⟩
  rw [left]
  cases lastLeft usernameKey race <;> cases lastLeft keysKey race <;> simp [eq_comm, or_comm]

-- Each service makes its second write after the first write of the other, and the pair is whole.
theorem overlapping_links_whole :
    ∃ past₁ past₂ race q, Driven (fun _ => True) {} past₁ (.loading "alice") {} ∧
      Driven (fun _ => True) {} past₂ (.loading "bob") {} ∧
      Beside (Served fun _ => False) (Served fun _ => False)
        (handle (.loading "alice") (.finished "alice" (.fetched "ssh-rsa ALICE")))
        (handle (.loading "bob") (.finished "bob" (.fetched "ssh-rsa BOB"))) {} race
        (.done ⟨.linked "bob", .ok [.render]⟩) (.done ⟨.linked "bob", .ok [.render]⟩) q ∧
      lastLeft usernameKey race = lastLeft keysKey race ∧
      (held q = some ⟨"alice", "ssh-rsa ALICE"⟩ ∨ held q = some ⟨"bob", "ssh-rsa BOB"⟩) := by
  have built : Driven (fun _ => True) {} _ .unlinked {} := .built (course_carried (course_carried .here))
  have alice : Leads (Served fun _ => True) (handle .unlinked (.submitted "alice")) {} []
      (.done ⟨.loading "alice", .ok [.render, .fetch "alice"]⟩) {} := .here
  have bob : Leads (Served fun _ => True) (handle .unlinked (.submitted "bob")) {} []
      (.done ⟨.loading "bob", .ok [.render, .fetch "bob"]⟩) {} := .here
  have course : Beside (Served fun _ => False) (Served fun _ => False)
      (handle (.loading "alice") (.finished "alice" (.fetched "ssh-rsa ALICE")))
      (handle (.loading "bob") (.finished "bob" (.fetched "ssh-rsa BOB"))) {} _
      (.done ⟨.linked "bob", .ok [.render]⟩) (.done ⟨.linked "bob", .ok [.render]⟩) _ :=
    .left .carried (.right .carried (.left .carried (.right .carried (.left .carried (.left .carried
      (.left .carried (.right .carried (.right .carried (.right .carried .here)))))))))
  have account := racing_account (.took built alice) (.took built bob) (by decide) (by decide) course
  exact ⟨_, _, _, _, .took built alice, .took built bob, course, by decide,
    account.2.mpr (.inl (by decide))⟩

-- Both services start from an empty store and no call fails, but bob makes both of his writes
-- between the two of alice.
theorem nested_links_mixed :
    ∃ past₁ past₂ race q, Driven (fun _ => False) {} past₁ (.loading "alice") {} ∧
      Driven (fun _ => False) {} past₂ (.loading "bob") {} ∧
      Beside (Served fun _ => False) (Served fun _ => False)
        (handle (.loading "alice") (.finished "alice" (.fetched "ssh-rsa ALICE")))
        (handle (.loading "bob") (.finished "bob" (.fetched "ssh-rsa BOB"))) {} race
        (.done ⟨.linked "bob", .ok [.render]⟩) (.done ⟨.linked "bob", .ok [.render]⟩) q ∧
      held q = some ⟨"bob", "ssh-rsa ALICE"⟩ ∧
      ¬(held q = some ⟨"alice", "ssh-rsa ALICE"⟩ ∨ held q = some ⟨"bob", "ssh-rsa BOB"⟩) := by
  have built : Driven (fun _ => False) {} _ .unlinked {} := .built (course_carried (course_carried .here))
  have alice : Leads (Served fun _ => False) (handle .unlinked (.submitted "alice")) {} []
      (.done ⟨.loading "alice", .ok [.render, .fetch "alice"]⟩) {} := .here
  have bob : Leads (Served fun _ => False) (handle .unlinked (.submitted "bob")) {} []
      (.done ⟨.loading "bob", .ok [.render, .fetch "bob"]⟩) {} := .here
  have course : Beside (Served fun _ => False) (Served fun _ => False)
      (handle (.loading "alice") (.finished "alice" (.fetched "ssh-rsa ALICE")))
      (handle (.loading "bob") (.finished "bob" (.fetched "ssh-rsa BOB"))) {} _
      (.done ⟨.linked "bob", .ok [.render]⟩) (.done ⟨.linked "bob", .ok [.render]⟩) _ :=
    .left .carried (.left .carried (.right .carried (.right .carried (.right .carried (.right .carried
      (.right .carried (.left .carried (.left .carried (.left .carried .here)))))))))
  exact ⟨_, _, _, _, .took built alice, .took built bob, course, by decide, by decide⟩

end LinkedKeys.Control

import LinkedKeys.Proofs.Course
import LinkedKeys.Store.Faulty

namespace LinkedKeys.Store

namespace Params

@[simp] theorem read_insert (p : Params) (key value other : String) :
    (p.insert key value).read other = if other = key then value else p.read other := by
  unfold read
  split
  · rename_i same; subst same; rw [value?_insert]; rfl
  · rename_i differ; rw [value?_insert_other p value differ]

@[simp] theorem read_erase (p : Params) (key other : String) :
    (p.erase key).read other = if other = key then "" else p.read other := by
  unfold read
  split
  · rename_i same; subst same; rw [value?_erase]; rfl
  · rename_i differ; rw [value?_erase_other p differ]

end Params

def Call.reply : (c : Call) → Params → c.Answer
  | .get key, p => .ok (p.read key)
  | .put _ _, _ => .ok ()
  | .remove _, _ => .ok ()

def Call.refusal : (c : Call) → Failure → c.Answer
  | .get _, failure => .error failure
  | .put _ _, failure => .error failure
  | .remove _, failure => .error failure

def Call.carry : Call → Params → Params
  | .get _, p => p
  | .put key value, p => p.insert key value
  | .remove key, p => p.erase key

def Call.writes : Call → Bool
  | .get _ => false
  | .put _ _ => true
  | .remove _ => true

-- Any refusable call may be refused, for any reason, at any time; a refused call changes nothing.
inductive Served (refusable : Call → Prop) (c : Call) (p : Params) : c.Answer → Params → Prop where
  | carried : Served refusable c p (c.reply p) (c.carry p)
  | refused (may : refusable c) (failure : Failure) : Served refusable c p (c.refusal failure) p

theorem served_granted {refusable : Call → Prop} {c : Call} {p q : Params} {answer : c.Answer}
    (served : Served refusable c p answer q) (granted : ¬refusable c) :
    answer = c.reply p ∧ q = c.carry p := by
  cases served with
  | carried => exact ⟨rfl, rfl⟩
  | refused may failure => exact absurd may granted

-- The planned faults of a rehearsed store are among the refusals.
theorem Faulty.served (c : Call) (m : Faulty) :
    Served (fun _ => True) c m.params (Faulty.answer c m).1 (Faulty.answer c m).2.params := by
  cases c with
  | get key =>
      simp only [Faulty.answer]
      split
      · exact .refused trivial _
      · exact .carried
  | put key value =>
      simp only [Faulty.answer]
      split
      · exact .refused trivial _
      · exact .carried
  | remove key =>
      simp only [Faulty.answer]
      split
      · exact .refused trivial _
      · exact .carried

theorem meet_method (f : Fault) : f.meet.2.method = f.method := by
  unfold Fault.meet
  split <;> rfl

theorem decideFault_put {faults : List Fault} (puts : ∀ f ∈ faults, f.method = .put) (c : Call) :
    ∀ f ∈ (decideFault c faults).2, f.method = .put := by
  induction faults with
  | nil => simp [decideFault]
  | cons f rest ih =>
      obtain ⟨first, later⟩ := List.forall_mem_cons.mp puts
      unfold decideFault
      split
      · exact List.forall_mem_cons.mpr ⟨(meet_method f).trans first, later⟩
      · exact List.forall_mem_cons.mpr ⟨first, ih later⟩

-- Faults of puts have no say in other calls.
theorem decideFault_spares {faults : List Fault} {c : Call} (puts : ∀ f ∈ faults, f.method = .put)
    (other : c.method ≠ .put) : decideFault c faults = (false, faults) := by
  induction faults with
  | nil => rfl
  | cons f rest ih =>
      obtain ⟨first, later⟩ := List.forall_mem_cons.mp puts
      have uncovered : f.covers c = false := by simp [Fault.covers, first, other.symm]
      simp [decideFault, uncovered, ih later]

theorem answer_faults_put (c : Call) {m : Faulty} (puts : ∀ f ∈ m.faults, f.method = .put) :
    ∀ f ∈ (Faulty.answer c m).2.faults, f.method = .put := by
  have kept := decideFault_put puts c
  cases c with
  | get key => exact kept
  | put key value => unfold Faulty.answer; dsimp only; split <;> exact kept
  | remove key => unfold Faulty.answer; dsimp only; split <;> exact kept

theorem Faulty.served_put (c : Call) {m : Faulty} (puts : ∀ f ∈ m.faults, f.method = .put) :
    Served (·.method = .put) c m.params (Faulty.answer c m).1 (Faulty.answer c m).2.params := by
  cases c with
  | get key =>
      have spared := decideFault_spares (c := .get key) puts (by simp [Call.method])
      simp only [Faulty.answer, spared]
      exact .carried
  | put key value =>
      simp only [Faulty.answer]
      split
      · exact .refused (by rfl) _
      · exact .carried
  | remove key =>
      have spared := decideFault_spares (c := .remove key) puts (by simp [Call.method])
      simp only [Faulty.answer, spared]
      exact .carried

theorem Faulty.course {α : Type} (script : Script α) (m : Faulty) :
    ∃ past, Script.Leads (Served fun _ => True) script m.params past
      (.done (script.run Faulty.answer m).1) (script.run Faulty.answer m).2.params :=
  Script.run_leads Faulty.params Faulty.served script m

abbrev Past := List (Exchange Call Call.Answer)

-- The write that an exchange carried out. A refused write is none.
def written : Exchange Call Call.Answer → Option Call
  | ⟨.get _, _⟩ => none
  | ⟨.put key value, .ok _⟩ => some (.put key value)
  | ⟨.remove key, .ok _⟩ => some (.remove key)
  | ⟨.put _ _, .error _⟩ => none
  | ⟨.remove _, .error _⟩ => none

def writes (past : Past) : List Call := past.filterMap written

def Params.after (p : Params) (calls : List Call) : Params :=
  calls.foldl (fun p c => c.carry p) p

@[simp] theorem Params.after_nil (p : Params) : p.after [] = p := rfl

@[simp] theorem Params.after_cons (p : Params) (c : Call) (calls : List Call) :
    p.after (c :: calls) = (c.carry p).after calls := rfl

theorem Params.after_append (p : Params) (calls more : List Call) :
    p.after (calls ++ more) = (p.after calls).after more := List.foldl_append

@[simp] theorem writes_nil : writes [] = [] := rfl

@[simp] theorem writes_append (past more : Past) : writes (past ++ more) = writes past ++ writes more :=
  List.filterMap_append

@[simp] theorem writes_get (key : String) (answer : Except Failure String) (more : Past) :
    writes (⟨.get key, answer⟩ :: more) = writes more := rfl

@[simp] theorem writes_put (key value : String) (answer : Unit) (more : Past) :
    writes (⟨.put key value, .ok answer⟩ :: more) = .put key value :: writes more := rfl

@[simp] theorem writes_put_refused (key value : String) (failure : Failure) (more : Past) :
    writes (⟨.put key value, .error failure⟩ :: more) = writes more := rfl

@[simp] theorem writes_remove (key : String) (answer : Unit) (more : Past) :
    writes (⟨.remove key, .ok answer⟩ :: more) = .remove key :: writes more := rfl

@[simp] theorem writes_remove_refused (key : String) (failure : Failure) (more : Past) :
    writes (⟨.remove key, .error failure⟩ :: more) = writes more := rfl

theorem served_after (served : Served refusable c p answer q) :
    q = p.after (writes [⟨c, answer⟩]) := by
  cases served with
  | carried => cases c <;> rfl
  | refused may failure => cases c <;> rfl

section

variable {refusable : Call → Prop} {during : Past → Params → Prop} {past : Past} {p q : Params}

-- Nothing but the writes carried out so far stands between the parameters at any two points.
theorem throughout_after {α : Type} {script : Script α} (same : q = p.after (writes past)) :
    script.Throughout (Served refusable) (fun now t => t = p.after (writes now))
      (fun _ now t => t = p.after (writes now)) past q := by
  induction script generalizing past q with
  | done result => exact same
  | ask c next ih =>
      refine ⟨same, fun answer t served => ih answer ?_⟩
      rw [served_after served, same, ← Params.after_append, ← writes_append]

theorem leads_after {α : Type} {script rest : Script α}
    (course : Script.Leads (Served refusable) script p past rest q) : q = p.after (writes past) :=
  Script.Throughout.point (throughout_after rfl) course

-- The two ways in which a course goes on.
theorem course_carried {α : Type} {rest : Script α} {c : Call} {next : c.Answer → Script α}
    (later : Script.Leads (Served refusable) (next (c.reply p)) (c.carry p) past rest q) :
    Script.Leads (Served refusable) (.ask c next) p (⟨c, c.reply p⟩ :: past) rest q :=
  .ask .carried later

theorem course_refused {α : Type} {rest : Script α} {c : Call} {next : c.Answer → Script α}
    (failure : Failure)
    (later : Script.Leads (Served refusable) (next (c.refusal failure)) p past rest q)
    (may : refusable c) :
    Script.Leads (Served refusable) (.ask c next) p (⟨c, c.refusal failure⟩ :: past) rest q :=
  .ask (.refused may failure) later

theorem served_all {c : Call} {P : c.Answer → Params → Prop} :
    (∀ answer q, Served refusable c p answer q → P answer q) ↔
      P (c.reply p) (c.carry p) ∧ (refusable c → ∀ failure, P (c.refusal failure) p) := by
  constructor
  · exact fun all => ⟨all _ _ .carried, fun may failure => all _ _ (.refused may failure)⟩
  · intro both answer q served
    cases served with
    | carried => exact both.1
    | refused may failure => exact both.2 may failure

theorem throughout_get {key : String} {after : Except Failure String → Past → Params → Prop} :
    (get key).run.Throughout (Served refusable) during after past p ↔
      during past p ∧ after (.ok (p.read key)) (past ++ [⟨.get key, .ok (p.read key)⟩]) p ∧
        (refusable (.get key) → ∀ failure,
          after (.error failure) (past ++ [⟨.get key, .error failure⟩]) p) :=
  and_congr_right fun _ => served_all

theorem throughout_put {key value : String} {after : Except Failure Unit → Past → Params → Prop} :
    (put key value).run.Throughout (Served refusable) during after past p ↔
      during past p ∧ after (.ok ()) (past ++ [⟨.put key value, .ok ()⟩]) (p.insert key value) ∧
        (refusable (.put key value) → ∀ failure,
          after (.error failure) (past ++ [⟨.put key value, .error failure⟩]) p) :=
  and_congr_right fun _ => served_all

theorem throughout_remove {key : String} {after : Except Failure Unit → Past → Params → Prop} :
    (remove key).run.Throughout (Served refusable) during after past p ↔
      during past p ∧ after (.ok ()) (past ++ [⟨.remove key, .ok ()⟩]) (p.erase key) ∧
        (refusable (.remove key) → ∀ failure,
          after (.error failure) (past ++ [⟨.remove key, .error failure⟩]) p) :=
  and_congr_right fun _ => served_all

end

end LinkedKeys.Store

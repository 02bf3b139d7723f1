import LinkedKeys.Script

namespace LinkedKeys

structure Exchange (C : Type) (A : C → Type) where
  call : C
  answer : A call

namespace Script

variable {C : Type} {A : C → Type} {α β σ : Type}

-- `serves c s answer t`: asked `c` in `s`, the surroundings may give this answer and be in `t`.
variable {serves : (c : C) → σ → A c → σ → Prop}

-- The script that is left is kept, so being stopped between two calls needs no case of its own.
inductive Leads (serves : (c : C) → σ → A c → σ → Prop) :
    Script C A α → σ → List (Exchange C A) → Script C A α → σ → Prop where
  | here {script s} : Leads serves script s [] script s
  | ask {c s answer m next past rest t} (served : serves c s answer m)
      (later : Leads serves (next answer) m past rest t) :
      Leads serves (.ask c next) s (⟨c, answer⟩ :: past) rest t

theorem leads_done {a : α} {rest : Script C A α} {s t : σ} {past : List (Exchange C A)}
    (course : Leads serves (.done a) s past rest t) : past = [] ∧ rest = .done a ∧ t = s := by
  cases course with
  | here => exact ⟨rfl, rfl, rfl⟩

theorem leads_append {script mid rest : Script C A α} {s m t : σ} {past more : List (Exchange C A)}
    (first : Leads serves script s past mid m) (second : Leads serves mid m more rest t) :
    Leads serves script s (past ++ more) rest t := by
  induction first with
  | here => exact second
  | ask served later ih => exact .ask served (ih second)

theorem leads_mono {serves' : (c : C) → σ → A c → σ → Prop}
    (wider : ∀ c s answer t, serves c s answer t → serves' c s answer t) {script rest : Script C A α}
    {s t : σ} {past : List (Exchange C A)} (course : Leads serves script s past rest t) :
    Leads serves' script s past rest t := by
  induction course with
  | here => exact .here
  | ask served later ih => exact .ask (wider _ _ _ _ served) ih

theorem leads_served {script rest : Script C A α} {s t : σ} {past : List (Exchange C A)}
    (course : Leads serves script s past rest t) :
    ∀ made ∈ past, ∃ m n, serves made.call m made.answer n := by
  induction course with
  | here => simp
  | ask served later ih =>
      intro made among
      rcases List.mem_cons.mp among with rfl | later
      · exact ⟨_, _, served⟩
      · exact ih made later

-- `during` holds wherever a call is still to be made, and `after` wherever the script is at its
-- end. The exchanges made before the script are its third argument.
def Throughout (serves : (c : C) → σ → A c → σ → Prop) (during : List (Exchange C A) → σ → Prop)
    (after : α → List (Exchange C A) → σ → Prop) :
    Script C A α → List (Exchange C A) → σ → Prop
  | .done a, past, s => after a past s
  | .ask c next, past, s => during past s ∧ ∀ answer t, serves c s answer t →
      (next answer).Throughout serves during after (past ++ [⟨c, answer⟩]) t

section

variable {during during' : List (Exchange C A) → σ → Prop}
  {after after' : α → List (Exchange C A) → σ → Prop} {past : List (Exchange C A)} {s : σ}

theorem Throughout.mono {script : Script C A α}
    (holds : script.Throughout serves during after past s)
    (always : ∀ past s, during past s → during' past s)
    (ending : ∀ a past s, after a past s → after' a past s) :
    script.Throughout serves during' after' past s := by
  induction script generalizing past s with
  | done a => exact ending _ _ _ holds
  | ask c next ih =>
      exact ⟨always _ _ holds.1, fun answer t served => ih answer (holds.2 answer t served)⟩

theorem Throughout.mono_end {script : Script C A α}
    (holds : script.Throughout serves during after past s)
    (ending : ∀ a past s, after a past s → after' a past s) :
    script.Throughout serves (fun _ _ => True) after' past s :=
  holds.mono (fun _ _ _ => trivial) ending

theorem throughout_congr {script : Script C A α}
    (alike : ∀ a past s, after a past s ↔ after' a past s) :
    script.Throughout serves during after past s ↔ script.Throughout serves during after' past s := by
  constructor
  · exact fun holds => holds.mono (fun _ _ now => now) fun a past s => (alike a past s).mp
  · exact fun holds => holds.mono (fun _ _ now => now) fun a past s => (alike a past s).mpr

theorem Throughout.and {script : Script C A α}
    (one : script.Throughout serves during after past s)
    (two : script.Throughout serves during' after' past s) :
    script.Throughout serves (fun past s => during past s ∧ during' past s)
      (fun a past s => after a past s ∧ after' a past s) past s := by
  induction script generalizing past s with
  | done a => exact ⟨one, two⟩
  | ask c next ih =>
      exact ⟨⟨one.1, two.1⟩, fun answer t served =>
        ih answer (one.2 answer t served) (two.2 answer t served)⟩

theorem throughout_trivial (script : Script C A α) :
    script.Throughout serves (fun _ _ => True) (fun _ _ _ => True) past s := by
  induction script generalizing past s with
  | done a => trivial
  | ask c next ih => exact ⟨trivial, fun answer t _ => ih answer⟩

theorem throughout_bind {script : Script C A α} {f : α → Script C A β}
    {after : β → List (Exchange C A) → σ → Prop} :
    (script.bind f).Throughout serves during after past s ↔
      script.Throughout serves during
        (fun a past s => (f a).Throughout serves during after past s) past s := by
  induction script generalizing past s with
  | done a => exact Iff.rfl
  | ask c next ih =>
      constructor
      · exact fun holds => ⟨holds.1, fun answer t served => (ih answer).mp (holds.2 answer t served)⟩
      · exact fun holds => ⟨holds.1, fun answer t served => (ih answer).mpr (holds.2 answer t served)⟩

theorem throughout_do {script : Script C A α} {f : α → Script C A β}
    {after : β → List (Exchange C A) → σ → Prop} :
    (script >>= f).Throughout serves during after past s ↔
      script.Throughout serves during
        (fun a past s => (f a).Throughout serves during after past s) past s := throughout_bind

-- Exchanges are never taken back.
theorem throughout_past (script : Script C A α) :
    script.Throughout serves (fun _ _ => True) (fun _ now _ => past ⊆ now) past s := by
  induction script generalizing past s with
  | done a => exact List.Subset.refl past
  | ask c next ih =>
      refine ⟨trivial, ?_⟩
      intro answer t _
      apply (ih answer).mono_end
      intro a now t longer
      exact List.Subset.trans (List.subset_append_left _ _) longer

-- What is left of a script after some of its exchanges still keeps to both.
theorem Throughout.rest {script rest : Script C A α} {more : List (Exchange C A)} {t : σ}
    (holds : script.Throughout serves during after past s)
    (course : Leads serves script s more rest t) :
    rest.Throughout serves during after (past ++ more) t := by
  induction course generalizing past with
  | here => simpa using holds
  | ask served _ ih => simpa using ih (holds.2 _ _ served)

theorem Throughout.ending {script : Script C A α} {more : List (Exchange C A)} {a : α} {t : σ}
    (holds : script.Throughout serves during after [] s)
    (course : Leads serves script s more (.done a) t) : after a more t :=
  holds.rest course

theorem Throughout.point {script rest : Script C A α} {more : List (Exchange C A)} {t : σ}
    (holds : script.Throughout serves during (fun _ => during) [] s)
    (course : Leads serves script s more rest t) : during more t := by
  have left := holds.rest course
  cases rest with
  | done a => exact left
  | ask c next => exact left.1

-- The four ways in which a script that can fail is put together.
variable {ε : Type}

theorem throughout_pure {a : α} {after : Except ε α → List (Exchange C A) → σ → Prop} :
    (pure a : ExceptT ε (Script C A) α).run.Throughout serves during after past s ↔
      after (.ok a) past s := Iff.rfl

theorem throughout_throw {failure : ε} {after : Except ε α → List (Exchange C A) → σ → Prop} :
    (throw failure : ExceptT ε (Script C A) α).run.Throughout serves during after past s ↔
      after (.error failure) past s := Iff.rfl

theorem throughout_then {attempt : ExceptT ε (Script C A) α} {f : α → ExceptT ε (Script C A) β}
    {after : Except ε β → List (Exchange C A) → σ → Prop} :
    (attempt >>= f).run.Throughout serves during after past s ↔
      attempt.run.Throughout serves during (fun
        | .ok a => fun past s => (f a).run.Throughout serves during after past s
        | .error failure => after (.error failure)) past s := by
  rw [ExceptT.run_bind]
  refine throughout_bind.trans (throughout_congr fun result past s => ?_)
  cases result <;> exact Iff.rfl

-- For what holds of every failure, only what comes after a result is to be looked at.
theorem throughout_onward {attempt : ExceptT ε (Script C A) α} {f : α → ExceptT ε (Script C A) β}
    {after : Except ε β → List (Exchange C A) → σ → Prop}
    (failed : ∀ failure past s, after (.error failure) past s)
    (onward : ∀ a past s, (f a).run.Throughout serves (fun _ _ => True) after past s) :
    (attempt >>= f).run.Throughout serves (fun _ _ => True) after past s := by
  refine throughout_then.mpr ((throughout_trivial _).mono_end ?_)
  intro result past s _
  cases result with
  | ok a => exact onward a past s
  | error failure => exact failed failure past s

theorem throughout_catch {attempt : ExceptT ε (Script C A) α} {f : ε → ExceptT ε (Script C A) α}
    {after : Except ε α → List (Exchange C A) → σ → Prop} :
    (tryCatch attempt f).run.Throughout serves during after past s ↔
      attempt.run.Throughout serves during (fun
        | .ok a => after (.ok a)
        | .error failure => fun past s => (f failure).run.Throughout serves during after past s)
        past s := by
  change ((attempt.run : Script C A (Except ε α)).bind _).Throughout _ _ _ _ _ ↔ _
  refine throughout_bind.trans (throughout_congr fun result past s => ?_)
  cases result <;> exact Iff.rfl

end

-- What a machine is asked in a run, and how it answers.
def exchanges {τ : Type} (answer : (c : C) → τ → A c × τ) : Script C A α → τ → List (Exchange C A)
  | .done _, _ => []
  | .ask c next, m => ⟨c, (answer c m).1⟩ :: (next (answer c m).1).exchanges answer (answer c m).2

-- A machine that answers as the surroundings may runs a script along one of its courses. It need
-- do so only where it stays.
theorem exchanges_lead {τ : Type} {answer : (c : C) → τ → A c × τ} (view : τ → σ) (stays : τ → Prop)
    (kept : ∀ c m, stays m → stays (answer c m).2)
    (served : ∀ c m, stays m → serves c (view m) (answer c m).1 (view (answer c m).2))
    (script : Script C A α) {m : τ} (begun : stays m) :
    Leads serves script (view m) (script.exchanges answer m) (.done (script.run answer m).1)
      (view (script.run answer m).2) := by
  induction script generalizing m with
  | done a => exact .here
  | ask c next ih => exact .ask (served c m begun) (ih (answer c m).1 (kept c m begun))

theorem run_leads {τ : Type} {answer : (c : C) → τ → A c × τ} (view : τ → σ)
    (served : ∀ c m, serves c (view m) (answer c m).1 (view (answer c m).2)) (script : Script C A α)
    (m : τ) : ∃ past, Leads serves script (view m) past (.done (script.run answer m).1)
      (view (script.run answer m).2) :=
  ⟨_, exchanges_lead view (fun _ => True) (fun _ _ _ => trivial) (fun c m _ => served c m) script
    trivial⟩

-- What is so at every end is so at the end of a run.
theorem Throughout.run_end {τ : Type} {answer : (c : C) → τ → A c × τ} {script : Script C A α}
    {during : List (Exchange C A) → Unit → Prop} {after : α → Prop}
    (holds : script.Throughout (fun _ _ _ _ => True) during (fun a _ _ => after a) [] ()) (m : τ) :
    after (script.run answer m).1 := by
  have led : ∃ past, Leads (fun _ _ _ _ => True) script () past (.done (script.run answer m).1) () :=
    run_leads (fun _ => ()) (fun _ _ => trivial) script m
  obtain ⟨past, course⟩ := led
  exact holds.ending course

-- Where a machine alone answers, there is no course but its run.
theorem throughout_run {answer : (c : C) → σ → A c × σ}
    (only : ∀ c s reply t, serves c s reply t → (reply, t) = answer c s) {script : Script C A α}
    {after : α → σ → Prop} {past : List (Exchange C A)} {s : σ}
    (ends : after (script.run answer s).1 (script.run answer s).2) :
    script.Throughout serves (fun _ _ => True) (fun a _ t => after a t) past s := by
  induction script generalizing past s with
  | done a => exact ends
  | ask c next ih =>
      refine ⟨trivial, ?_⟩
      intro reply t served
      apply ih reply
      have same := only c s reply t served
      rw [Script.run, ← same] at ends
      exact ends

-- Two machines that answer alike wherever a script can come to run it alike.
theorem run_alike {τ υ : Type} {first : (c : C) → τ → A c × τ} {second : (c : C) → υ → A c × υ}
    {during : List (Exchange C A) → Prop} (alike : List (Exchange C A) → τ → υ → Prop)
    (step : ∀ past c m n, during (past ++ [⟨c, (first c m).1⟩]) → alike past m n →
      (second c n).1 = (first c m).1 ∧
        alike (past ++ [⟨c, (first c m).1⟩]) (first c m).2 (second c n).2)
    {script : Script C A α} {past : List (Exchange C A)} {m : τ} {n : υ}
    (holds : script.Throughout (fun _ (_ : Unit) _ _ => True) (fun now _ => during now)
      (fun _ now _ => during now) past ()) (begun : alike past m n) :
    (script.run second n).1 = (script.run first m).1 ∧
      alike (past ++ script.exchanges first m) (script.run first m).2 (script.run second n).2 := by
  induction script generalizing past m n with
  | done a => exact ⟨rfl, by rwa [exchanges, List.append_nil]⟩
  | ask c next ih =>
      have onward := holds.2 (first c m).1 () trivial
      have now : during (past ++ [⟨c, (first c m).1⟩]) := by
        cases left : next (first c m).1 with
        | done a => rw [left] at onward; exact onward
        | ask d later => rw [left] at onward; exact onward.1
      obtain ⟨same, after⟩ := step past c m n now begun
      rw [Script.run, Script.run, exchanges, same, List.append_cons]
      exact ih (first c m).1 onward after

-- What goes on alike after every result that the answers can lead to goes on alike.
theorem bind_congr {script : Script C A α} {f g : α → Script C A β} (past : List (Exchange C A))
    (alike : script.Throughout (fun _ (_ : Unit) _ _ => True) (fun _ _ => True)
      (fun a _ _ => f a = g a) past ()) : script.bind f = script.bind g := by
  induction script generalizing past with
  | done a => exact alike
  | ask c next ih => exact congrArg (ask c) (funext fun answer => ih answer _ (alike.2 answer () trivial))

end Script

end LinkedKeys

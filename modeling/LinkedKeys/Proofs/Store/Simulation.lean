import LinkedKeys.Proofs.Course
import LinkedKeys.Proofs.Files.Making
import LinkedKeys.Proofs.Store.Filed
import LinkedKeys.Store.Faulty

namespace LinkedKeys.Store

open Directory
open Files (Tree)
open Files.Tree (Absent Forward Grounded Sayable longestName)

variable {here : List String} {dir key value : String} {t ready : Tree} {p : Params} {m : Memory}
  {place : List String} {calls : List Call}

-- What a store answers to calls in turn, each answer with the state behind it.
def course {σ : Type} (answer : (c : Call) → σ → c.Answer × σ) :
    List Call → σ → List (Exchange Call Call.Answer × σ)
  | [], _ => []
  | c :: rest, s => (⟨c, (answer c s).1⟩, (answer c s).2) :: course answer rest (answer c s).2

-- A key whose file has a path that a file system takes.
structure Fits (dir key : String) : Prop where
  plain : isPlain key = true
  short : key.utf8ByteSize ≤ longestName
  sayable : Sayable (fileOf dir key)

-- A directory has a file for each parameter and no other entry.
def Holds (t : Tree) (place : List String) (p : Params) : Prop :=
  ∀ name, t.at? (place ++ [name]) = (p.value? name).map fun value => .file (Text.toBytes value)

inductive Agrees (here : List String) (dir : String) (t : Tree) (p : Params) : Prop where
  | there {place : List String} (leads : t.way here dir = .ok (.directory place))
      (holds : Holds t place p)
  | absent (absent : Absent here dir t) (empty : ∀ name, p.value? name = none)

theorem Fits.rooted (fits : Fits dir key) (leads : t.way here dir = .ok (.directory place)) :
    Rooted here dir key t place :=
  ⟨fits.plain, fits.short, fits.sayable, leads⟩

theorem absent_find (fits : Fits dir key) (absent : Absent here dir t) :
    t.find here (fileOf dir key) = .error .missing := by
  rw [fileOf, Tree.find_join (plain_name fits.plain) fits.sayable]
  unfold Absent at absent
  cases led : t.way here dir with
  | error cause => rw [led] at absent; cases absent; rfl
  | ok target => rw [led] at absent; cases absent; rfl

theorem there_present (leads : t.way here dir = .ok (.directory place)) : ¬Absent here dir t := by
  intro absent
  unfold Absent at absent
  rw [leads] at absent
  cases absent

theorem agrees_filed (fits : Fits dir key) (agrees : Agrees here dir t p) :
    Filed here dir t key (p.value? key) := by
  cases agrees with
  | there leads holds => exact (fits.rooted leads).filed.mpr (holds key)
  | absent absent empty =>
      rw [empty key]
      simp only [Filed, Tree.answer, absent_find fits absent]

theorem holds_room (holds : Holds t place p) (name : String) :
    t.at? (place ++ [name]) ≠ some .directory := by
  rw [holds name]
  cases p.value? name <;> simp

theorem places_apart {name other : String} (differ : name ≠ other) :
    place ++ [name] ≠ place ++ [other] := by
  simpa using differ

theorem holds_written (holds : Holds t place p) (key value : String) :
    Holds (Directory.written t place key value) place (p.insert key value) := by
  intro name
  by_cases same : name = key
  · subst same
    rw [at?_written, Params.value?_insert]
    rfl
  · rw [at?_written_other _ _ (places_apart same), Params.value?_insert_other p value same]
    exact holds name

theorem holds_erased (holds : Holds t place p) (key : String) :
    Holds (t.erase (place ++ [key])) place (p.erase key) := by
  intro name
  by_cases same : name = key
  · subst same
    rw [Tree.at?_erase (by simp), Params.value?_erase]
    rfl
  · rw [Tree.at?_erase_other _ (places_apart same), Params.value?_erase_other p same]
    exact holds name

theorem get_agrees (fits : Fits dir key) (agrees : Agrees here dir t p) :
    serve here dir (.get key) t = (.ok (p.read key), t) :=
  get_filed fits.plain (agrees_filed fits agrees)

theorem erase_none (none : p.value? key = none) (name : String) :
    (p.erase key).value? name = p.value? name := by
  by_cases same : name = key
  · subst same
    rw [Params.value?_erase, none]
  · exact Params.value?_erase_other p same

theorem remove_agrees (fits : Fits dir key) (agrees : Agrees here dir t p) :
    ∃ after, serve here dir (.remove key) t = (.ok (), after) ∧
      Agrees here dir after (p.erase key) ∧ (Absent here dir after → after = t) := by
  have filed := agrees_filed fits agrees
  cases held : p.value? key with
  | none =>
      rw [held] at filed
      refine ⟨t, removed_none fits.plain filed, ?_, fun _ => rfl⟩
      cases agrees with
      | there leads holds => exact .there leads fun name => by rw [erase_none held, holds name]
      | absent absent empty => exact .absent absent fun name => by rw [erase_none held, empty name]
  | some value =>
      rw [held] at filed
      cases agrees with
      | absent absent empty => rw [empty key] at held; cases held
      | there leads holds =>
          have rooted := fits.rooted leads
          have still := (rooted.kept (rooted.erased filed)).leads
          exact ⟨_, rooted.removed filed, .there still (holds_erased holds key),
            fun absent => absurd absent (there_present still)⟩

-- What is made of an absent directory is there and empty.
structure Opened (here : List String) (dir : String) (t ready : Tree) (place : List String) :
    Prop where
  made : (Files.makeChain (chain dir)).run (Tree.answer here) t = (.ok (), ready)
  leads : ready.way here dir = .ok (.directory place)
  empty : ∀ name, ready.at? (place ++ [name]) = none

theorem put_agrees (fits : Fits dir key) (agrees : Agrees here dir t p) (value : String)
    (opens : Absent here dir t → ∃ ready place, Opened here dir t ready place) :
    ∃ after place, serve here dir (.put key value) t = (.ok (), after) ∧
      after.way here dir = .ok (.directory place) ∧ Holds after place (p.insert key value) := by
  cases agrees with
  | there leads holds =>
      have rooted := fits.rooted leads
      have room := holds_room holds key
      exact ⟨_, _, rooted.put room, (rooted.kept (written_keeps room value)).leads,
        holds_written holds key value⟩
  | absent absent empty =>
      obtain ⟨ready, place, opened⟩ := opens absent
      have rooted := fits.rooted opened.leads
      have holds : Holds ready place p := fun name => by rw [opened.empty name, empty name]; rfl
      have room := holds_room holds key
      refine ⟨Directory.written ready place key value, place, ?_, ?_, holds_written holds key value⟩
      · rw [serve_put fits.plain opened.made, rooted.replaced room]
        rfl
      · exact (rooted.kept (written_keeps room value)).leads

-- Refuses nothing.
def Memory.Grants (m : Memory) : Prop :=
  m.refuseAll = false ∧ m.refuseKey = none

theorem put_granted (grants : m.Grants) (key value : String) : Memory.answer (.put key value) m =
    (.ok (), { m with params := m.params.insert key value }) := by
  simp [Memory.answer, grants.1, grants.2]

-- The answer is the same, and the directory stands for the parameters behind it. It is still not
-- there only where nothing has been touched.
structure Stepped (here : List String) (dir : String) (call : Call) (t : Tree) (m : Memory) :
    Prop where
  same : (serve here dir call t).1 = (Memory.answer call m).1
  agrees : Agrees here dir (serve here dir call t).2 (Memory.answer call m).2.params
  grants : (Memory.answer call m).2.Grants
  untouched : Absent here dir (serve here dir call t).2 → (serve here dir call t).2 = t

theorem call_stepped {call : Call} (grants : m.Grants) (fits : Fits dir call.key)
    (agrees : Agrees here dir t m.params)
    (opens : Absent here dir t → (∃ key value, call = .put key value) →
      ∃ ready place, Opened here dir t ready place) : Stepped here dir call t m := by
  cases call with
  | get key =>
      change Fits dir key at fits
      have served := get_agrees fits agrees
      refine ⟨?_, ?_, grants, ?_⟩
      · rw [served]
        rfl
      · rw [served]
        exact agrees
      · rw [served]
        exact fun _ => rfl
  | remove key =>
      change Fits dir key at fits
      obtain ⟨after, served, later, untouched⟩ := remove_agrees fits agrees
      refine ⟨?_, ?_, grants, ?_⟩
      · rw [served]
        rfl
      · rw [served]
        exact later
      · rw [served]
        exact untouched
  | put key value =>
      change Fits dir key at fits
      obtain ⟨after, place, served, leads, holds⟩ :=
        put_agrees fits agrees value fun absent => opens absent ⟨key, value, rfl⟩
      have granted := put_granted grants key value
      refine ⟨?_, ?_, ?_, ?_⟩
      · rw [served, granted]
      · rw [served, granted]
        exact .there leads holds
      · rw [granted]
        exact grants
      · rw [served]
        exact fun absent => absurd absent (there_present leads)

-- A directory that is there, with no entry.
def Bare (here : List String) (dir : String) (t : Tree) : Prop :=
  ∃ place, t.way here dir = .ok (.directory place) ∧ ∀ name, t.at? (place ++ [name]) = none

theorem forward_bare (grounded : Grounded here t) (absent : Absent here dir t)
    (forward : Forward here dir t)
    (made : (Files.makeChain (chain dir)).run (Tree.answer here) t = (.ok (), ready)) :
    Bare here dir ready := by
  have named : dir ≠ "" := by
    rintro rfl
    exact there_present rfl absent
  rw [chain, if_neg named] at made
  have chained := (Tree.makeChain_run here (dir :: Files.Path.ancestors dir) t).leads
  rw [made] at chained
  obtain ⟨place, there⟩ := chained rfl dir rfl
  obtain ⟨_, leads⟩ := Tree.locate_some there
  exact ⟨place, leads, Tree.made_empty grounded forward absent made leads⟩

-- A directory that can be made, and that is empty then: as one is whose path never goes up again
-- behind a name that is not there.
def Makeable (here : List String) (dir : String) (t : Tree) : Prop :=
  ∃ ready, (Files.makeChain (chain dir)).run (Tree.answer here) t = (.ok (), ready) ∧
    (Forward here dir t ∨ Bare here dir ready)

theorem makeable_opened (grounded : Grounded here t) (absent : Absent here dir t)
    (makeable : Makeable here dir t) : ∃ ready place, Opened here dir t ready place := by
  obtain ⟨ready, made, forward | ⟨place, leads, empty⟩⟩ := makeable
  · obtain ⟨place, leads, empty⟩ := forward_bare grounded absent forward made
    exact ⟨ready, place, made, leads, empty⟩
  · exact ⟨ready, place, made, leads, empty⟩

-- The same answer, and a tree that stands for the parameters. Since it is grounded, nothing lies
-- below the files either.
structure Alike (here : List String) (dir : String) (filed : Exchange Call Call.Answer × Tree)
    (kept : Exchange Call Call.Answer × Memory) : Prop where
  answer : filed.1 = kept.1
  agrees : Agrees here dir filed.2 kept.2.params
  grounded : Grounded here filed.2

-- Over any course of calls, files of a directory and parameters in memory answer alike, and the
-- directory holds the files of the parameters and nothing else behind every call.
theorem directory_simulates_memory (grounded : Grounded here t) (grants : m.Grants)
    (fits : ∀ call ∈ calls, Fits dir call.key) (agrees : Agrees here dir t m.params)
    (makeable : Absent here dir t → (∃ key value, Call.put key value ∈ calls) →
      Makeable here dir t) :
    List.Forall₂ (Alike here dir) (course (serve here dir) calls t)
      (course Memory.answer calls m) := by
  induction calls generalizing t m with
  | nil => exact .nil
  | cons call rest ih =>
      have stepped : Stepped here dir call t m := by
        apply call_stepped grants (fits call List.mem_cons_self) agrees
        rintro absent ⟨key, value, rfl⟩
        exact makeable_opened grounded absent (makeable absent ⟨key, value, List.mem_cons_self⟩)
      have after : Grounded here (serve here dir call t).2 := Tree.run_grounded grounded _
      refine .cons ⟨congrArg (Exchange.mk call) stepped.same, stepped.agrees, after⟩ ?_
      apply ih after stepped.grants (fun other among => fits other (List.mem_cons_of_mem call among))
        stepped.agrees
      rintro absent ⟨key, value, among⟩
      have same := stepped.untouched absent
      rw [same] at absent ⊢
      exact makeable absent ⟨key, value, List.mem_cons_of_mem call among⟩

-- Two directories are made for the first write, and the parameter is read back and removed.
theorem made_directory_simulates : Absent [] "data/params" {} ∧
    List.Forall₂ (Alike [] "data/params")
      (course (serve [] "data/params") [.put "k" "v", .get "k", .remove "k"] {})
      (course Memory.answer [.put "k" "v", .get "k", .remove "k"] {}) := by
  have lost : ({} : Tree).way [] "data/params" = .error .missing := by decide +kernel
  have absent : Absent [] "data/params" {} := by
    rw [Absent, lost]
    exact .missing
  have sayable : Sayable (fileOf "data/params" "k") :=
    ⟨by decide +kernel, by decide +kernel, by decide +kernel⟩
  have fits : Fits "data/params" "k" := ⟨by decide, by decide, sayable⟩
  refine ⟨absent, directory_simulates_memory Tree.grounded_empty ⟨rfl, rfl⟩ ?_
    (.absent absent fun _ => rfl) ?_⟩
  · intro call among
    simp only [List.mem_cons, List.not_mem_nil, or_false] at among
    obtain rfl | rfl | rfl := among <;> exact fits
  · intro _ _
    refine ⟨⟨[(["data", "params"], .directory), (["data"], .directory)]⟩, by decide +kernel, .inl ?_⟩
    exact ⟨[], ["data", "params"], [], by decide +kernel, by decide, by decide +kernel⟩

-- A file in the working directory, left there by somebody else.
def neighbor : Tree := ({} : Tree).insert ["k"] (.file (Text.toBytes "old"))

-- A path that goes up again behind a name that is not there: once that directory has been made, the
-- path leads to one that was there all along, and the file in it is read as a parameter.
theorem regained_directory_differs : Grounded [] neighbor ∧ Agrees [] "x/.." neighbor {} ∧
    Fits "x/.." "j" ∧ Fits "x/.." "k" ∧
    (∃ ready, (Files.makeChain (chain "x/..")).run (Tree.answer []) neighbor = (.ok (), ready)) ∧
    ¬List.Forall₂ (Alike [] "x/..")
      (course (serve [] "x/..") [.put "j" "v", .get "k"] neighbor)
      (course Memory.answer [.put "j" "v", .get "k"] {}) := by
  have grounded : Grounded [] (({} : Tree).insert ([] ++ ["k"]) (.file (Text.toBytes "old"))) :=
    Tree.grounded_empty.insert rfl (by decide) _
  have lost : neighbor.way [] "x/.." = .error .missing := by decide +kernel
  have absent : Absent [] "x/.." neighbor := by
    rw [Absent, lost]
    exact .missing
  have sayable : Sayable (fileOf "x/.." "j") ∧ Sayable (fileOf "x/.." "k") := by
    refine ⟨⟨?_, ?_, ?_⟩, ?_, ?_, ?_⟩ <;> decide +kernel
  have found : (serve [] "x/.." (.get "k") (serve [] "x/.." (.put "j" "v") neighbor).2).1 =
      .ok "old" := by
    decide +kernel
  refine ⟨grounded, .absent absent fun _ => rfl, ⟨by decide, by decide, sayable.1⟩,
    ⟨by decide, by decide, sayable.2⟩, ?_, ?_⟩
  · exact ⟨⟨[(["x"], .directory), (["k"], .file (Text.toBytes "old"))]⟩, by decide +kernel⟩
  · intro alike
    cases alike with
    | cons first rest =>
        cases rest with
        | cons second rest =>
            have same := second.answer
            simp only [Exchange.mk.injEq, heq_eq_eq, true_and] at same
            rw [found] at same
            exact absurd same (by decide +kernel)

end LinkedKeys.Store

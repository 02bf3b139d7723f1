import LinkedKeys.Control.Handle
import LinkedKeys.Proofs.Files.Places
import LinkedKeys.Store.Directory

namespace LinkedKeys.Store.Directory

open Files (Tree Entry Cause)
open Files.Tree (Sayable Keeps Grows longestName)
open Script

variable {here : List String} {dir key value : String} {t u ready : Tree} {place : List String}
  {content : List UInt8} {value? : Option String}

-- The store that answers from a tree. How a path is followed depends on where the reader stands.
def serve (here : List String) (dir : String) (c : Call) (t : Tree) : c.Answer × Tree :=
  (answer dir c).run (Tree.answer here) t

theorem plain_name (plain : isPlain key = true) : Files.Path.IsPlain key := by
  simp only [isPlain, Bool.and_eq_true, decide_eq_true_eq, List.all_eq_true] at plain
  obtain ⟨named, every⟩ := plain
  refine ⟨named, fun slash => ?_, ?_, ?_⟩
  · exact absurd (every _ slash) (by decide)
  · rintro rfl
    exact absurd (every '.' (by decide)) (by decide)
  · rintro rfl
    exact absurd (every '.' (by decide)) (by decide)

-- The directory is there, and the path of the file can be said in it.
structure Rooted (here : List String) (dir key : String) (t : Tree) (place : List String) : Prop where
  plain : isPlain key = true
  short : key.utf8ByteSize ≤ longestName
  sayable : Sayable (fileOf dir key)
  leads : t.way here dir = .ok (.directory place)

theorem Rooted.find (rooted : Rooted here dir key t place) : t.find here (fileOf dir key) =
    .ok (.ofEntry (place ++ [key]) (t.at? (place ++ [key]))) := by
  rw [fileOf, Tree.find_join (plain_name rooted.plain) rooted.sayable, rooted.leads]
  exact Tree.enter_plain (plain_name rooted.plain) rooted.short

theorem Rooted.kept (rooted : Rooted here dir key t place) (keeps : Keeps t u) :
    Rooted here dir key u place :=
  ⟨rooted.plain, rooted.short, rooted.sayable, Tree.follow_keeps keeps rooted.leads⟩

-- Where anything is found, or a place for it, the directory is there.
theorem rooted_of_find {target : Tree.Target} (plain : isPlain key = true)
    (short : key.utf8ByteSize ≤ longestName)
    (found : t.find here (fileOf dir key) = .ok target) : ∃ place, Rooted here dir key t place := by
  obtain ⟨sayable, _⟩ := Tree.locate_some (Tree.locate_of_find found)
  rw [fileOf, Tree.find_join (plain_name plain) sayable] at found
  cases leads : t.way here dir with
  | error cause => rw [leads] at found; cases found
  | ok way =>
      rw [leads] at found
      cases way with
      | directory place => exact ⟨place, plain, short, sayable, leads⟩
      | file place content => cases found
      | vacant place => cases found

-- A directory holds the files of all keys, so where it stands is the same for each of them.
theorem rooted_same {other : String} {above : List String} (rooted : Rooted here dir key t place)
    (beside : Rooted here dir other t above) : above = place := by
  have same := beside.leads.symm.trans rooted.leads
  cases same
  rfl

-- A parameter that is not there, or the text that its file holds.
def Filed (here : List String) (dir : String) (t : Tree) (key : String) (value? : Option String) :
    Prop :=
  (Tree.answer here (.read (fileOf dir key)) t).1 =
    match value? with
    | none => .error .missing
    | some value => .ok (Text.toBytes value)

instance : Decidable (Filed here dir t key value?) :=
  inferInstanceAs (Decidable (_ = _))

theorem filed_none (filed : Filed here dir t key value?) : Filed here dir t key none ↔ value? = none := by
  cases value? with
  | none => exact ⟨fun _ => rfl, fun _ => filed⟩
  | some value =>
      refine ⟨fun none => ?_, nofun⟩
      unfold Filed at filed none
      rw [filed] at none
      cases none

theorem serve_get (plain : isPlain key = true) : serve here dir (.get key) t =
    ((serve here dir (.get key) t).1, t) := by
  refine Prod.ext rfl ?_
  simp only [serve, answer, guarded, plain, if_true, get, Script.run, Tree.read_quiet]
  split
  · rfl
  · rfl
  · split <;> rfl

theorem get_filed (plain : isPlain key = true) (filed : Filed here dir t key value?) :
    serve here dir (.get key) t = (.ok (value?.getD ""), t) := by
  unfold Filed at filed
  rw [serve_get plain]
  simp only [serve, answer, guarded, plain, if_true, get, Script.run, filed]
  cases value? with
  | none => rfl
  | some value =>
      simp only [Text.ofBytes?_toBytes]
      rfl

-- A parameter that is neither absent nor a file of text: what stands in its place is no file, or
-- cannot be reached, or holds bytes that are no text.
inductive Unread (here : List String) (dir : String) (t : Tree) (key : String) : Prop where
  | refused {cause : Cause} (other : cause ≠ .missing)
      (answered : (Tree.answer here (.read (fileOf dir key)) t).1 = .error cause)
  | garbled {content : List UInt8} (bad : Text.ofBytes? content = none)
      (answered : (Tree.answer here (.read (fileOf dir key)) t).1 = .ok content)

theorem filed_or_unread (here : List String) (dir : String) (t : Tree) (key : String) :
    (∃ value?, Filed here dir t key value?) ∨ Unread here dir t key := by
  cases answered : (Tree.answer here (.read (fileOf dir key)) t).1 with
  | error cause =>
      by_cases missing : cause = .missing
      · subst missing
        exact .inl ⟨none, answered⟩
      · exact .inr (.refused missing answered)
  | ok content =>
      cases text : Text.ofBytes? content with
      | none => exact .inr (.garbled text answered)
      | some value =>
          refine .inl ⟨some value, ?_⟩
          unfold Filed
          rw [answered, Text.toBytes_ofBytes? text]

theorem get_unread (plain : isPlain key = true) (unread : Unread here dir t key) :
    serve here dir (.get key) t = (.error (.unreadable key (fileOf dir key)), t) := by
  rw [serve_get plain]
  simp only [serve, answer, guarded, plain, if_true, get, Script.run]
  cases unread with
  | refused other answered =>
      rw [answered]
      split
      · rename_i missing
        cases missing
        exact absurd rfl other
      · rfl
      · rename_i found
        cases found
  | garbled bad answered =>
      rw [answered]
      simp only [bad]
      rfl

theorem Rooted.filed (rooted : Rooted here dir key t place) : Filed here dir t key value? ↔
    t.at? (place ++ [key]) = value?.map fun value => .file (Text.toBytes value) := by
  simp only [Filed, Tree.answer, rooted.find]
  cases t.at? (place ++ [key]) with
  | none => cases value? <;> simp [Tree.Target.ofEntry]
  | some entry => cases entry <;> cases value? <;> simp [Tree.Target.ofEntry]

theorem filed_rooted (plain : isPlain key = true) (short : key.utf8ByteSize ≤ longestName)
    (filed : Filed here dir t key (some value)) : ∃ place, Rooted here dir key t place := by
  cases found : t.find here (fileOf dir key) with
  | error cause => simp [Filed, Tree.answer, found] at filed
  | ok target => exact rooted_of_find plain short found

theorem Rooted.removed (rooted : Rooted here dir key t place)
    (filed : Filed here dir t key (some value)) :
    serve here dir (.remove key) t = (.ok (), t.erase (place ++ [key])) := by
  have there := rooted.filed.mp filed
  simp only [serve, answer, guarded, rooted.plain, if_true, remove, Script.run, Tree.answer,
    rooted.find, there]
  rfl

-- A file that is not there is removed by leaving everything as it is.
theorem removed_none (plain : isPlain key = true) (filed : Filed here dir t key none) :
    serve here dir (.remove key) t = (.ok (), t) := by
  simp only [Filed, Tree.answer] at filed
  simp only [serve, answer, guarded, plain, if_true, remove, Script.run, Tree.answer]
  cases found : t.find here (fileOf dir key) with
  | error cause =>
      rw [found] at filed
      cases filed
      rfl
  | ok target =>
      rw [found] at filed
      cases target with
      | directory place => cases filed
      | file place content => cases filed
      | vacant place => rfl

theorem Rooted.erased (rooted : Rooted here dir key t place)
    (filed : Filed here dir t key (some value)) : Keeps t (t.erase (place ++ [key])) :=
  Tree.keeps_erase (by simp [rooted.filed.mp filed])

-- The directory, and those that lead to it from the nearest on.
def chain (dir : String) : List String :=
  if dir = "" then [] else dir :: Files.Path.ancestors dir

theorem sayable_base (plain : isPlain key = true) (based : dir ≠ "")
    (sayable : Sayable (fileOf dir key)) : Sayable dir := by
  obtain ⟨rest, joined⟩ := Files.Path.join_base dir (plain_name plain)
  rw [fileOf, joined] at sayable
  refine ⟨fun nul => sayable.printed ?_, based, Nat.le_trans ?_ sayable.short⟩
  · rw [String.toList_append]
    exact List.mem_append_left _ nul
  · rw [String.utf8ByteSize_append]
    exact Nat.le_add_right _ _

theorem Rooted.chain_there (rooted : Rooted here dir key t place) :
    (Files.makeChain (chain dir)).run (Tree.answer here) t = (.ok (), t) := by
  unfold chain
  split
  · rfl
  · rename_i based
    have sayable := sayable_base rooted.plain based rooted.sayable
    exact Tree.makeChain_there ((Tree.locate_sayable sayable).trans rooted.leads) _

-- The directory once it has been made is where the files of its keys are put.
theorem serve_put (plain : isPlain key = true)
    (made : (Files.makeChain (chain dir)).run (Tree.answer here) t = (.ok (), ready)) :
    serve here dir (.put key value) t =
      match Tree.answer here (.replace (fileOf dir key) (Text.toBytes value)) ready with
      | (.ok (), u) => (.ok (), u)
      | (.error cause, u) => (.error (.unwritable key (fileOf dir key) cause.message), u) := by
  simp only [serve, answer, guarded, plain, if_true, put]
  rw [run_do]
  unfold chain at made
  rw [made]
  simp only [Script.run]
  rcases Tree.answer here (.replace (fileOf dir key) (Text.toBytes value)) ready with ⟨result, u⟩
  cases result <;> rfl

theorem Rooted.replaced (rooted : Rooted here dir key t place)
    (room : t.at? (place ++ [key]) ≠ some .directory) :
    Tree.answer here (.replace (fileOf dir key) content) t =
      (.ok (), t.insert (place ++ [key]) (.file content)) := by
  simp only [Tree.answer, rooted.find]
  cases there : t.at? (place ++ [key]) with
  | none => rfl
  | some entry =>
      cases entry with
      | directory => exact absurd there room
      | file content => rfl

-- The tree with the file of a key holding a value.
def written (t : Tree) (place : List String) (key value : String) : Tree :=
  t.insert (place ++ [key]) (.file (Text.toBytes value))

theorem Rooted.put (rooted : Rooted here dir key t place)
    (room : t.at? (place ++ [key]) ≠ some .directory) :
    serve here dir (.put key value) t = (.ok (), written t place key value) := by
  rw [serve_put rooted.plain rooted.chain_there, rooted.replaced room]
  rfl

theorem written_keeps (room : t.at? (place ++ [key]) ≠ some .directory) (value : String) :
    Keeps t (written t place key value) :=
  Tree.keeps_insert room _

@[simp] theorem at?_written (t : Tree) (place : List String) (key value : String) :
    (written t place key value).at? (place ++ [key]) = some (.file (Text.toBytes value)) :=
  Tree.at?_insert (by simp) _

theorem at?_written_other {other : List String} (t : Tree) (value : String)
    (differ : other ≠ place ++ [key]) : (written t place key value).at? other = t.at? other :=
  Tree.at?_insert_other t _ differ

end LinkedKeys.Store.Directory

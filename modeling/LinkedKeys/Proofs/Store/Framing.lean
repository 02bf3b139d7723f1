import LinkedKeys.Proofs.Control.Finishing
import LinkedKeys.Proofs.Control.Naming
import LinkedKeys.Proofs.Files.Replacing

namespace LinkedKeys

namespace Files

open Script Files.Path

variable {here place : List String} {t u now : Tree} {path : String} {content : List UInt8}

def Call.isRefusal : (c : Call) → c.Answer → Prop
  | .read _, answer => ∃ cause, answer = .error cause
  | .replace _ _, answer => ∃ cause, answer = .error cause
  | .remove _, answer => ∃ cause, answer = .error cause
  | .makeDirectory _, answer => ∃ cause, answer = .error cause
  | .isDirectory _, answer => answer = false
  | .isPresent _, answer => answer = false

-- A call is answered by the tree, or it is refused and leaves the tree as it is.
def Answers (here : List String) (c : Call) (t : Tree) (answer : c.Answer) (u : Tree) : Prop :=
  (answer, u) = Tree.answer here c t ∨ c.isRefusal answer ∧ u = t

-- Replacing a file takes the steps with a draft, any of which can be refused.
def Carried (here : List String) (numbers : List Nat) : (c : Call) → Tree → c.Answer → Tree → Prop
  | .replace path content, t, answer, u => ∃ past,
      Leads (Draft.Meets here) (Draft.replace path content numbers) t past (.done answer) u
  | c, t, answer, u => Answers here c t answer u

-- No file that has the name of a draft is replaced.
def Ordinary : Call → Prop
  | .replace path _ => ∃ base last, path = join base last ∧ IsPlain last ∧
      ∀ number, last ≠ Draft.nameOf number
  | _ => True

-- However calls are carried out, each comes to what the tree answers or to nothing.
def Sound (here : List String) (serves : (c : Call) → Tree → c.Answer → Tree → Prop) : Prop :=
  ∀ c t answer u, Ordinary c → serves c t answer u → Answers here c t answer u

theorem answer_sound (here : List String) :
    Sound here fun c t answer u => (answer, u) = Tree.answer here c t :=
  fun _ _ _ _ _ same => .inl same

theorem carried_sound (here : List String) (numbers : List Nat) : Sound here (Carried here numbers) := by
  intro c t answer u ordinary carried
  cases c with
  | replace path content =>
      obtain ⟨base, last, rfl, plain, differ⟩ := ordinary
      obtain ⟨past, course⟩ := carried
      exact (Draft.replace_replaced plain differ numbers []).ending course
  | read path => exact carried
  | remove path => exact carried
  | makeDirectory path => exact carried
  | isDirectory path => exact carried
  | isPresent path => exact carried

theorem read_answers {answer : Except Cause (List UInt8)} (answers : Answers here (.read path) t answer u) :
    u = t := by
  rcases answers with taken | ⟨_, same⟩
  · rw [← Tree.read_quiet here path t, ← taken]
  · exact same

theorem isDirectory_answers {answer : Bool} (answers : Answers here (.isDirectory path) t answer u) :
    u = t := by
  rcases answers with taken | ⟨_, same⟩
  · rw [← (Tree.isDirectory_answer t here path).1, ← taken]
  · exact same

theorem makeDirectory_answers {answer : Except Cause Unit}
    (answers : Answers here (.makeDirectory path) t answer u) :
    (∃ place, t.locate here path = .ok (.vacant place) ∧ u = t.insert place .directory) ∨ u = t := by
  rcases answers with taken | ⟨_, same⟩
  · rcases Tree.made_cases t here path with ⟨place, vacant, made⟩ | ⟨cause, refused⟩
    · rw [made] at taken
      exact .inl ⟨place, vacant, congrArg Prod.snd taken⟩
    · rw [refused] at taken
      exact .inr (congrArg Prod.snd taken)
  · exact .inr same

theorem remove_answers {answer : Except Cause Unit} (answers : Answers here (.remove path) t answer u) :
    (∃ place old, t.find here path = .ok (.file place old) ∧ answer = .ok () ∧ u = t.erase place) ∨
      (∃ cause, answer = .error cause) ∧ u = t := by
  rcases answers with taken | refused
  · simp only [Tree.answer] at taken
    split at taken <;> cases taken
    · exact .inr ⟨⟨_, rfl⟩, rfl⟩
    · exact .inr ⟨⟨_, rfl⟩, rfl⟩
    · exact .inr ⟨⟨_, rfl⟩, rfl⟩
    · rename_i place old found
      exact .inl ⟨place, old, found, rfl, rfl⟩
  · exact .inr refused

theorem replace_answers {answer : Except Cause Unit} (answers : Answers here (.replace path content) t answer u) :
    (∃ place, (t.find here path = .ok (.vacant place) ∨ ∃ old, t.find here path = .ok (.file place old)) ∧
      answer = .ok () ∧ u = t.insert place (.file content)) ∨ (∃ cause, answer = .error cause) ∧ u = t := by
  rcases answers with taken | refused
  · simp only [Tree.answer] at taken
    split at taken <;> cases taken
    · exact .inr ⟨⟨_, rfl⟩, rfl⟩
    · exact .inr ⟨⟨_, rfl⟩, rfl⟩
    · rename_i place found
      exact .inl ⟨place, .inl found, rfl, rfl⟩
    · rename_i place old found
      exact .inl ⟨place, .inr ⟨old, found⟩, rfl, rfl⟩
  · exact .inr refused

-- Nothing has changed but for directories that were made, each of them at one of the paths.
structure Made (here : List String) (paths : List String) (t u : Tree) : Prop where
  grows : Tree.Grows t u
  led : Tree.MadeBy here paths t u

theorem made_refl (here paths : List String) (t : Tree) : Made here paths t t :=
  ⟨Tree.grows_refl t, fun _ new => absurd rfl new⟩

theorem made_step {paths : List String} (made : Made here paths t now) (among : path ∈ paths)
    {answer : Except Cause Unit} (answers : Answers here (.makeDirectory path) now answer u) :
    Made here paths t u := by
  rcases makeDirectory_answers answers with ⟨place, vacant, rfl⟩ | rfl
  · refine ⟨Tree.grows_trans made.grows ?_, ?_⟩
    · exact Tree.grows_made (Tree.locate_made vacant).1 (Tree.vacant_below vacant)
    · intro other new
      obtain ⟨by_path, within, leads⟩ := Tree.madeBy_made made.led vacant other new
      rcases List.mem_cons.mp within with rfl | within
      · exact ⟨_, among, leads⟩
      · exact ⟨by_path, within, leads⟩
  · exact made

section

variable {serves : (c : Call) → Tree → c.Answer → Tree → Prop} (sound : Sound here serves)
  {all paths : List String} {past : List (Exchange Call Call.Answer)}

include sound

theorem acceptDirectory_made (made : Made here all t now) (cause : Cause) :
    (acceptDirectory path cause).Throughout serves (fun _ _ => True) (fun _ _ u => Made here all t u)
      past now := by
  refine ⟨trivial, ?_⟩
  intro is u served
  obtain rfl := isDirectory_answers (sound _ _ _ _ trivial served)
  exact made

theorem makeChain_made (among : ∀ path ∈ paths, path ∈ all) (made : Made here all t now) :
    (makeChain paths).Throughout serves (fun _ _ => True) (fun _ _ u => Made here all t u) past now := by
  induction paths generalizing now past with
  | nil => exact made
  | cons path above ih =>
      obtain ⟨first, later⟩ := List.forall_mem_cons.mp among
      refine throughout_do.mpr ⟨trivial, ?_⟩
      intro answer v served
      have once := made_step made first (sound _ _ _ _ trivial served)
      cases answer with
      | ok done => exact once
      | error cause =>
          cases cause with
          | missing =>
              refine throughout_do.mpr ((ih later once).mono_end ?_)
              intro chained past w there
              cases chained with
              | error cause => exact there
              | ok done =>
                  refine throughout_do.mpr ⟨trivial, ?_⟩
                  intro answer x served
                  have twice := made_step there first (sound _ _ _ _ trivial served)
                  cases answer with
                  | ok done => exact twice
                  | error cause => exact acceptDirectory_made sound twice cause
          | _ => exact acceptDirectory_made sound once _

end

end Files

namespace Store.Directory

open Files (Tree Made Sound Carried)
open Files.Tree (Grows)
open Script

variable {here place above : List String} {dir key value : String} {t u ready : Tree} {c : Char}

-- One or more letters and digits of English, and underscores.
structure IsKey (key : String) : Prop where
  named : key ≠ ""
  chars : ∀ c ∈ key.toList, 'A' ≤ c ∧ c ≤ 'Z' ∨ 'a' ≤ c ∧ c ≤ 'z' ∨ '0' ≤ c ∧ c ≤ '9' ∨ c = '_'

theorem keyChar_iff (c : Char) : (c.isAlphanum || c == '_') = true ↔
    'A' ≤ c ∧ c ≤ 'Z' ∨ 'a' ≤ c ∧ c ≤ 'z' ∨ '0' ≤ c ∧ c ≤ '9' ∨ c = '_' := by
  simp only [Control.alphanum_ranges, Bool.or_eq_true, Bool.and_eq_true, decide_eq_true_eq, beq_iff_eq,
    Char.le_def, ge_iff_le]
  tauto

theorem isPlain_iff (key : String) : isPlain key = true ↔ IsKey key := by
  simp only [isPlain, Bool.and_eq_true, decide_eq_true_eq, List.all_eq_true, keyChar_iff]
  exact ⟨fun both => ⟨both.1, both.2⟩, fun is => ⟨is.named, is.chars⟩⟩

-- A draft has a dot in front.
theorem plain_undrafted (plain : isPlain key = true) (number : Nat) : key ≠ Files.Draft.nameOf number := by
  rintro rfl
  have first : '.' ∈ (Files.Draft.nameOf number).toList := by simp [Files.Draft.nameOf]
  simp only [isPlain, Bool.and_eq_true, List.all_eq_true] at plain
  exact absurd (plain.2 '.' first) (by decide)

theorem plain_ordinary (plain : isPlain key = true) (content : List UInt8) :
    Files.Ordinary (.replace (fileOf dir key) content) :=
  ⟨dir, key, rfl, plain_name plain, plain_undrafted plain⟩

-- What was made of a place that is not as it was, by the call that did so.
inductive Touched (here : List String) (dir : String) (t u : Tree) (place : List String) : Call → Prop where
  | made {key value path : String} (new : t.at? place = none) (among : path ∈ chain dir)
      (leads : u.locate here path = .ok (.directory place)) : Touched here dir t u place (.put key value)
  | written {key value : String} {above : List String} (leads : u.way here dir = .ok (.directory above))
      (own : place = above ++ [key]) (now : u.at? place = some (.file (Text.toBytes value))) :
      Touched here dir t u place (.put key value)
  | removed {key : String} {above : List String} (leads : u.way here dir = .ok (.directory above))
      (own : place = above ++ [key]) (now : u.at? place = none) :
      Touched here dir t u place (.remove key)

-- How far a call reaches, whatever its answer is.
structure Confined (here : List String) (dir : String) (call : Call) (t : Tree) (answer : call.Answer)
    (u : Tree) : Prop where
  bad : failure? ⟨call, answer⟩ = some (.badKey call.key) ↔ ¬IsKey call.key
  untouched : ¬IsKey call.key → u = t
  reach : ∀ place, u.at? place ≠ t.at? place → Touched here dir t u place call
  failed : failure? ⟨call, answer⟩ ≠ none → Grows t u
  quiet : failure? ⟨call, answer⟩ ≠ none → (∀ key value, call ≠ .put key value) → u = t
  read : ∀ key, call = .get key → u = t

theorem bad_iff {call : Call} {answer : call.Answer} (is : IsKey call.key)
    (other : failure? ⟨call, answer⟩ ≠ some (.badKey call.key)) :
    failure? ⟨call, answer⟩ = some (.badKey call.key) ↔ ¬IsKey call.key :=
  ⟨fun same => absurd same other, fun bad => absurd is bad⟩

theorem still_confined {call : Call} {answer : call.Answer}
    (bad : failure? ⟨call, answer⟩ = some (.badKey call.key) ↔ ¬IsKey call.key) :
    Confined here dir call t answer t where
  bad := bad
  untouched _ := rfl
  reach _ differ := absurd rfl differ
  failed _ := Tree.grows_refl t
  quiet _ _ := rfl
  read _ _ := rfl

theorem grown_confined {answer : Except Failure Unit} (is : IsKey key) (made : Made here (chain dir) t u)
    (other : failure? ⟨.put key value, answer⟩ ≠ some (.badKey key)) :
    Confined here dir (.put key value) t answer u where
  bad := bad_iff is other
  untouched bad := absurd is bad
  reach place differ := by
    obtain ⟨path, among, leads⟩ := made.led place differ
    rcases made.grows place with same | ⟨new, _⟩
    · exact absurd same differ
    · exact .made new among leads
  failed _ := made.grows
  quiet _ other := absurd rfl (other key value)
  read _ other := nomatch other

theorem written_confined (is : IsKey key) (made : Made here (chain dir) t ready)
    (leads : ready.way here dir = .ok (.directory above))
    (room : ready.at? (above ++ [key]) ≠ some .directory) :
    Confined here dir (.put key value) t (.ok ()) (written ready above key value) where
  bad := bad_iff is nofun
  untouched bad := absurd is bad
  reach place differ := by
    have keeps := written_keeps room value
    by_cases own : place = above ++ [key]
    · exact .written (Tree.follow_keeps keeps leads) own (own ▸ at?_written ready above key value)
    · rw [at?_written_other ready value own] at differ
      obtain ⟨path, among, there⟩ := made.led place differ
      rcases made.grows place with same | ⟨new, _⟩
      · exact absurd same differ
      · exact .made new among (Tree.locate_keeps keeps there)
  failed failed := absurd rfl failed
  quiet _ other := absurd rfl (other key value)
  read _ other := nomatch other

theorem removed_confined (is : IsKey key) (leads : t.way here dir = .ok (.directory above))
    (room : t.at? (above ++ [key]) ≠ some .directory) :
    Confined here dir (.remove key) t (.ok ()) (t.erase (above ++ [key])) where
  bad := bad_iff is nofun
  untouched bad := absurd is bad
  reach place differ := by
    by_cases own : place = above ++ [key]
    · subst own
      exact .removed (Tree.follow_keeps (Tree.keeps_erase room) leads) rfl (Tree.at?_erase (by simp))
    · exact absurd (Tree.at?_erase_other t own) differ
  failed failed := absurd rfl failed
  quiet failed _ := absurd rfl failed
  read _ other := nomatch other

section

variable {serves : (c : Files.Call) → Tree → c.Answer → Tree → Prop}
  {past : List (Exchange Files.Call Files.Call.Answer)}

theorem throughout_guarded {α : Type} {script : Files.Script (Except Failure α)}
    {after : Except Failure α → List (Exchange Files.Call Files.Call.Answer) → Tree → Prop}
    (bad : ¬IsKey key → after (.error (.badKey key)) past t)
    (plain : isPlain key = true → script.Throughout serves (fun _ _ => True) after past t) :
    (guarded key script).Throughout serves (fun _ _ => True) after past t := by
  by_cases is : isPlain key = true
  · rw [guarded, if_pos is]
    exact plain is
  · rw [guarded, if_neg is]
    exact bad (mt (isPlain_iff key).mpr is)

variable (sound : Sound here serves)

include sound

theorem get_confined (plain : isPlain key = true) : (get dir key).Throughout serves (fun _ _ => True)
    (fun answer _ u => Confined here dir (.get key) t answer u) past t := by
  have is := (isPlain_iff key).mp plain
  refine ⟨trivial, ?_⟩
  intro answer u served
  obtain rfl := Files.read_answers (sound _ _ _ _ trivial served)
  cases answer with
  | error cause =>
      cases cause with
      | missing => exact still_confined (bad_iff is nofun)
      | _ => exact still_confined (bad_iff is nofun)
  | ok content =>
      dsimp only
      split
      · exact still_confined (bad_iff is nofun)
      · exact still_confined (bad_iff is nofun)

theorem remove_confined (plain : isPlain key = true) : (remove dir key).Throughout serves (fun _ _ => True)
    (fun answer _ u => Confined here dir (.remove key) t answer u) past t := by
  have is := (isPlain_iff key).mp plain
  refine ⟨trivial, ?_⟩
  intro answer u served
  rcases Files.remove_answers (sound _ _ _ _ trivial served) with
    ⟨place, old, found, rfl, rfl⟩ | ⟨⟨cause, rfl⟩, rfl⟩
  · obtain ⟨above, leads, same⟩ := Tree.find_named (plain_name plain) found
    obtain ⟨there, rfl⟩ := Tree.ofEntry_file same
    exact removed_confined is leads (by simp [there])
  · cases cause with
    | missing => exact still_confined (bad_iff is nofun)
    | _ => exact still_confined (bad_iff is nofun)

theorem put_confined (plain : isPlain key = true) : (put dir key value).Throughout serves (fun _ _ => True)
    (fun answer _ u => Confined here dir (.put key value) t answer u) past t := by
  have is := (isPlain_iff key).mp plain
  refine throughout_do.mpr
    ((Files.makeChain_made sound (fun _ => id) (Files.made_refl here (chain dir) t)).mono_end ?_)
  intro chained past ready made
  cases chained with
  | error cause => exact grown_confined is made nofun
  | ok done =>
      refine ⟨trivial, ?_⟩
      intro answer u served
      rcases Files.replace_answers (sound _ _ _ _ (plain_ordinary plain _) served) with
        ⟨place, found, rfl, rfl⟩ | ⟨⟨cause, rfl⟩, rfl⟩
      · have own : ∃ above, ready.way here dir = .ok (.directory above) ∧ place = above ++ [key] ∧
            ready.at? (above ++ [key]) ≠ some .directory := by
          rcases found with found | ⟨old, found⟩
          · obtain ⟨above, leads, same⟩ := Tree.find_named (plain_name plain) found
            obtain ⟨none, rfl⟩ := Tree.ofEntry_vacant same
            exact ⟨above, leads, rfl, by simp [none]⟩
          · obtain ⟨above, leads, same⟩ := Tree.find_named (plain_name plain) found
            obtain ⟨there, rfl⟩ := Tree.ofEntry_file same
            exact ⟨above, leads, rfl, by simp [there]⟩
        obtain ⟨above, leads, rfl, room⟩ := own
        exact written_confined is made leads room
      · exact grown_confined is made nofun

theorem answer_confined (dir : String) (call : Call) (t : Tree) :
    (answer dir call).Throughout serves (fun _ _ => True)
      (fun answer _ u => Confined here dir call t answer u) [] t := by
  have refused : ∀ {call : Call} {answer : call.Answer}, ¬IsKey call.key →
      failure? ⟨call, answer⟩ = some (.badKey call.key) → Confined here dir call t answer t :=
    fun bad refused => still_confined ⟨fun _ => bad, fun _ => refused⟩
  cases call with
  | get key => exact throughout_guarded (fun bad => refused bad rfl) (get_confined sound)
  | put key value => exact throughout_guarded (fun bad => refused bad rfl) (put_confined sound)
  | remove key => exact throughout_guarded (fun bad => refused bad rfl) (remove_confined sound)

end

-- Whether the tree answers every file call, or the steps of each are taken or refused in any way.
theorem call_confined (here : List String) (dir : String) (call : Call) (t : Tree) :
    Confined here dir call t (serve here dir call t).1 (serve here dir call t).2 ∧
      ∀ numbers past reply u, Leads (Carried here numbers) (answer dir call) t past (.done reply) u →
        Confined here dir call t reply u := by
  constructor
  · have course : ∃ past, Leads (fun c t reply u => (reply, u) = Tree.answer here c t) (answer dir call) t
        past (.done ((answer dir call).run (Tree.answer here) t).1)
          ((answer dir call).run (Tree.answer here) t).2 := run_leads id (fun _ _ => rfl) _ _
    obtain ⟨past, course⟩ := course
    exact (answer_confined (Files.answer_sound here) dir call t).ending course
  · intro numbers past reply u course
    exact (answer_confined (Files.carried_sound here numbers) dir call t).ending course

-- A directory with the file of one key.
def stored : Tree := .plant {} [] "d/k" (.file [0])

-- The draft cannot take the place of the file: it is discarded, and the old content is still there.
theorem refused_rename_confined : ∃ past cause,
    Leads (Carried [] [7]) (answer "d" (.put "k" "new")) stored past
        (.done (.error (.unwritable "k" (fileOf "d" "k") cause))) stored ∧
      Confined [] "d" (.put "k" "new") stored (.error (.unwritable "k" (fileOf "d" "k") cause)) stored := by
  let draft := Files.Draft.beside (fileOf "d" "k") (Files.Draft.nameOf 7)
  let drafted (content : List UInt8) : Tree := stored.insert ["d", ".tmp7"] (.file content)
  have met : ∀ c t answer u, Tree.answerDraft [] c t = (answer, u) → Files.Draft.Meets [] c t answer u := by
    intro c t answer u same
    have taken : Files.Draft.Meets [] c t _ _ := .taken c t
    rwa [same] at taken
  have created : Files.Draft.Meets [] (.create draft) stored (.ok ()) (drafted []) :=
    met _ _ _ _ (by decide +kernel)
  have filled : Files.Draft.Meets [] (.fill draft (Text.toBytes "new")) (drafted []) (.ok ())
      (drafted (Text.toBytes "new")) := met _ _ _ _ (by decide +kernel)
  have refused : Files.Draft.Meets [] (.rename draft (fileOf "d" "k")) (drafted (Text.toBytes "new"))
      (.error (.other "Permission denied")) (drafted (Text.toBytes "new")) := .refused (by simp) _ _
  have discarded : Files.Draft.Meets [] (.discard draft) (drafted (Text.toBytes "new")) (.ok ()) stored :=
    met _ _ _ _ (by decide +kernel)
  have replaced : Carried [] [7] (.replace (fileOf "d" "k") (Text.toBytes "new")) stored
      (.error (.other "Permission denied")) stored :=
    ⟨_, .ask created (.ask filled (.ask refused (.ask discarded .here)))⟩
  have present : Files.Answers [] (.makeDirectory "d") stored (.error .present) stored :=
    .inl (by decide +kernel)
  have is : Files.Answers [] (.isDirectory "d") stored true stored := .inl (by decide +kernel)
  have course : Leads (Carried [] [7]) (answer "d" (.put "k" "new")) stored _
      (.done (.error (.unwritable "k" (fileOf "d" "k") _))) stored :=
    .ask present (.ask is (.ask replaced .here))
  exact ⟨_, _, course, (call_confined [] "d" (.put "k" "new") stored).2 _ _ _ _ course⟩

end Store.Directory

end LinkedKeys

import LinkedKeys.Files.Tree
import LinkedKeys.Proofs.Runs
import LinkedKeys.Proofs.Text.Lines
import Mathlib.Data.List.Induction

namespace LinkedKeys

namespace Files

namespace Path

-- A name that a path can end in, and that leads one entry further wherever it stands.
structure IsPlain (name : String) : Prop where
  named : name ≠ ""
  whole : '/' ∉ name.toList
  here : name ≠ "."
  up : name ≠ ".."

variable {base name : String}

theorem plain_relative (plain : IsPlain name) : isAbsolute name = false := by
  unfold isAbsolute
  rw [decide_eq_false_iff_not]
  intro first
  exact plain.whole (List.mem_of_head? first)

-- What is joined to a base stands behind it, with a separator in between where it lacks one.
theorem join_plain (plain : IsPlain name) (based : base ≠ "") :
    ∃ front, (base.toList = front ++ ['/'] ∨ base.toList = front) ∧
      (join base name).toList = front ++ '/' :: name.toList := by
  unfold join
  rw [if_neg (by simp [plain_relative plain, based])]
  split
  · rename_i closed
    simp only [endsInSeparator, decide_eq_true_eq] at closed
    obtain ⟨front, cut⟩ := List.getLast?_eq_some_iff.mp closed
    exact ⟨front, .inl cut, by simp [cut]⟩
  · exact ⟨base.toList, .inr rfl, by simp⟩

theorem join_empty (name : String) : join "" name = name := by
  simp [join]

theorem join_base (base : String) (plain : IsPlain name) : ∃ rest, join base name = base ++ rest := by
  by_cases bare : base = ""
  · exact ⟨name, by rw [bare, join_empty, String.empty_append]⟩
  · unfold join
    rw [if_neg (by simp [plain_relative plain, bare])]
    split
    · exact ⟨name, rfl⟩
    · exact ⟨"/" ++ name, String.append_assoc⟩

theorem names_join (plain : IsPlain name) : names (join base name) = names base ++ [name] := by
  have alone : (Text.pieces '/' name.toList).filter (· ≠ []) = [name.toList] := by
    have full : name.toList ≠ [] := by simpa using plain.named
    rw [Text.pieces_whole plain.whole]
    exact List.filter_eq_self.mpr (by simpa using full)
  unfold names
  by_cases bare : base = ""
  · subst bare
    rw [join_empty, alone]
    simp [Text.pieces]
  · obtain ⟨front, base_is, join_is⟩ := join_plain plain bare
    have same : (Text.pieces '/' base.toList).filter (· ≠ []) =
        (Text.pieces '/' front).filter (· ≠ []) := by
      rcases base_is with closed | closed
      · rw [closed, Text.pieces_append, List.filter_append]
        simp [Text.pieces]
      · rw [closed]
    rw [join_is, Text.pieces_append, List.filter_append, alone, same]
    simp

theorem isAbsolute_join (plain : IsPlain name) : isAbsolute (join base name) = isAbsolute base := by
  by_cases bare : base = ""
  · subst bare
    rw [join_empty, plain_relative plain]
    rfl
  · unfold join
    rw [if_neg (by simp [plain_relative plain, bare])]
    have full : base.toList ≠ [] := by simpa using bare
    obtain ⟨c, rest, cut⟩ := List.exists_cons_of_ne_nil full
    split <;> simp [isAbsolute, cut]

theorem endsInSeparator_join (plain : IsPlain name) : endsInSeparator (join base name) = false := by
  have full : name.toList ≠ [] := by simpa using plain.named
  have last : (join base name).toList.getLast? = name.toList.getLast? := by
    by_cases bare : base = ""
    · rw [bare, join_empty]
    · obtain ⟨front, _, join_is⟩ := join_plain plain bare
      obtain ⟨c, rest, cut⟩ := List.exists_cons_of_ne_nil full
      rw [join_is, cut, List.getLast?_append, List.getLast?_cons_cons, List.getLast?_cons,
        Option.some_or]
  unfold endsInSeparator
  rw [last, decide_eq_false_iff_not]
  intro closed
  exact plain.whole (List.mem_of_getLast? closed)

end Path

namespace Tree

open Files.Path

variable {t u v : Tree} {here place : List String} {names : List String} {name path : String}
  {found : Except Cause Target}

deriving instance DecidableEq for Target

def Target.ofEntry (place : List String) : Option Entry → Target
  | some .directory => .directory place
  | some (.file content) => .file place content
  | none => .vacant place

-- What one name leads to in a directory.
def enter (t : Tree) (here : List String) (name : String) : Except Cause Target :=
  if name = "." then .ok (.directory here)
  else if name = ".." then .ok (.directory here.dropLast)
  else if longestName < name.utf8ByteSize then .error .nameTooLong
  else .ok (.ofEntry (here ++ [name]) (t.at? (here ++ [name])))

-- What one name leads to from wherever the names before it have led.
def advance (t : Tree) : Except Cause Target → String → Except Cause Target
  | .ok (.directory here), name => t.enter here name
  | .ok (.file _ _), _ => .error .notDirectory
  | .ok (.vacant _), _ => .error .missing
  | .error cause, _ => .error cause

theorem advance_error (t : Tree) (cause : Cause) (names : List String) :
    names.foldl t.advance (.error cause) = .error cause := by
  induction names with
  | nil => rfl
  | cons name rest ih => exact ih

-- A path is followed one name at a time.
theorem follow_eq : t.follow here names = names.foldl t.advance (.ok (.directory here)) := by
  induction names generalizing here with
  | nil => rfl
  | cons name rest ih =>
      rw [List.foldl_cons, follow.eq_def]
      simp only [advance, enter]
      split
      · exact ih
      · split
        · exact ih
        · split
          · exact (advance_error t _ rest).symm
          · cases t.at? (here ++ [name]) with
            | none =>
                cases rest with
                | nil => rfl
                | cons next rest => exact (advance_error t _ rest).symm
            | some entry =>
                cases entry with
                | directory => exact ih
                | file content =>
                    cases rest with
                    | nil => rfl
                    | cons next rest => exact (advance_error t _ rest).symm

theorem follow_snoc : t.follow here (names ++ [name]) = t.advance (t.follow here names) name := by
  rw [follow_eq, follow_eq, List.foldl_append]
  rfl

theorem advance_directory (leads : t.advance found name = .ok (.directory place)) :
    ∃ above, found = .ok (.directory above) ∧ t.enter above name = .ok (.directory place) := by
  cases found with
  | error cause => cases leads
  | ok target =>
      cases target with
      | directory above => exact ⟨above, rfl, leads⟩
      | file place content => cases leads
      | vacant place => cases leads

theorem enter_plain (plain : IsPlain name) (short : name.utf8ByteSize ≤ longestName) :
    t.enter here name = .ok (.ofEntry (here ++ [name]) (t.at? (here ++ [name]))) := by
  unfold enter
  rw [if_neg plain.here, if_neg plain.up, if_neg (Nat.not_lt.mpr short)]

-- Every directory is still one.
def Keeps (t u : Tree) : Prop := ∀ place, t.at? place = some .directory → u.at? place = some .directory

theorem keeps_trans (first : Keeps t u) (second : Keeps u v) : Keeps t v :=
  fun place there => second place (first place there)

theorem keeps_insert (room : t.at? place ≠ some .directory) (entry : Entry) :
    Keeps t (t.insert place entry) := by
  intro other there
  have differ : other ≠ place := by
    rintro rfl
    exact room there
  rwa [at?_insert_other t entry differ]

theorem keeps_erase (room : t.at? place ≠ some .directory) : Keeps t (t.erase place) := by
  intro other there
  have differ : other ≠ place := by
    rintro rfl
    exact room there
  rwa [at?_erase_other t differ]

theorem enter_keeps (keeps : Keeps t u) (leads : t.enter here name = .ok (.directory place)) :
    u.enter here name = .ok (.directory place) := by
  unfold enter at leads ⊢
  split at leads
  · rename_i same
    rwa [if_pos same]
  · rename_i below
    rw [if_neg below]
    split at leads
    · rename_i up
      rwa [if_pos up]
    · rename_i beside
      rw [if_neg beside]
      split at leads
      · cases leads
      · rename_i short
        rw [if_neg short]
        cases entry : t.at? (here ++ [name]) with
        | none => rw [entry] at leads; cases leads
        | some there =>
            cases there with
            | directory => rwa [keeps _ entry, ← entry]
            | file content => rw [entry] at leads; cases leads

-- What is put at a vacant place is what its name leads to from then on.
theorem enter_vacant (leads : t.enter here name = .ok (.vacant place)) : t.at? place = none ∧
    ∀ entry, (t.insert place entry).enter here name = .ok (.ofEntry place (some entry)) := by
  unfold enter at leads ⊢
  split at leads
  · cases leads
  · rename_i below
    split at leads
    · cases leads
    · rename_i beside
      split at leads
      · cases leads
      · rename_i short
        cases entry : t.at? (here ++ [name]) with
        | none =>
            rw [entry] at leads
            cases leads
            refine ⟨entry, fun put => ?_⟩
            rw [if_neg below, if_neg beside, if_neg short, at?_insert (by simp)]
        | some there => rw [entry] at leads; cases there <;> cases leads

-- Where a path to a directory leads is kept with the directories.
theorem follow_keeps (keeps : Keeps t u) (leads : t.follow here names = .ok (.directory place)) :
    u.follow here names = .ok (.directory place) := by
  induction names using List.reverseRecOn generalizing place with
  | nil => exact leads
  | append_singleton front last ih =>
      rw [follow_snoc] at leads ⊢
      obtain ⟨above, first, second⟩ := advance_directory leads
      rw [ih first]
      exact enter_keeps keeps second

-- A path that can be handed to a file system at all.
structure Sayable (path : String) : Prop where
  printed : Char.ofNat 0 ∉ path.toList
  named : path ≠ ""
  short : path.utf8ByteSize ≤ longestPath

def way (t : Tree) (here : List String) (path : String) : Except Cause Target :=
  t.follow (if isAbsolute path then [] else here) (Path.names path)

theorem locate_sayable (sayable : Sayable path) : t.locate here path = t.way here path := by
  unfold locate
  rw [if_neg (by simpa using sayable.printed), if_neg sayable.named,
    if_neg (Nat.not_lt.mpr sayable.short)]
  rfl

theorem locate_some {target : Target} (leads : t.locate here path = .ok target) :
    Sayable path ∧ t.way here path = .ok target := by
  unfold locate at leads
  split at leads
  · cases leads
  · rename_i printed
    split at leads
    · cases leads
    · rename_i named
      split at leads
      · cases leads
      · rename_i short
        exact ⟨⟨by simpa using printed, named, Nat.not_lt.mp short⟩, leads⟩

theorem locate_of_find {target : Target} (found : t.find here path = .ok target) :
    t.locate here path = .ok target := by
  unfold find at found
  cases leads : t.locate here path with
  | error cause => rw [leads] at found; cases found
  | ok other =>
      rw [leads] at found
      cases other with
      | directory place => exact found
      | vacant place => exact found
      | file place content =>
          simp only at found
          split at found
          · cases found
          · exact found

theorem find_directory : t.find here path = .ok (.directory place) ↔
    t.locate here path = .ok (.directory place) := by
  unfold find
  cases t.locate here path with
  | error cause => exact Iff.rfl
  | ok target =>
      cases target with
      | directory place => exact Iff.rfl
      | vacant place => exact Iff.rfl
      | file place content =>
          simp only
          split <;> simp

-- A vacant place is one name below a directory, so what is put there is where the path leads.
theorem locate_put (vacant : t.locate here path = .ok (.vacant place)) : t.at? place = none ∧
    ∀ entry, (t.insert place entry).locate here path = .ok (.ofEntry place (some entry)) := by
  obtain ⟨sayable, leads⟩ := locate_some vacant
  simp only [locate_sayable sayable]
  unfold way at leads ⊢
  generalize (if isAbsolute path then [] else here) = start at leads ⊢
  rcases List.eq_nil_or_concat (Path.names path) with none | ⟨front, last, cut⟩
  · rw [none] at leads
    cases leads
  · simp only [cut, List.concat_eq_append, follow_snoc] at leads ⊢
    cases first : t.follow start front with
    | error cause => rw [first] at leads; cases leads
    | ok target =>
        rw [first] at leads
        cases target with
        | directory above =>
            obtain ⟨none, put⟩ := enter_vacant leads
            refine ⟨none, fun entry => ?_⟩
            rw [follow_keeps (keeps_insert (by simp [none]) entry) first]
            exact put entry
        | file place content => cases leads
        | vacant place => cases leads

theorem locate_made (vacant : t.locate here path = .ok (.vacant place)) :
    t.at? place = none ∧ (t.insert place .directory).locate here path = .ok (.directory place) :=
  ⟨(locate_put vacant).1, (locate_put vacant).2 .directory⟩

-- A path with one plain name more, of which the file system is told as a whole.
theorem find_join {base : String} (plain : IsPlain name) (sayable : Sayable (join base name)) :
    t.find here (join base name) = t.advance (t.way here base) name := by
  have leads : t.locate here (join base name) = t.advance (t.way here base) name := by
    rw [locate_sayable sayable, way, isAbsolute_join plain, names_join plain, follow_snoc]
    rfl
  unfold find
  rw [endsInSeparator_join plain, leads]
  split
  · rename_i place content there
    exact there.symm
  · rfl

theorem read_quiet (here : List String) (path : String) (t : Tree) :
    (answer here (.read path) t).2 = t := by
  simp only [answer]
  split <;> rfl

theorem isPresent_quiet (here : List String) (path : String) (t : Tree) :
    (answer here (.isPresent path) t).2 = t := by
  simp only [answer]
  split <;> rfl

-- The tree is as it was, but for directories that were made.
def Grows (t u : Tree) : Prop :=
  ∀ place, u.at? place = t.at? place ∨ t.at? place = none ∧ u.at? place = some .directory

theorem grows_refl (t : Tree) : Grows t t := fun _ => .inl rfl

theorem grows_trans (first : Grows t u) (second : Grows u v) : Grows t v := by
  intro place
  rcases first place with same | ⟨none, made⟩
  · rcases second place with still | ⟨none, made⟩
    · exact .inl (still.trans same)
    · exact .inr ⟨same.symm.trans none, made⟩
  · rcases second place with still | ⟨other, _⟩
    · exact .inr ⟨none, still.trans made⟩
    · rw [made] at other
      cases other

theorem vacant_below (vacant : t.locate here path = .ok (.vacant place)) : place ≠ [] := by
  rintro rfl
  have none := (locate_made vacant).1
  simp [at?] at none

theorem grows_made (none : t.at? place = none) (below : place ≠ []) :
    Grows t (t.insert place .directory) := by
  intro other
  by_cases same : other = place
  · subst same
    exact .inr ⟨none, at?_insert below .directory⟩
  · exact .inl (at?_insert_other t .directory same)

-- A directory is made at a vacant place, and nothing is changed otherwise.
theorem made_cases (t : Tree) (here : List String) (path : String) :
    (∃ place, t.locate here path = .ok (.vacant place) ∧
      answer here (.makeDirectory path) t = (.ok (), t.insert place .directory)) ∨
    ∃ cause, answer here (.makeDirectory path) t = (.error cause, t) := by
  simp only [answer]
  cases t.locate here path with
  | error cause => exact .inr ⟨cause, rfl⟩
  | ok target =>
      cases target with
      | directory place => exact .inr ⟨_, rfl⟩
      | file place content => exact .inr ⟨_, rfl⟩
      | vacant place => exact .inl ⟨place, rfl, rfl⟩

theorem isDirectory_answer (t : Tree) (here : List String) (path : String) :
    (answer here (.isDirectory path) t).2 = t ∧
    ((answer here (.isDirectory path) t).1 = true ↔
      ∃ place, t.locate here path = .ok (.directory place)) := by
  simp only [answer]
  split
  · rename_i place leads
    exact ⟨rfl, fun _ => ⟨place, find_directory.mp leads⟩, fun _ => rfl⟩
  · rename_i other
    refine ⟨rfl, nofun, ?_⟩
    rintro ⟨place, leads⟩
    exact absurd (find_directory.mpr leads) (other place)

theorem acceptDirectory_run (t : Tree) (here : List String) (path : String) (cause : Cause) :
    ((acceptDirectory path cause).run (answer here) t).2 = t ∧
    (((acceptDirectory path cause).run (answer here) t).1 = .ok () ↔
      ∃ place, t.locate here path = .ok (.directory place)) := by
  obtain ⟨same, there⟩ := isDirectory_answer t here path
  refine ⟨same, Iff.trans ?_ there⟩
  simp only [acceptDirectory, Script.run]
  split
  · rename_i is
    simp [is]
  · rename_i is
    simp [is]

-- What making a chain of directories comes to: only directories are added, and where it succeeds
-- the first path leads to one.
structure Chained (here : List String) (paths : List String) (t : Tree)
    (made : Except Cause Unit × Tree) : Prop where
  grows : Grows t made.2
  leads : made.1 = .ok () → ∀ path ∈ paths.head?,
    ∃ place, made.2.locate here path = .ok (.directory place)

theorem accepted_chained {above : List String} (grows : Grows t u) (cause : Cause) :
    Chained here (path :: above) t ((acceptDirectory path cause).run (answer here) u) := by
  obtain ⟨same, there⟩ := acceptDirectory_run u here path cause
  refine ⟨by rwa [same], ?_⟩
  rintro done _ ⟨⟩
  rw [same]
  exact there.mp done

theorem made_chained {above : List String} (grows : Grows t u)
    (vacant : u.locate here path = .ok (.vacant place)) :
    Chained here (path :: above) t (.ok (), u.insert place .directory) := by
  obtain ⟨none, leads⟩ := locate_made vacant
  refine ⟨grows_trans grows (grows_made none (vacant_below vacant)), ?_⟩
  rintro _ _ ⟨⟩
  exact ⟨place, leads⟩

theorem makeChain_cons (here above : List String) (path : String) (t : Tree) :
    (makeChain (path :: above)).run (answer here) t =
      match answer here (.makeDirectory path) t with
      | (.ok (), u) => (.ok (), u)
      | (.error .missing, u) =>
          match (makeChain above).run (answer here) u with
          | (.error cause, v) => (.error cause, v)
          | (.ok (), v) =>
              match answer here (.makeDirectory path) v with
              | (.ok (), w) => (.ok (), w)
              | (.error cause, w) => (acceptDirectory path cause).run (answer here) w
      | (.error cause, u) => (acceptDirectory path cause).run (answer here) u := by
  have once : ∀ v, (makeDirectory path).run (answer here) v = answer here (.makeDirectory path) v :=
    fun _ => rfl
  rw [makeChain, Script.run_do, once]
  rcases answer here (.makeDirectory path) t with ⟨first, u⟩
  cases first with
  | ok made => rfl
  | error cause =>
      cases cause with
      | missing =>
          simp only [Script.run_do]
          rcases (makeChain above).run (answer here) u with ⟨rest, v⟩
          cases rest with
          | error cause => rfl
          | ok made =>
              simp only [Script.run_do, once]
              rcases answer here (.makeDirectory path) v with ⟨second, w⟩
              cases second <;> rfl
      | _ => rfl

theorem makeChain_run (here : List String) (paths : List String) (t : Tree) :
    Chained here paths t ((makeChain paths).run (answer here) t) := by
  induction paths generalizing t with
  | nil => exact ⟨grows_refl t, fun _ => by simp⟩
  | cons path above ih =>
      rw [makeChain_cons]
      rcases made_cases t here path with ⟨place, vacant, made⟩ | ⟨cause, refused⟩
      · rw [made]
        exact made_chained (grows_refl t) vacant
      · rw [refused]
        cases cause with
        | missing =>
            have grows := (ih t).grows
            simp only
            generalize (makeChain above).run (answer here) t = chain at grows ⊢
            obtain ⟨rest, v⟩ := chain
            cases rest with
            | error cause => exact ⟨grows, nofun⟩
            | ok done =>
                simp only
                rcases made_cases v here path with ⟨place, vacant, made⟩ | ⟨cause, refused⟩
                · rw [made]
                  exact made_chained grows vacant
                · rw [refused]
                  exact accepted_chained grows cause
        | _ => exact accepted_chained (grows_refl t) _

-- A chain whose first path leads to a directory already needs nothing made.
theorem makeChain_there (there : t.locate here path = .ok (.directory place)) (above : List String) :
    (makeChain (path :: above)).run (answer here) t = (.ok (), t) := by
  obtain ⟨same, accepted⟩ := acceptDirectory_run t here path .present
  rw [makeChain_cons]
  simp only [answer, there]
  exact Prod.ext (accepted.mpr ⟨place, there⟩) same

end Tree

end Files

end LinkedKeys

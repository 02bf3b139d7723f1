import LinkedKeys.Proofs.Files.Places

namespace LinkedKeys

namespace Text

variable {mark : Char} {cs piece : List Char}

theorem pieces_unmarked (among : piece ∈ pieces mark cs) : mark ∉ piece := by
  induction cs generalizing piece with
  | nil =>
      obtain rfl := List.mem_singleton.mp among
      exact List.not_mem_nil
  | cons c cs ih =>
      obtain ⟨first, rest, cut⟩ := pieces_some mark cs
      rw [cut] at ih
      unfold pieces at among
      split at among
      · obtain rfl | later := List.mem_cons.mp among
        · exact List.not_mem_nil
        · exact ih (cut ▸ later)
      · rename_i other
        rw [cut] at among
        obtain rfl | later := List.mem_cons.mp among
        · intro marked
          obtain rfl | marked := List.mem_cons.mp marked
          · exact other rfl
          · exact ih List.mem_cons_self marked
        · exact ih (List.mem_cons_of_mem first later)

end Text

namespace Files

namespace Path

variable {path : String} {ns : List String} {absolute : Bool}

-- A name as one finds it between separators.
structure IsName (name : String) : Prop where
  named : name ≠ ""
  whole : '/' ∉ name.toList

theorem names_sound : ∀ name ∈ names path, IsName name := by
  intro name among
  obtain ⟨piece, kept, rfl⟩ := List.mem_map.mp among
  obtain ⟨cut, full⟩ := List.mem_filter.mp kept
  refine ⟨?_, ?_⟩
  · simpa using full
  · rw [String.toList_ofList]
    exact Text.pieces_unmarked cut

theorem names_single {name : String} (sound : IsName name) : names name = [name] := by
  have full : name.toList ≠ [] := by simpa using sound.named
  rw [names, Text.pieces_whole sound.whole, List.filter_cons_of_pos (by simpa using full)]
  simp

theorem names_parted {name : String} (sound : IsName name) (rest : String) :
    names (name ++ "/" ++ rest) = name :: names rest := by
  have parted : (name ++ "/" ++ rest).toList = name.toList ++ '/' :: rest.toList := by simp
  rw [names, parted, Text.pieces_append, List.filter_append, List.map_append]
  exact congrArg (· ++ names rest) (names_single sound)

theorem names_slash (rest : String) : names ("/" ++ rest) = names rest := by
  have slashed : ("/" ++ rest).toList = '/' :: rest.toList := by simp
  rw [names, slashed]
  simp [Text.pieces, names]

theorem names_joined (sound : ∀ name ∈ ns, IsName name) : names ("/".intercalate ns) = ns := by
  induction ns with
  | nil => rfl
  | cons name rest ih =>
      have first := sound name List.mem_cons_self
      have later := ih fun other among => sound other (List.mem_cons_of_mem name among)
      cases rest with
      | nil => exact names_single first
      | cons next more => rw [String.intercalate_cons_cons, names_parted first, later]

theorem names_ofNames (absolute : Bool) (sound : ∀ name ∈ ns, IsName name) :
    names (ofNames absolute ns) = ns := by
  cases absolute with
  | true => exact (names_slash _).trans (names_joined sound)
  | false =>
      refine Eq.trans ?_ (names_joined sound)
      simp [ofNames]

theorem isAbsolute_ofNames (absolute : Bool) (some : ns ≠ []) (sound : ∀ name ∈ ns, IsName name) :
    isAbsolute (ofNames absolute ns) = absolute := by
  cases absolute with
  | true => simp [isAbsolute, ofNames]
  | false =>
      obtain ⟨name, rest, rfl⟩ := List.exists_cons_of_ne_nil some
      have first := sound name List.mem_cons_self
      obtain ⟨c, cs, cut⟩ := List.exists_cons_of_ne_nil (show name.toList ≠ [] by simpa using first.named)
      have other : c ≠ '/' := by
        rintro rfl
        exact first.whole (cut ▸ List.mem_cons_self)
      cases rest with
      | nil => simp [isAbsolute, ofNames, cut, other]
      | cons next more => simp [isAbsolute, ofNames, String.intercalate_cons_cons, cut, other]

-- Taking last names away leaves the names in front.
theorem ancestorsOfNames_front {back : List String} (among : path ∈ ancestorsOfNames absolute back) :
    ∃ front, front ≠ [] ∧ front <+: back.reverse ∧ path = ofNames absolute front := by
  induction back with
  | nil => cases among
  | cons last shorter ih =>
      unfold ancestorsOfNames at among
      split at among
      · cases among
      · rename_i some
        rw [List.reverse_cons]
        obtain rfl | later := List.mem_cons.mp among
        · exact ⟨shorter.reverse, by simpa using some, List.prefix_append _ _, rfl⟩
        · obtain ⟨front, full, ahead, written⟩ := ih later
          exact ⟨front, full, ahead.trans (List.prefix_append _ _), written⟩

theorem ancestors_front {ancestor : String} (among : ancestor ∈ ancestors path) :
    isAbsolute ancestor = isAbsolute path ∧ names ancestor <+: (names path).filter (· ≠ ".") := by
  obtain ⟨front, some, ahead, rfl⟩ := ancestorsOfNames_front among
  rw [List.reverse_reverse] at ahead
  have sound : ∀ name ∈ front, IsName name := fun name among =>
    names_sound name (List.mem_of_mem_filter (ahead.subset among))
  rw [isAbsolute_ofNames _ some sound, names_ofNames _ sound]
  exact ⟨rfl, ahead⟩

end Path

namespace Tree

open Files.Path

variable {t u : Tree} {here start above place : List String} {ns front rest : List String}
  {path dir name : String} {entry : Entry}

theorem ofEntry_directory {found? : Option Entry}
    (same : .directory place = Target.ofEntry above found?) :
    found? = some .directory ∧ place = above := by
  obtain _ | entry := found?
  · cases same
  · cases entry <;> cases same
    exact ⟨rfl, rfl⟩

theorem ofEntry_vacant {found? : Option Entry} (same : .vacant place = Target.ofEntry above found?) :
    found? = none ∧ place = above := by
  obtain _ | entry := found?
  · cases same
    exact ⟨rfl, rfl⟩
  · cases entry <;> cases same

theorem ofEntry_file {found? : Option Entry} {content : List UInt8}
    (same : .file place content = Target.ofEntry above found?) :
    found? = some (.file content) ∧ place = above := by
  obtain _ | entry := found?
  · cases same
  · cases entry <;> cases same
    exact ⟨rfl, rfl⟩

-- A name stays, goes up, or leads to what stands under it.
theorem enter_cases {target : Target} (leads : t.enter above name = .ok target) :
    (name = "." ∧ target = .directory above) ∨ (name = ".." ∧ target = .directory above.dropLast) ∨
    (name ≠ "." ∧ name ≠ ".." ∧ target = .ofEntry (above ++ [name]) (t.at? (above ++ [name]))) := by
  unfold enter at leads
  split at leads
  · rename_i stays
    cases leads
    exact .inl ⟨stays, rfl⟩
  · rename_i leaves
    split at leads
    · rename_i up
      cases leads
      exact .inr (.inl ⟨up, rfl⟩)
    · rename_i down
      split at leads
      · cases leads
      · cases leads
        exact .inr (.inr ⟨leaves, down, rfl⟩)

theorem follow_append (leads : t.follow start front = .ok (.directory above)) :
    t.follow start (front ++ rest) = t.follow above rest := by
  rw [follow_eq, List.foldl_append, ← follow_eq, leads, ← follow_eq]

theorem follow_front (leads : t.follow start (front ++ rest) = .ok (.directory place)) :
    ∃ above, t.follow start front = .ok (.directory above) := by
  induction rest using List.reverseRecOn generalizing place with
  | nil => exact ⟨place, by rwa [List.append_nil] at leads⟩
  | append_singleton more last ih =>
      rw [← List.append_assoc, follow_snoc] at leads
      obtain ⟨above, first, _⟩ := advance_directory leads
      exact ih first

-- The steps that stay where they are can be left out of a path to a directory.
theorem follow_undotted (leads : t.follow start ns = .ok (.directory place)) :
    t.follow start (ns.filter (· ≠ ".")) = .ok (.directory place) := by
  induction ns using List.reverseRecOn generalizing place with
  | nil => exact leads
  | append_singleton front last ih =>
      rw [follow_snoc] at leads
      obtain ⟨above, first, second⟩ := advance_directory leads
      rw [List.filter_append]
      by_cases stays : last = "."
      · subst stays
        cases second
        simpa using ih first
      · rw [List.filter_cons_of_pos (by simpa using stays), List.filter_nil, follow_snoc, ih first]
        exact second

-- A path that never goes up leads to the place that its names spell.
theorem follow_down (down : ".." ∉ ns) (leads : t.follow start ns = .ok (.directory place)) :
    place = start ++ ns.filter (· ≠ ".") := by
  induction ns using List.reverseRecOn generalizing place with
  | nil =>
      cases leads
      simp
  | append_singleton front last ih =>
      rw [follow_snoc] at leads
      obtain ⟨above, first, second⟩ := advance_directory leads
      obtain rfl := ih (fun among => down (List.mem_append_left _ among)) first
      obtain ⟨rfl, same⟩ | ⟨rfl, _⟩ | ⟨other, _, same⟩ := enter_cases second
      · cases same
        simp
      · exact absurd (List.mem_append_right _ List.mem_cons_self) down
      · obtain ⟨_, rfl⟩ := ofEntry_directory same
        simp [other]

-- The working directory is there, and so is every directory that an entry stands in.
structure Grounded (here : List String) (t : Tree) : Prop where
  stands : t.at? here = some .directory
  parents : ∀ place name, t.at? (place ++ [name]) ≠ none → t.at? place = some .directory

variable {target : Target} {content : List UInt8}

theorem grounded_empty : Grounded [] {} := by
  refine ⟨rfl, ?_⟩
  intro place name some
  simp [at?] at some

-- Where there is nothing, there is nothing below.
theorem Grounded.below (grounded : Grounded here t) (gap : t.at? place = none) (more : List String) :
    t.at? (place ++ more) = none := by
  induction more using List.reverseRecOn with
  | nil => rwa [List.append_nil]
  | append_singleton more last ih =>
      by_contra some
      rw [← List.append_assoc] at some
      rw [grounded.parents _ _ some] at ih
      cases ih

theorem Grounded.origin (grounded : Grounded here t) (path : String) :
    t.at? (if isAbsolute path then [] else here) = some .directory := by
  split
  · rfl
  · exact grounded.stands

theorem Grounded.leads (grounded : Grounded here t) (based : t.at? start = some .directory)
    (leads : t.follow start ns = .ok (.directory place)) : t.at? place = some .directory := by
  induction ns using List.reverseRecOn generalizing place with
  | nil =>
      cases leads
      exact based
  | append_singleton front last ih =>
      rw [follow_snoc] at leads
      obtain ⟨above, first, second⟩ := advance_directory leads
      have there := ih first
      obtain ⟨_, same⟩ | ⟨_, same⟩ | ⟨_, _, same⟩ := enter_cases second
      · cases same
        exact there
      · cases same
        obtain rfl | ⟨front, last, rfl⟩ := List.eq_nil_or_concat above
        · rfl
        · rw [List.concat_eq_append] at there ⊢
          rw [List.dropLast_concat]
          exact grounded.parents front last (by simp [there])
      · obtain ⟨there, rfl⟩ := ofEntry_directory same
        exact there

-- What is found and is no directory stands in one, under the last name of its path.
theorem Grounded.found (grounded : Grounded here t) (leads : t.locate here path = .ok target)
    (other : ∀ place, target ≠ .directory place) : ∃ above name,
      target = .ofEntry (above ++ [name]) (t.at? (above ++ [name])) ∧
      t.at? above = some .directory := by
  obtain ⟨_, leads⟩ := locate_some leads
  have based := grounded.origin path
  unfold way at leads
  generalize (if isAbsolute path then [] else here) = start at leads based
  obtain none | ⟨front, last, cut⟩ := List.eq_nil_or_concat (Path.names path)
  · rw [none] at leads
    cases leads
    exact absurd rfl (other start)
  · rw [cut, List.concat_eq_append, follow_snoc] at leads
    cases first : t.follow start front with
    | error cause => rw [first] at leads; cases leads
    | ok found =>
        rw [first] at leads
        cases found with
        | file place content => cases leads
        | vacant place => cases leads
        | directory above =>
            obtain ⟨_, same⟩ | ⟨_, same⟩ | ⟨_, _, same⟩ := enter_cases leads
            · exact absurd same (other _)
            · exact absurd same (other _)
            · exact ⟨above, last, same, grounded.leads based first⟩

theorem Grounded.insert (grounded : Grounded here t) (parent : t.at? above = some .directory)
    (free : t.at? (above ++ [name]) ≠ some .directory) (entry : Entry) :
    Grounded here (t.insert (above ++ [name]) entry) := by
  have keeps := keeps_insert free entry
  refine ⟨keeps here grounded.stands, ?_⟩
  intro place last some
  by_cases same : place ++ [last] = above ++ [name]
  · obtain ⟨rfl, _⟩ := List.append_inj' same rfl
    exact keeps place parent
  · rw [at?_insert_other t entry same] at some
    exact keeps place (grounded.parents place last some)

theorem Grounded.erase (grounded : Grounded here t) (free : t.at? place ≠ some .directory) :
    Grounded here (t.erase place) := by
  have keeps := keeps_erase free
  refine ⟨keeps here grounded.stands, ?_⟩
  intro above last some
  refine keeps above (grounded.parents above last fun none => some ?_)
  by_cases same : above ++ [last] = place
  · subst same
    exact at?_erase (by simp)
  · rwa [at?_erase_other t same]

theorem Grounded.vacant (grounded : Grounded here t) (leads : t.locate here path = .ok (.vacant place))
    (entry : Entry) : Grounded here (t.insert place entry) := by
  obtain ⟨above, name, same, parent⟩ := grounded.found leads (fun place => nofun)
  obtain ⟨none, rfl⟩ := ofEntry_vacant same
  exact grounded.insert parent (by simp [none]) entry

theorem Grounded.file (grounded : Grounded here t)
    (leads : t.locate here path = .ok (.file place content)) :
    t.at? place ≠ some .directory ∧ ∀ entry, Grounded here (t.insert place entry) := by
  obtain ⟨above, name, same, parent⟩ := grounded.found leads (fun place => nofun)
  obtain ⟨there, rfl⟩ := ofEntry_file same
  exact ⟨by simp [there], grounded.insert parent (by simp [there])⟩

theorem answer_grounded (grounded : Grounded here t) (call : Call) :
    Grounded here (answer here call t).2 := by
  cases call with
  | read path => rwa [read_quiet]
  | isPresent path => rwa [isPresent_quiet]
  | isDirectory path => rwa [(isDirectory_answer t here path).1]
  | makeDirectory path =>
      obtain ⟨place, vacant, made⟩ | ⟨cause, refused⟩ := made_cases t here path
      · rw [made]
        exact grounded.vacant vacant .directory
      · rw [refused]
        exact grounded
  | replace path content =>
      simp only [answer]
      split
      · exact grounded
      · exact grounded
      · rename_i place found
        exact grounded.vacant (locate_of_find found) (.file content)
      · rename_i place old found
        exact (grounded.file (locate_of_find found)).2 (.file content)
  | remove path =>
      simp only [answer]
      split
      · exact grounded
      · exact grounded
      · exact grounded
      · rename_i place old found
        exact grounded.erase (grounded.file (locate_of_find found)).1

theorem run_grounded {α : Type} (grounded : Grounded here t) (script : Script α) :
    Grounded here (script.run (answer here) t).2 := by
  refine Script.run_related (fun t u => Grounded here t → Grounded here u) ?_ ?_ (answer here) ?_
    script t grounded
  · exact fun _ => id
  · exact fun first second => second ∘ first
  · exact fun call _ before => answer_grounded before call

theorem locate_keeps (keeps : Keeps t u) (leads : t.locate here path = .ok (.directory place)) :
    u.locate here path = .ok (.directory place) := by
  obtain ⟨sayable, way⟩ := locate_some leads
  rw [locate_sayable sayable]
  exact follow_keeps keeps way

-- A place that is new is one that a path of the chain leads to from then on.
def MadeBy (here : List String) (paths : List String) (t u : Tree) : Prop :=
  ∀ place, u.at? place ≠ t.at? place → ∃ path ∈ paths, u.locate here path = .ok (.directory place)

theorem madeBy_made {paths : List String} {v : Tree} (madeBy : MadeBy here paths t v)
    (vacant : v.locate here path = .ok (.vacant place)) :
    MadeBy here (path :: paths) t (v.insert place .directory) := by
  intro other new
  obtain ⟨none, leads⟩ := locate_made vacant
  by_cases same : other = place
  · subst same
    exact ⟨path, List.mem_cons_self, leads⟩
  · rw [at?_insert_other v .directory same] at new
    obtain ⟨before, among, there⟩ := madeBy other new
    have keeps : Keeps v (v.insert place .directory) := keeps_insert (by simp [none]) .directory
    exact ⟨before, List.mem_cons_of_mem path among, locate_keeps keeps there⟩

theorem madeBy_more {paths : List String} (madeBy : MadeBy here paths t u) (path : String) :
    MadeBy here (path :: paths) t u := by
  intro place new
  obtain ⟨before, among, there⟩ := madeBy place new
  exact ⟨before, List.mem_cons_of_mem path among, there⟩

theorem makeChain_madeBy (here paths : List String) (t : Tree) :
    MadeBy here paths t ((makeChain paths).run (answer here) t).2 := by
  induction paths generalizing t with
  | nil => exact fun place new => absurd rfl new
  | cons path above ih =>
      have nothing : MadeBy here above t t := fun place new => absurd rfl new
      rw [makeChain_cons]
      obtain ⟨place, vacant, made⟩ | ⟨cause, refused⟩ := made_cases t here path
      · rw [made]
        exact madeBy_made nothing vacant
      · rw [refused]
        cases cause with
        | missing =>
            have madeBy := ih t
            simp only
            generalize (makeChain above).run (answer here) t = chain at madeBy ⊢
            obtain ⟨rest, v⟩ := chain
            cases rest with
            | error cause => exact madeBy_more madeBy path
            | ok done =>
                simp only
                obtain ⟨place, vacant, made⟩ | ⟨cause, refused⟩ := made_cases v here path
                · rw [made]
                  exact madeBy_made madeBy vacant
                · rw [refused]
                  simp only
                  rw [(acceptDirectory_run v here path cause).1]
                  exact madeBy_more madeBy path
        | _ =>
            simp only
            rw [(acceptDirectory_run t here path _).1]
            exact madeBy_more nothing path

-- Nothing is found at the end of a path, or its way is not there either.
inductive Lost : Except Cause Target → Prop where
  | missing : Lost (.error .missing)
  | vacant (place : List String) : Lost (.ok (.vacant place))

def Absent (here : List String) (path : String) (t : Tree) : Prop := Lost (t.way here path)

-- A path that never goes up again behind a name that is not there.
def Forward (here : List String) (path : String) (t : Tree) : Prop :=
  ∃ front rest above, names path = front ++ rest ∧ ".." ∉ rest ∧
    t.follow (if isAbsolute path then [] else here) front = .ok (.directory above)

theorem lost_advance {found : Except Cause Target} (lost : Lost (t.advance found name)) :
    Lost found ∨ ∃ above, found = .ok (.directory above) ∧ name ≠ "." ∧
      t.at? (above ++ [name]) = none := by
  cases found with
  | error cause => exact .inl lost
  | ok target =>
      cases target with
      | file place content => cases lost
      | vacant place => exact .inl (.vacant place)
      | directory above =>
          refine .inr ⟨above, rfl, ?_⟩
          simp only [advance, enter] at lost
          split at lost
          · cases lost
          · rename_i leaves
            split at lost
            · cases lost
            · split at lost
              · cases lost
              · cases there : t.at? (above ++ [name]) with
                | none => exact ⟨leaves, rfl⟩
                | some entry => rw [there] at lost; cases entry <;> cases lost

-- A path that leads nowhere and never goes up has a first name under which there is nothing.
theorem follow_gap (down : ".." ∉ ns) (lost : Lost (t.follow start ns)) :
    ∃ gap, gap <+: ns.filter (· ≠ ".") ∧ t.at? (start ++ gap) = none := by
  induction ns using List.reverseRecOn with
  | nil => cases lost
  | append_singleton front last ih =>
      rw [follow_snoc] at lost
      rw [List.filter_append]
      have forward : ".." ∉ front := fun among => down (List.mem_append_left _ among)
      obtain early | ⟨above, first, other, none⟩ := lost_advance lost
      · obtain ⟨gap, ahead, none⟩ := ih forward early
        exact ⟨gap, ahead.trans (List.prefix_append _ _), none⟩
      · obtain rfl := follow_down forward first
        have kept : [last].filter (· ≠ ".") = [last] :=
          List.filter_cons_of_pos (by simpa using other)
        refine ⟨front.filter (· ≠ ".") ++ [last], ?_, ?_⟩
        · exact ⟨[], by rw [kept, List.append_nil]⟩
        · rwa [← List.append_assoc]

-- Where a path or an ancestor of it leads, some of its names lead without the steps that stay.
theorem chain_front {ancestor : String} (among : ancestor ∈ path :: ancestors path)
    (leads : t.locate here ancestor = .ok (.directory place)) :
    ∃ front, front <+: (names path).filter (· ≠ ".") ∧
      t.follow (if isAbsolute path then [] else here) front = .ok (.directory place) := by
  obtain ⟨_, reached⟩ := locate_some leads
  obtain rfl | shorter := List.mem_cons.mp among
  · exact ⟨_, List.prefix_rfl, follow_undotted reached⟩
  · obtain ⟨same, ahead⟩ := ancestors_front shorter
    rw [way, same] at reached
    exact ⟨names ancestor, ahead, reached⟩

theorem keeps_grows (grows : Grows t u) : Keeps t u := by
  intro place there
  obtain same | ⟨none, _⟩ := grows place
  · exact same.trans there
  · rw [there] at none
    cases none

-- Below a directory that has still to be made there is nothing.
theorem missing_below (grounded : Grounded here t) (down : ".." ∉ rest) (absent : Lost (t.follow above rest))
    (name : String) : t.at? (above ++ rest.filter (· ≠ ".") ++ [name]) = none := by
  obtain ⟨gap, ⟨more, cut⟩, none⟩ := follow_gap down absent
  rw [← cut, List.append_assoc, List.append_assoc, ← List.append_assoc]
  exact grounded.below none (more ++ [name])

-- What the first names of a path lead to is there from the start on.
theorem early_there (grounded : Grounded here t) (based : t.at? start = some .directory)
    (keeps : Keeps t u) (reached : t.follow start front = .ok (.directory above))
    (within : ns <+: front.filter (· ≠ ".")) (leads : u.follow start ns = .ok (.directory place)) :
    t.at? place = some .directory := by
  obtain ⟨more, whole⟩ := within
  have early := follow_undotted reached
  rw [← whole] at early
  obtain ⟨other, early⟩ := follow_front early
  have same := (follow_keeps keeps early).symm.trans leads
  cases same
  exact grounded.leads based early

-- Names that lead further spell a part of the place, so none of them leads below it.
theorem none_below {more : List String} {name : String} (down : ".." ∉ rest)
    (ahead : more <+: rest.filter (· ≠ ".")) :
    u.follow above more ≠ .ok (.directory (above ++ rest.filter (· ≠ ".") ++ [name])) := by
  intro leads
  have under : ".." ∉ more := fun among => down (List.mem_of_mem_filter (ahead.subset among))
  have spelt := congrArg List.length (follow_down under leads)
  have short := Nat.le_trans (List.length_filter_le (· ≠ ".") more) ahead.length_le
  simp only [List.length_append, List.length_singleton] at spelt
  omega

theorem made_keeps {paths : List String} {ready : Tree}
    (made : (makeChain paths).run (answer here) t = (.ok (), ready)) : Keeps t ready := by
  have chained := makeChain_run here paths t
  rw [made] at chained
  exact keeps_grows chained.grows

-- No directory that is made on the way stands below the one that is made at the end.
theorem made_empty {ready : Tree} (grounded : Grounded here t) (forward : Forward here path t)
    (absent : Absent here path t)
    (made : (makeChain (path :: ancestors path)).run (answer here) t = (.ok (), ready))
    (leads : ready.way here path = .ok (.directory place)) (name : String) :
    ready.at? (place ++ [name]) = none := by
  obtain ⟨front, rest, above, cut, down, reached⟩ := forward
  have keeps := made_keeps made
  have madeBy := makeChain_madeBy here (path :: ancestors path) t
  rw [made] at madeBy
  unfold Absent way at absent
  unfold way at leads
  rw [cut, follow_append reached] at absent
  rw [cut, follow_append (follow_keeps keeps reached)] at leads
  obtain rfl := follow_down down leads
  have missing := missing_below grounded down absent name
  by_contra some
  obtain ⟨ancestor, among, there⟩ := madeBy _ (by rwa [missing])
  obtain ⟨ns, ahead, leads⟩ := chain_front among there
  rw [cut, List.filter_append] at ahead
  obtain within | ⟨more, beyond⟩ := List.prefix_or_prefix_of_prefix ahead (List.prefix_append _ _)
  · rw [early_there grounded (grounded.origin path) keeps reached within leads] at missing
    cases missing
  · rw [← beyond, List.prefix_append_right_inj] at ahead
    rw [← beyond, follow_append (follow_undotted (follow_keeps keeps reached))] at leads
    exact none_below down ahead leads

end Tree

end Files

end LinkedKeys
